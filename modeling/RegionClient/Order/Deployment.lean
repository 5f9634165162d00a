import RegionClient.Parameters

set_option autoImplicit false

/-! # Deployment and release of machines -/

namespace RegionClient

/-- What to deploy on an allocated machine. What is empty is left to the region. -/
structure Deployment where
  /-- Data for the first boot, in base 64. -/
  userData : String
  distroSeries : String
  kernel : String
  comment : String

/-- The parameters of a deployment. -/
def Deployment.parameters (d : Deployment) : Parameters :=
  .nonempty "user_data" d.userData ++ .nonempty "distro_series" d.distroSeries ++
    .nonempty "hwe_kernel" d.kernel ++ .nonempty "comment" d.comment

/-- Which machines to give back. -/
structure Release where
  systemIds : List String
  comment : String

/-- The parameters of a release. -/
def Release.parameters (r : Release) : Parameters :=
  .each "machines" r.systemIds ++ .nonempty "comment" r.comment

/-- Whether a release names no machine. -/
def Release.isEmpty (r : Release) : Bool :=
  r.systemIds.isEmpty

end RegionClient
