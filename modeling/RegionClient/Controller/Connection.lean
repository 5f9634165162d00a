import RegionClient.Configuration
import RegionClient.Controller.Basic

set_option autoImplicit false

/-! # Connecting

A connector collects what a connection needs. Connecting fetches the version document, which tells
whether the region speaks the wanted version of the interface.
-/

namespace RegionClient

/-- What a connection needs. -/
structure Connector where
  address : Url
  version : Version
  settings : Settings
  authorizer : Option Authorizer
  /-- The ASCII form of the domain names in addresses. -/
  domains : DomainForm

namespace Connector

/-- The connector for an address, with version 2.0, the standard settings and no credentials. -/
def forAddress (domains : DomainForm) (address : String) : Except Error Connector :=
  match Url.parse domains address with
  | .ok url => .ok ⟨url.closed, .v2_0, .standard, none, domains⟩
  | .error fault => .error (.config (.baseAddress address fault))

/-- The connector for a configuration. -/
def ofConfiguration (domains : DomainForm) (config : Configuration) : Except Error Connector := do
  let url ← config.url domains
  let connector ← forAddress domains url.text
  let version ← config.version
  let settings ← config.settings domains
  return { connector with version := version, settings := settings }

/-- The controller that a connector makes over a transport. -/
def controller (k : Connector) (transport : Transport) : Controller :=
  ⟨k.address, k.version, k.settings.retry, k.settings.compression, k.authorizer, k.domains,
    transport⟩

end Connector

/-! ## Connections -/

/-- The error of a region that does not speak a version. -/
def Version.unspoken (version : Version) : Error :=
  .unsupportedVersion "controller" version

/-- Fetches the version document. A region that has none does not speak the version. -/
def Controller.fetchVersionInfo (c : Controller) : Dialogue VersionInfo := do
  let path := c.apiPath "version/"
  let value ← (c.sendForDocument (.get path [])).mapError fun e =>
    match e with
    | .notFound _ => c.version.unspoken
    | other => other
  .ofExcept (VersionInfo.reader.read c.version value)

/-- A controller with the version document of its region. -/
structure Connection where
  controller : Controller
  info : VersionInfo

namespace Connector

/-- Connects over a transport. -/
def connect (k : Connector) (transport : Transport) : Dialogue Connection := do
  if k.version < .v2_0 then Dialogue.fail k.version.unspoken
  else
    let controller := k.controller transport
    let info ← controller.fetchVersionInfo
    return ⟨controller, info⟩

end Connector

end RegionClient
