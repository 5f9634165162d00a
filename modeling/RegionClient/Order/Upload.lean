import RegionClient.Error

set_option autoImplicit false

/-! # Uploads -/

namespace RegionClient

/-- Where the bytes of an upload come from. -/
inductive UploadSource where
  | bytes (content : List UInt8)
  /-- A file of the client. -/
  | file (path : String)

/-- A file to be stored, whose bytes are given either themselves or by a path. -/
structure Upload where
  filename : String
  content : Option (List UInt8)
  path : Option String

namespace Upload

/-- The source of the bytes. Wants a name for the stored file, and exactly one source. -/
def source (u : Upload) : Except Rejection UploadSource :=
  if u.filename = "" then .error .filenameMissing
  else
    match u.content, u.path with
    | some content, none => .ok (.bytes content)
    | none, some path => .ok (.file path)
    | none, none => .error .uploadWithoutSource
    | some _, some _ => .error .uploadWithTwoSources

/-- Checks an upload without reading a file. -/
def validate (u : Upload) : Except Rejection Unit :=
  u.source.map fun _ => ()

end Upload

end RegionClient
