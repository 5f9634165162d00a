import RegionClient.Controller.Basic
import RegionClient.Order.Upload
import RegionClient.Resource.StoredFile

set_option autoImplicit false

/-! # Files of a region -/

namespace RegionClient

/-- The files of the client: the bytes at a path, or why they cannot be read. -/
abbrev LocalFiles : Type :=
  String → Except String (List UInt8)

namespace Controller

/-- Where the region keeps files. -/
def filesPath (c : Controller) : String :=
  c.apiPath "files/"

/-- Lists the files whose names begin with a text. -/
def files (c : Controller) (beginning : String) : Dialogue (List StoredFile) :=
  c.list StoredFile.reader "files/" (.operation "list" ++ .nonempty "prefix" beginning)

/-- The path of a file: one segment more than that of all files, and a slash. -/
def filePath (c : Controller) (filename : String) : Except Error String := do
  let all ← c.endpoint c.filesPath
  match all.path with
  | .plain _ => throw (.invalidEndpoint (.cannotExtend c.address.text))
  | .segments names =>
    let push := UrlPath.push (Url.isSpecial all.scheme)
    return (UrlPath.segments (push (push (UrlPath.withoutSlash names) filename) "")).text

/-- Fetches a file with its content. -/
def getFile (c : Controller) (filename : String) : Dialogue StoredFile := do
  if filename = "" then Dialogue.fail (.notValid .filenameMissing)
  else
    let path ← .ofExcept (c.filePath filename)
    c.sendAndRead (.get path []) StoredFile.reader.read

/-- The bytes of an upload. -/
def uploadContent (disk : LocalFiles) (source : UploadSource) : Except Rejection (List UInt8) :=
  match source with
  | .bytes content => .ok content
  | .file path => (disk path).mapError fun reason => .unreadable path reason

/-- Stores a file. -/
def addFile (c : Controller) (disk : LocalFiles) (upload : Upload) : Dialogue Unit := do
  let source ← Dialogue.check upload.source
  let content ← Dialogue.check (uploadContent disk source)
  let _ ← c.send ⟨.post, c.filesPath, .operation "add", .upload upload.filename content⟩
  return ()

/-- Deletes a file. -/
def deleteFile (c : Controller) (f : StoredFile) : Dialogue Unit :=
  c.delete f.resourceUri

/-- The bytes of a file: its content if it came with it, or else what its public address gives. -/
def contentOf (c : Controller) (f : StoredFile) : Dialogue (List UInt8) :=
  if f.content.isSome then .ofExcept f.decodedContent
  else c.send (.get f.anonUri [])

end Controller

end RegionClient
