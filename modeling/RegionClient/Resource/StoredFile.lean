import RegionClient.Layout

set_option autoImplicit false

/-! # Stored files -/

namespace RegionClient

/-- A file in the store of a region. Listings leave out the content. -/
structure StoredFile where
  resourceUri : String
  filename : String
  /-- The path from which anyone may fetch the content. -/
  anonUri : String
  /-- The content in base 64. -/
  content : Option String
  deriving DecidableEq

namespace StoredFile

open Layout in
/-- The wire form of a stored file. -/
def layout : Layout StoredFile :=
  StoredFile.mk <$> text "resource_uri" <*> text "filename" <*> text "anon_resource_uri" <*>
    optionalText "content"

/-- The reader of stored files. -/
def reader : Reader StoredFile :=
  layout.reader "file"

/-- The bytes of the content that came with the file. -/
def decodedContent (f : StoredFile) : Except Error (List UInt8) :=
  match f.content with
  | none => .error (.notValid (.contentMissing f.filename))
  | some content =>
    (Base64.decode (Utf8.encode content)).mapError fun fault =>
      .deserialization (.inside ("file " ++ Text.quoted f.filename ++ " content") (.base64 fault))

end StoredFile

end RegionClient
