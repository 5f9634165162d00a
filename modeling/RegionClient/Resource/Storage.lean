import RegionClient.Layout

set_option autoImplicit false

/-! # Block devices, partitions and file systems -/

namespace RegionClient

/-! ## File systems -/

/-- A file system on a partition or block device. -/
structure Filesystem where
  kind : String
  /-- Where it is mounted, empty if it is not. -/
  mountPoint : String
  label : String
  uuid : String
  deriving DecidableEq

open Layout in
/-- The wire form of a file system. -/
def Filesystem.layout : Layout Filesystem :=
  Filesystem.mk <$> text "fstype" <*> textOrEmpty "mount_point" <*> textOrEmpty "label" <*>
    textOrEmpty "uuid"

/-- The reader of file systems. -/
def Filesystem.reader : Reader Filesystem :=
  Filesystem.layout.reader "filesystem"

/-! ## Partitions -/

/-- A partition of a block device. -/
structure Partition where
  resourceUri : String
  id : Int64
  path : String
  uuid : String
  usedFor : String
  /-- The size in bytes. -/
  size : UInt64
  /-- The file system, if the partition is formatted. -/
  filesystem : Option Filesystem
  deriving DecidableEq

open Layout in
/-- The wire form of a partition. -/
def Partition.layout : Layout Partition :=
  Partition.mk <$> text "resource_uri" <*> int "id" <*> text "path" <*> textOrEmpty "uuid" <*>
    text "used_for" <*> Layout.size "size" <*> optional Filesystem.reader "filesystem"

/-- The reader of partitions. -/
def Partition.reader : Reader Partition :=
  Partition.layout.reader "partition"

/-! ## Block devices -/

/-- A physical or virtual block device. -/
structure BlockDevice where
  resourceUri : String
  id : Int64
  uuid : String
  name : String
  /-- The hardware model, empty for a virtual device. -/
  model : String
  idPath : String
  path : String
  usedFor : String
  tags : List String
  blockSize : UInt64
  /-- The bytes that partitions and file systems take. -/
  usedSize : UInt64
  size : UInt64
  partitions : List Partition
  deriving DecidableEq

/-- The bytes that nothing takes yet. -/
def BlockDevice.availableSize (d : BlockDevice) : UInt64 :=
  if d.usedSize ≤ d.size then d.size - d.usedSize else 0

open Layout in
/-- The wire form of a block device. -/
def BlockDevice.layout : Layout BlockDevice :=
  BlockDevice.mk <$> text "resource_uri" <*> int "id" <*> textOrEmpty "uuid" <*> text "name" <*>
    textOrEmpty "model" <*> textOrEmpty "id_path" <*> text "path" <*> text "used_for" <*>
    texts "tags" <*> Layout.size "block_size" <*> Layout.size "used_size" <*> Layout.size "size" <*>
    many Partition.reader "partitions"

/-- The reader of block devices. -/
def BlockDevice.reader : Reader BlockDevice :=
  BlockDevice.layout.reader "blockdevice"

end RegionClient
