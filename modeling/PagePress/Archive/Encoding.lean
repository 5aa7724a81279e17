import PagePress.Archive.Basic

/-!
# Archives as bytes

An archive on disk: for each entry a header and the data, then a directory of the entries, then a
record that tells where the directory begins. The data is in the deflate format, as blocks that are
stored as they are.
-/
namespace PagePress.Archive

/-- The lowest bytes of a number, the lowest first. -/
def lowBytes : Nat → Nat → List UInt8
  | 0, _ => []
  | count + 1, n => (n % 256).toUInt8 :: lowBytes count (n / 256)

def two (n : Nat) : List UInt8 := lowBytes 2 n
def four (n : Nat) : List UInt8 := lowBytes 4 n

def ofBytes (bytes : List UInt8) : ByteArray := ⟨bytes.toArray⟩

/-- The greatest size of a stored block. -/
def maxBlock : Nat := 65535

/-- A stored block: whether it is the last one, its size, the complement of its size, its data. -/
def storedBlock (last : Bool) (block : ByteArray) : ByteArray :=
  ofBytes ((if last then 1 else 0) :: two block.size ++ two (maxBlock - block.size)) ++ block

/-- Data as stored blocks. Each takes away from the size, so that the size is enough fuel. -/
def store (data : ByteArray) : ByteArray := go (data.size + 1) data
where
  go : Nat → ByteArray → ByteArray
    | 0, data => storedBlock true data
    | fuel + 1, data =>
      if data.size ≤ maxBlock then storedBlock true data
      else
        storedBlock false (data.extract 0 maxBlock) ++ go fuel (data.extract maxBlock data.size)

/-- The date of a time in two bytes, the years counted from 1980. -/
def dateNumber (t : Timestamp) : Nat := ((t.year - 1980) * 16 + t.month) * 32 + t.day

/-- The time of day in two bytes, in steps of two seconds. -/
def timeNumber (t : Timestamp) : Nat := (t.hour * 64 + t.minute) * 32 + t.second / 2

namespace Entry

/-- Whether the name has to be marked as one in UTF-8. -/
def flags (e : Entry) : Nat := if e.name.toList.all (·.toNat < 128) then 0 else 0x800

/-- What the header of an entry and the directory have in common. -/
def description (e : Entry) (stored : ByteArray) : List UInt8 :=
  two 20 ++ two e.flags ++ two 8 ++ two (timeNumber modified) ++ two (dateNumber modified) ++
    four (Checksum.ofBytes e.data).toNat ++ four stored.size ++ four e.data.size ++
    two e.name.utf8ByteSize ++ two 0

/-- The entry itself. -/
def record (e : Entry) : ByteArray :=
  let stored := store e.data
  ofBytes (four 0x04034b50 ++ e.description stored) ++ e.name.toUTF8 ++ stored

/-- The line of the directory for an entry whose record begins at an offset. -/
def directoryRecord (e : Entry) (offset : Nat) : ByteArray :=
  ofBytes (four 0x02014b50 ++ two 0x0314 ++ e.description (store e.data) ++ two 0 ++ two 0 ++
    two 0 ++ four (mode * Nat.pow 2 16) ++ four offset) ++ e.name.toUTF8

end Entry

/-- The records of an archive and its directory, which stand one after the other in the end. -/
def layOut (entries : List Entry) : ByteArray × ByteArray :=
  let add := fun (records, directory) (e : Entry) =>
    (records ++ e.record, directory ++ e.directoryRecord records.size)
  entries.foldl add (ByteArray.empty, ByteArray.empty)

/-- The bytes of an archive. -/
def encode (archive : Archive) : ByteArray :=
  let (records, directory) := layOut archive.entries
  let count := archive.entries.length
  records ++ directory ++
    ofBytes (four 0x06054b50 ++ two 0 ++ two 0 ++ two count ++ two count ++ four directory.size ++
      four records.size ++ two 0)

end PagePress.Archive
