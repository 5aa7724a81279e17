/-!
# Archives

An archive is a list of named files, in order. Time and rights are the same for all of them, so
that the same files always make the same archive. Its entries are guarded by the cyclic redundancy
check of 32 bits.
-/
namespace PagePress

namespace Checksum

/-- Divides by the generator polynomial, one bit at a time from the lowest. -/
def shift (r : UInt32) : UInt32 :=
  if r &&& 1 == 1 then (r >>> 1) ^^^ 0xEDB88320 else r >>> 1

/-- The remainder after one more byte. -/
def step (r : UInt32) (b : UInt8) : UInt32 :=
  let r := r ^^^ b.toUInt32
  shift (shift (shift (shift (shift (shift (shift (shift r)))))))

/-- The checksum of some bytes. -/
def ofBytes (data : ByteArray) : UInt32 := data.foldl step 0xFFFFFFFF ^^^ 0xFFFFFFFF

/-- A checksum in eight hexadecimal digits. -/
def toHex (r : UInt32) : String :=
  let digits := Nat.toDigits 16 r.toNat
  String.ofList (List.replicate (8 - digits.length) '0' ++ digits)

end Checksum

structure Timestamp where
  year : Nat
  month : Nat
  day : Nat
  hour : Nat := 0
  minute : Nat := 0
  second : Nat := 0
  deriving DecidableEq, Repr

/-- A number in at least two digits. -/
def twoDigits (n : Nat) : String := if n < 10 then "0" ++ toString n else toString n

def Timestamp.text (t : Timestamp) : String :=
  toString t.year ++ "-" ++ twoDigits t.month ++ "-" ++ twoDigits t.day ++ " " ++
    twoDigits t.hour ++ ":" ++ twoDigits t.minute ++ ":" ++ twoDigits t.second

/-- Bytes are compared one by one. -/
instance bytesDecidableEq : DecidableEq ByteArray := ByteArray.instDecidableEq

namespace Archive

structure Entry where
  name : String
  data : ByteArray
  deriving DecidableEq

/-- The first moment that an archive can name. -/
def modified : Timestamp := ⟨1980, 1, 1, 0, 0, 0⟩

/-- An ordinary file, to be read by all and written by its owner. -/
def mode : Nat := 0o100644

def modeText : String := String.ofList (Nat.toDigits 8 mode)

def methodName : String := "Deflated"

/-- The length of a name is kept in two bytes. -/
def maxNameBytes : Nat := 65535

end Archive

structure Archive where
  entries : List Archive.Entry
  deriving DecidableEq

end PagePress
