import ColumnFilter.Filter.Basic
import ColumnFilter.Sha256

set_option autoImplicit false

/-!
# Fingerprints

The fingerprint of a filter is the SHA-256 hash of a stream of bytes that spells the filter
out. Every part of variable length is preceded by its length and every value by the tag of
its kind, so no stream is the beginning of another.
-/

namespace ColumnFilter

namespace Fingerprint

def version : UInt8 := 1

def filterTag : UInt8 := 0x31

/-- A length in four bytes, the most significant first. Larger lengths are written as the
largest that fits. -/
def lengthBytes (length : Nat) : List UInt8 :=
  Sha256.wordBytes (UInt32.ofNat (min length 0xffffffff))

/-- The bytes of a word of sixty-four bits, the most significant first. -/
def wordBytes (word : UInt64) : List UInt8 :=
  Sha256.wordBytes (word >>> 32).toUInt32 ++ Sha256.wordBytes word.toUInt32

/-- A text: its length in bytes, and its bytes. -/
def textBytes (s : String) : List UInt8 :=
  let bytes := s.toUTF8.toList
  lengthBytes bytes.length ++ bytes

mutual

/-- A value: the tag of its kind, and its contents. -/
def valueBytes : Value → List UInt8
  | .null => [ValueKind.null.tag]
  | .bool b => [ValueKind.bool.tag, if b then 1 else 0]
  | .int i => ValueKind.int.tag :: wordBytes i.toUInt64
  | .uint n => ValueKind.uint.tag :: wordBytes n
  | .float x => ValueKind.float.tag :: wordBytes x.bits
  | .text s => ValueKind.text.tag :: textBytes s
  | .list items => ValueKind.list.tag :: (lengthBytes items.length ++ itemBytes items)
termination_by structural value => value

def itemBytes : List Value → List UInt8
  | [] => []
  | item :: rest => valueBytes item ++ itemBytes rest
termination_by structural items => items

end

/-- A target: the tag of its operator, and its value. -/
def targetBytes (entry : Operator × Value) : List UInt8 :=
  entry.1.tag :: valueBytes entry.2

/-- A column: its name, the number of its operators, and their targets. -/
def columnBytes (entry : String × Predicate) : List UInt8 :=
  textBytes entry.1 ++ lengthBytes entry.2.size ++ entry.2.entries.flatMap targetBytes

/-- A filter: version, tag, the number of columns, and the columns in order. -/
def stream (f : Filter) : List UInt8 :=
  version :: filterTag :: (lengthBytes f.size ++ f.entries.flatMap columnBytes)

end Fingerprint

def Filter.fingerprint (f : Filter) : List UInt8 :=
  Sha256.hash (Fingerprint.stream f)

end ColumnFilter
