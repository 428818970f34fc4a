import SolidityBuild.Path
import SolidityBuild.Text.Utf8

/-! # Names of entries

The system knows a name by its bytes. In a text that stands for a name, characters
stand for their UTF-8 bytes, and a byte that is not UTF-8 is half of a pair. So two
texts may stand for one name, if halves spell a character. The name of an entry is
the text that its bytes read as.
-/

namespace SolidityBuild.FileSystem

/-- The byte that half of a pair stands for in a path. -/
def byteOf? : Rune → Option UInt8
  | .char _ => none
  | .half place =>
    if 0x480 ≤ place.val && place.val < 0x500 then some (UInt8.ofNat (place.val - 0x400)) else none

/-- The bytes that the halves at the front of a text stand for. -/
def bytesInFront : List Rune → List UInt8
  | [] => []
  | c :: rest =>
    match byteOf? c with
    | some byte => byte :: bytesInFront rest
    | none => []

/-- Read the bytes of a name, behind a character that `spelled` more halves spell. -/
def readName (spelled : Nat) : List Rune → Path.Name
  | [] => []
  | c :: rest =>
    match spelled, byteOf? c with
    | spelled + 1, _ => readName spelled rest
    | 0, none => c :: readName 0 rest
    | 0, some byte =>
      match Utf8.front byte (bytesInFront rest) with
      | ⟨.char read, extra⟩ => .char read :: readName extra rest
      | ⟨.fault _, _⟩ => c :: readName 0 rest

/-- The name of the entry that a text stands for. -/
def entryName (text : List Rune) : Path.Name :=
  readName 0 text

end SolidityBuild.FileSystem
