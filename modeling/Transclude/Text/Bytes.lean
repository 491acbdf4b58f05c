import Transclude.Text.Basic

/-!
# Texts as bytes

Files hold bytes; a text is written to a file in UTF-8 and read back from it. Bytes that are not
UTF-8 are no text. What is written reads back (`decode?_encode`).
-/

namespace Transclude

/-- The content of a file. -/
abbrev Bytes := ByteArray

namespace Text

/-- The text in UTF-8. -/
def encode (t : Text) : Bytes := (String.ofList t).toUTF8

/-- The text that `bytes` hold in UTF-8; `none` when they are no UTF-8. -/
def decode? (bytes : Bytes) : Option Text := (String.fromUTF8? bytes).map String.toList

/-- What is written reads back. -/
theorem decode?_encode (t : Text) : decode? (encode t) = some t := by
  unfold decode? encode String.fromUTF8?
  split
  · next h => exact congrArg some (String.toList_ofList (l := t))
  · next h => exact absurd (String.ofList t).isValidUTF8 (by simpa [String.toUTF8] using h)

/-! ## Octets -/

/-- The bytes, each as the character of its number. -/
def octetsOf (bytes : Bytes) : Text := bytes.toList.map fun b => Char.ofNat b.toNat

/-- The bytes that the characters stand for by their numbers. -/
def ofOctets (octets : Text) : Bytes := ⟨(octets.map fun c => c.toNat.toUInt8).toArray⟩

/-- The bytes of the text in UTF-8, each as the character of its number. -/
def octets (t : Text) : Text := octetsOf (encode t)

end Text

end Transclude
