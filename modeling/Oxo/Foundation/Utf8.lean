import Mathlib.Tactic

/-!
Contract: strings seen as their UTF-8 bytes.

Owns: the byte list of a string, strict decoding of a byte list, their inverse
laws, and the fact that a byte below `0x80` in the encoding is a character of
the string and conversely.

Does not own: UTF-8 itself. Encoding, validity and decoding are the core
library's; this module only restates them over byte lists.
-/

namespace Oxo.Foundation

/-- A property of listed characters is checked on the list, not on every scalar value. -/
instance decidableForallChars (holds : Char → Prop) [DecidablePred holds] (chars : List Char) :
    Decidable (∀ char, char ∈ chars → holds char) :=
  List.decidableBAll holds chars

instance decidableExistsChars (holds : Char → Prop) [DecidablePred holds] (chars : List Char) :
    Decidable (∃ char, char ∈ chars ∧ holds char) :=
  List.decidableBEx holds chars

/-- The UTF-8 bytes of a string. -/
def utf8 (text : String) : List UInt8 :=
  text.toByteArray.data.toList

@[simp] theorem utf8_length (text : String) :
    (utf8 text).length = text.utf8ByteSize := by
  rw [← String.size_toByteArray]
  rfl

@[simp] theorem utf8_empty : utf8 "" = [] := rfl

@[simp] theorem utf8_append (left right : String) :
    utf8 (left ++ right) = utf8 left ++ utf8 right := by
  simp [utf8]

theorem utf8_injective {left right : String} (same : utf8 left = utf8 right) :
    left = right := by
  rw [← String.toByteArray_inj]
  exact ByteArray.ext (Array.toList_inj.mp same)

/-- The encoding is the concatenation of the encodings of the characters. -/
theorem utf8_eq_flatMap (text : String) :
    utf8 text = text.toList.flatMap String.utf8EncodeChar := by
  unfold utf8
  rw [← String.utf8Encode_toList, List.utf8Encode]
  simp

theorem toNat_ofNat_of_scalar {code : Nat}
    (scalar : code < 0xd800 ∨ 0xe000 ≤ code ∧ code < 0x110000) : (Char.ofNat code).toNat = code := by
  have valid : code.isValidChar := by
    unfold Nat.isValidChar
    omega
  rw [Char.ofNat, dif_pos valid]
  rfl

private theorem utf8_of_asciiBytes {bytes : List UInt8} (ascii : ∀ byte ∈ bytes, byte < 0x80) :
    utf8 (String.ofList (bytes.map fun byte => Char.ofNat byte.toNat)) = bytes := by
  rw [utf8_eq_flatMap, String.toList_ofList, List.flatMap_map]
  induction bytes with
  | nil => rfl
  | cons byte rest inductionHypothesis =>
      obtain ⟨byteAscii, restAscii⟩ := List.forall_mem_cons.mp ascii
      have small : byte.toNat < 128 := by simpa [UInt8.lt_iff_toNat_lt] using byteAscii
      have code : (Char.ofNat byte.toNat).toNat = byte.toNat :=
        toNat_ofNat_of_scalar (Or.inl (by omega))
      have single : String.utf8EncodeChar (Char.ofNat byte.toNat) = [byte] := by
        have oneByte : String.utf8EncodeChar (Char.ofNat byte.toNat) =
            [UInt8.ofNat (Char.ofNat byte.toNat).toNat] :=
          if_pos (by rw [show (Char.ofNat byte.toNat).val.toNat = byte.toNat from code]; omega)
        rw [oneByte, code, UInt8.ofNat_toNat]
      rw [List.flatMap_cons, single, inductionHypothesis restAscii]
      rfl

/-- ASCII bytes are UTF-8. -/
theorem isValidUTF8_of_ascii {bytes : List UInt8} (ascii : ∀ byte ∈ bytes, byte < 0x80) :
    ByteArray.IsValidUTF8 ⟨bytes.toArray⟩ := by
  have encoded := congrArg List.toArray (utf8_of_asciiBytes ascii)
  rw [utf8, Array.toArray_toList] at encoded
  rw [← encoded]
  exact String.isValidUTF8 _

/-! ## Decoding -/

/-- Whether bytes are UTF-8 is seen at once where all are ASCII. -/
instance decidableUtf8 (bytes : List UInt8) : Decidable (ByteArray.IsValidUTF8 ⟨bytes.toArray⟩) :=
  if ascii : (bytes.all fun byte => byte < 0x80) = true then
    isTrue (isValidUTF8_of_ascii fun byte member =>
      of_decide_eq_true (List.all_eq_true.mp ascii byte member))
  else inferInstance

/-- Strict UTF-8 decoding: `none` unless every byte belongs to a well-formed
sequence. -/
def fromUtf8 (bytes : List UInt8) : Option String :=
  if valid : ByteArray.IsValidUTF8 ⟨bytes.toArray⟩ then
    some (String.fromUTF8 ⟨bytes.toArray⟩ valid)
  else none

/-- Decoding the bytes of a string gives the string back. -/
@[simp] theorem fromUtf8_utf8 (text : String) : fromUtf8 (utf8 text) = some text := by
  have bytesEq : (⟨(utf8 text).toArray⟩ : ByteArray) = text.toByteArray := by
    simp [utf8]
  unfold fromUtf8
  rw [dif_pos (by rw [bytesEq]; exact text.isValidUTF8)]
  exact congrArg some (String.toByteArray_inj.mp bytesEq)

/-- A successful decode consumed exactly the bytes of its result. -/
theorem utf8_of_fromUtf8 {bytes : List UInt8} {text : String}
    (decoded : fromUtf8 bytes = some text) : utf8 text = bytes := by
  unfold fromUtf8 at decoded
  split at decoded
  · cases decoded
    simp [utf8, String.fromUTF8]
  · contradiction

/-! ## ASCII bytes -/

theorem fromUtf8_isSome_of_ascii {bytes : List UInt8} (ascii : ∀ byte ∈ bytes, byte < 0x80) :
    (fromUtf8 bytes).isSome = true := by
  rw [fromUtf8, dif_pos (isValidUTF8_of_ascii ascii)]
  rfl

private theorem forall_code_iff {holds : UInt8 → Prop} :
    (∀ code < 256, holds (UInt8.ofNat code)) ↔ ∀ byte, holds byte := by
  constructor
  · intro all byte
    have found := all byte.toNat byte.toNat_lt
    rwa [UInt8.ofNat_toNat] at found
  · intro all code _
    exact all _

/-- Whether something holds of every byte can be tested. -/
instance (priority := low) decidableForallByte (holds : UInt8 → Prop) [DecidablePred holds] :
    Decidable (∀ byte, holds byte) :=
  decidable_of_iff _ forall_code_iff

theorem utf8_letters (count : Nat) :
    utf8 (String.ofList (List.replicate count 'a')) = List.replicate count 97 := by
  rw [utf8_eq_flatMap, String.toList_ofList]
  induction count with
  | zero => rfl
  | succ count inductionHypothesis =>
      rw [List.replicate_succ, List.flatMap_cons, inductionHypothesis]
      rfl

theorem toNat_asciiByte {char : Char} (small : char.toNat < 128) :
    (UInt8.ofNat char.toNat).toNat = char.toNat :=
  UInt8.toNat_ofNat_of_lt' (show char.toNat < 256 by omega)

/-- An ASCII string is encoded one byte a character. -/
theorem utf8_of_ascii {text : String} (ascii : ∀ char ∈ text.toList, char.toNat < 128) :
    utf8 text = text.toList.map fun char => UInt8.ofNat char.toNat := by
  rw [utf8_eq_flatMap, List.map_eq_flatMap]
  refine List.flatMap_congr fun char member => ?_
  exact if_pos (Nat.le_of_lt_succ (ascii char member))

/-- A byte below `0x80` occurs in the encoding of its own character only. -/
theorem ascii_mem_encodeChar {byte : UInt8} (ascii : byte < 0x80) (char : Char) :
    byte ∈ String.utf8EncodeChar char ↔ char.toNat = byte.toNat := by
  have byteSmall : byte.toNat < 128 := by simpa [UInt8.lt_iff_toNat_lt] using ascii
  have charNat : char.val.toNat = char.toNat := rfl
  have toNatEq : ∀ value, byte = UInt8.ofNat value ↔ byte.toNat = value % 256 := by
    intro value
    rw [← UInt8.toNat_inj]
    simp
  have valid : char.toNat < 0x110000 := by
    rcases char.valid with low | high
    · simp only [charNat] at low; omega
    · simp only [charNat] at high; omega
  unfold String.utf8EncodeChar
  simp only [charNat]
  split_ifs <;> simp only [List.mem_cons, List.not_mem_nil, or_false, toNatEq] <;> omega

/-- A byte below `0x80` occurs in the encoding exactly when the character with
that code point occurs in the string. -/
theorem ascii_mem_utf8 {byte : UInt8} (ascii : byte < 0x80) (text : String) :
    byte ∈ utf8 text ↔ ∃ char ∈ text.toList, char.toNat = byte.toNat := by
  rw [utf8_eq_flatMap, List.mem_flatMap]
  simp only [ascii_mem_encodeChar ascii]

/-- The byte of an ASCII character. -/
theorem asciiByte_mem_utf8 {text : String} {char : Char} (member : char ∈ text.toList)
    (small : char.toNat < 128) : UInt8.ofNat char.toNat ∈ utf8 text := by
  rw [ascii_mem_utf8]
  · exact ⟨char, member, (toNat_asciiByte small).symm⟩
  · rw [UInt8.lt_iff_toNat_lt, toNat_asciiByte small]
    exact small

/-- A string of ASCII bytes is one of ASCII characters. -/
theorem ascii_of_utf8 {text : String} (ascii : ∀ byte ∈ utf8 text, byte < 0x80) {char : Char}
    (member : char ∈ text.toList) : char.toNat < 128 := by
  obtain ⟨byte, byteMember⟩ := List.exists_mem_of_ne_nil _ (@String.utf8EncodeChar_ne_nil char)
  have inText : byte ∈ utf8 text := by
    rw [utf8_eq_flatMap, List.mem_flatMap]
    exact ⟨char, member, byteMember⟩
  have small := ascii byte inText
  rw [(ascii_mem_encodeChar small char).mp byteMember]
  exact UInt8.lt_iff_toNat_lt.mp small

end Oxo.Foundation
