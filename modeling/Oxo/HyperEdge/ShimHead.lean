import Oxo.HyperEdge.Shim

/-!
Contract: what the TCP Rack worker reads of a well-formed head.

Owns: the request line and the header lines that read back, the header loop over them up to
the caps, and the content length of a body.

Does not own: who writes the head.
-/

namespace Oxo.HyperEdge.Shim

open Oxo.Foundation

/-! ## Lines -/

/-- A field as a line. -/
def fieldLine (field : Bytes × Bytes) : Bytes :=
  field.1 ++ 58 :: 32 :: field.2 ++ crlf

/-- A field that can be read back from its line. -/
structure Field (field : Bytes × Bytes) : Prop where
  nonempty : field.1 ≠ []
  name : ∀ byte ∈ field.1, byte ≠ 58 ∧ isStripped byte = false ∧ byteToAsciiLowercase byte = byte
  allowed : field.1 ≠ utf8 "transfer-encoding"
  value : (13 : UInt8) ∉ field.2
  stripped : strip field.2 = field.2

section

variable {line text rest : Bytes} {headers : Headers} {field : Bytes × Bytes}

theorem gets_line (plain : (13 : UInt8) ∉ line) (rest : Bytes) :
    gets (line ++ (crlf ++ rest)) = some (line ++ crlf, rest) := by
  have found : windowPosition crlf (line ++ (crlf ++ rest)) = some line.length := by
    rw [crlf, windowPosition_skip plain, windowPosition_of_prefix, Option.map_some, Nat.zero_add]
  have nonempty : line ++ (crlf ++ rest) ≠ [] := by simp [crlf]
  have length : line.length + 2 = (line ++ crlf).length := by simp [crlf]
  rw [gets, if_neg nonempty, found]
  simp only
  rw [← List.append_assoc, length, List.take_left, List.drop_left]

theorem chomp_line (line : Bytes) : chomp (line ++ crlf) = line := by
  simp [chomp, crlf]

/-- Nothing is stripped where no byte is of the class. -/
theorem stripped_of_plain {inClass : UInt8 → Bool}
    (plain : ∀ byte ∈ text, inClass byte = false) :
    (text.dropWhile inClass).rdropWhile inClass = text := by
  have front : text.dropWhile inClass = text := by
    rw [List.dropWhile_eq_self_iff]
    intro nonempty
    rw [plain _ (List.getElem_mem nonempty)]
    exact Bool.false_ne_true
  rw [front, List.rdropWhile_eq_self_iff]
  intro nonempty
  rw [plain _ (List.getLast_mem nonempty)]
  exact Bool.false_ne_true

theorem splitFirst_append {separator : UInt8} (absent : separator ∉ text) (rest : Bytes) :
    splitFirst separator (text ++ separator :: rest) = some (text, rest) := by
  have passes : ∀ byte ∈ text, (byte != separator) = true := by
    intro byte member
    exact bne_iff_ne.mpr fun same => absent (same ▸ member)
  have stops : ¬ (separator != separator) = true := by simp
  rw [splitFirst, List.dropWhile_append_of_pos passes, List.takeWhile_append_of_pos passes,
    List.dropWhile_cons, List.takeWhile_cons, if_neg stops, if_neg stops, List.append_nil]

theorem splitFirst_eq_none {separator : UInt8} (absent : separator ∉ text) :
    splitFirst separator text = none := by
  have passes : ∀ byte ∈ text, (byte != separator) = true := by
    intro byte member
    exact bne_iff_ne.mpr fun same => absent (same ▸ member)
  rw [splitFirst, List.dropWhile_eq_nil_iff.mpr passes]

/-! ## Header lines -/

theorem fieldLine_plain (isField : Field field) : (13 : UInt8) ∉ field.1 ++ 58 :: 32 :: field.2 := by
  intro member
  rcases List.mem_append.mp member with inName | inValue
  · have notBlank := (isField.name 13 inName).2.1
    cases notBlank
  · rcases List.mem_cons.mp inValue with colon | blankOrValue
    · cases colon
    · rcases List.mem_cons.mp blankOrValue with blank | inText
      · cases blank
      · exact isField.value inText

theorem fieldLine_ne_crlf : fieldLine field ≠ crlf := by
  intro same
  have length := congrArg List.length same
  rw [fieldLine, List.length_append, List.length_append, List.length_cons,
    List.length_cons] at length
  omega

/-- A field is refused only where its name was read before. -/
theorem noteHeader_fieldLine (isField : Field field) :
    noteHeader headers (fieldLine field) =
      if field.1 ∈ headers.map Prod.fst then .error ⟨400, "duplicate header"⟩
      else .ok (headers ++ [field]) := by
  obtain ⟨first, others, name⟩ := List.exists_cons_of_ne_nil isField.nonempty
  have plain : ∀ byte ∈ field.1, isStripped byte = false := fun byte member =>
    (isField.name byte member).2.1
  have notFolded : ∀ byte, isStripped byte = true → ¬ (fieldLine field).head? = some byte := by
    intro byte blank opens
    have same : first = byte := by
      rw [fieldLine, name] at opens
      exact Option.some.inj opens
    have notBlank := plain first (name ▸ List.mem_cons_self)
    rw [same, blank] at notBlank
    cases notBlank
  have noColon : (58 : UInt8) ∉ field.1 := fun member => (isField.name 58 member).1 rfl
  have lower : downcase field.1 = field.1 := by
    rw [downcase]
    exact (List.map_congr_left fun byte member => (isField.name byte member).2.2).trans
      (List.map_id _)
  have value : strip (32 :: field.2) = field.2 := by
    have blank : isStripped 32 = true := by decide
    rw [strip, List.dropWhile_cons, if_pos blank]
    exact isField.stripped
  have known : (headers.lookup field.1).isSome = true ↔ field.1 ∈ headers.map Prod.fst := by
    rw [List.lookup_isSome_iff, List.mem_map]
    constructor
    · rintro ⟨other, member, same⟩
      exact ⟨other, member, (beq_iff_eq.mp same).symm⟩
    · rintro ⟨other, member, same⟩
      exact ⟨other, member, beq_iff_eq.mpr same.symm⟩
  rw [noteHeader, if_neg (not_or.mpr ⟨notFolded 32 (by decide), notFolded 9 (by decide)⟩),
    fieldLine, chomp_line, splitFirst_append noColon]
  have name : strip field.1 = field.1 := stripped_of_plain plain
  simp only [name, lower, value, if_neg isField.allowed, known]

private theorem gets_fieldLine {others : List (Bytes × Bytes)} (isField : Field field) :
    gets ((field :: others).flatMap fieldLine ++ (crlf ++ rest)) =
      some (fieldLine field, others.flatMap fieldLine ++ (crlf ++ rest)) := by
  rw [List.flatMap_cons, fieldLine, List.append_assoc, List.append_assoc]
  exact gets_line (fieldLine_plain isField) _

/-- The lines are read in order, up to a name that repeats. -/
theorem readHeaders_fields {fields : List (Bytes × Bytes)} (isField : ∀ field ∈ fields, Field field)
    {left total : Nat} (distinct : (headers.map Prod.fst).Nodup) (few : fields.length ≤ left)
    (short : total + (fields.map fun field => (fieldLine field).length).sum ≤ maxHeaderBytes)
    (rest : Bytes) :
    readHeaders left total headers (fields.flatMap fieldLine ++ (crlf ++ rest)) =
      if ((headers ++ fields).map Prod.fst).Nodup then .ok (headers ++ fields, rest)
      else .error ⟨400, "duplicate header"⟩ := by
  induction fields generalizing left total headers with
  | nil =>
      have last : gets (crlf ++ rest) = some (crlf, rest) := gets_line List.not_mem_nil rest
      rw [List.append_nil, if_pos distinct, List.flatMap_nil, List.nil_append]
      cases left <;> rw [readHeaders, last] <;> simp only [↓reduceIte]
  | cons field others inductionHypothesis =>
      obtain ⟨isFirst, areOthers⟩ := List.forall_mem_cons.mp isField
      have next : gets ((field :: others).flatMap fieldLine ++ (crlf ++ rest)) =
          some (fieldLine field, others.flatMap fieldLine ++ (crlf ++ rest)) :=
        gets_fieldLine isFirst
      have notLast : fieldLine field ≠ crlf := fieldLine_ne_crlf
      rw [List.map_cons, List.sum_cons] at short
      have fits : ¬ maxHeaderBytes < total + (fieldLine field).length := by omega
      obtain ⟨left, rfl⟩ : ∃ fewer, left = fewer + 1 :=
        ⟨left - 1, by rw [List.length_cons] at few; omega⟩
      rw [readHeaders, next]
      simp only [if_neg notLast, if_neg fits, noteHeader_fieldLine isFirst]
      by_cases repeats : field.1 ∈ headers.map Prod.fst
      · have notDistinct : ¬ ((headers ++ field :: others).map Prod.fst).Nodup := by
          rw [List.map_append, List.map_cons]
          intro nodup
          exact (List.nodup_append.mp nodup).2.2 _ repeats _ List.mem_cons_self rfl
        rw [if_pos repeats, if_neg notDistinct]
        rfl
      · have stillDistinct : ((headers ++ [field]).map Prod.fst).Nodup := by
          rw [List.map_append, List.map_singleton]
          refine List.nodup_append.mpr ⟨distinct, List.nodup_singleton _, ?_⟩
          intro name known other isField equal
          rw [List.mem_singleton.mp isField] at equal
          exact repeats (equal ▸ known)
        rw [if_neg repeats]
        have fitsLater : total + (fieldLine field).length +
            (others.map fun field => (fieldLine field).length).sum ≤ maxHeaderBytes := by omega
        have later := inductionHypothesis areOthers stillDistinct
          (Nat.le_of_succ_le_succ few) fitsLater
        rw [List.append_assoc, List.singleton_append] at later
        exact later

/-- More lines than may be left are refused, also where their names are distinct. -/
theorem readHeaders_too_many {fields : List (Bytes × Bytes)}
    (isField : ∀ field ∈ fields, Field field) {left total : Nat} (many : left < fields.length)
    (distinct : ((headers ++ fields).map Prod.fst).Nodup)
    (short : total + (fields.map fun field => (fieldLine field).length).sum ≤ maxHeaderBytes)
    (rest : Bytes) :
    readHeaders left total headers (fields.flatMap fieldLine ++ (crlf ++ rest)) =
      .error ⟨431, "too many headers"⟩ := by
  induction fields generalizing left total headers with
  | nil => exact absurd many (Nat.not_lt_zero _)
  | cons field others inductionHypothesis =>
      obtain ⟨isFirst, areOthers⟩ := List.forall_mem_cons.mp isField
      rw [List.map_cons, List.sum_cons] at short
      have fits : ¬ maxHeaderBytes < total + (fieldLine field).length := by omega
      have fitsLater : total + (fieldLine field).length +
          (others.map fun field => (fieldLine field).length).sum ≤ maxHeaderBytes := by omega
      have fresh : field.1 ∉ headers.map Prod.fst := by
        rw [List.map_append, List.map_cons] at distinct
        intro repeats
        exact (List.nodup_append.mp distinct).2.2 _ repeats _ List.mem_cons_self rfl
      rw [readHeaders, gets_fieldLine isFirst]
      simp only [if_neg fieldLine_ne_crlf, if_neg fits, noteHeader_fieldLine isFirst, if_neg fresh]
      cases left with
      | zero => rfl
      | succ left =>
          rw [List.append_cons] at distinct
          exact inductionHypothesis areOthers (Nat.lt_of_succ_lt_succ many) distinct fitsLater

/-! ## The request line -/

private theorem fieldsFrom_word {word : Bytes} (nonempty : word ≠ [])
    (plain : ∀ byte ∈ word, isSpace byte = false) (left : Nat) :
    fieldsFrom (left + 1) (word ++ 32 :: rest) = word :: fieldsFrom left rest := by
  have passes : ∀ byte ∈ word, (!isSpace byte) = true := by
    intro byte member
    rw [plain byte member]
    rfl
  have stops : ¬ (!isSpace 32) = true := by decide
  have opens : (word ++ 32 :: rest).dropWhile isSpace = word ++ 32 :: rest := by
    obtain ⟨first, others, rfl⟩ := List.exists_cons_of_ne_nil nonempty
    rw [List.cons_append, List.dropWhile_cons, if_neg]
    rw [plain first List.mem_cons_self]
    exact Bool.false_ne_true
  rw [fieldsFrom]
  simp only [opens]
  rw [List.dropWhile_append_of_pos passes, List.takeWhile_append_of_pos passes,
    List.dropWhile_cons, List.takeWhile_cons, if_neg stops, if_neg stops, List.append_nil]

/-- The three words of a request line. -/
theorem splitBlank_requestLine {method target version : Bytes}
    (nonempty : method ≠ [] ∧ target ≠ [] ∧ version ≠ [])
    (plain : ∀ byte ∈ method ++ target ++ version, isSpace byte = false) :
    splitBlank (method ++ 32 :: (target ++ 32 :: version)) 3 = [method, target, version] := by
  have isNonempty : method ++ 32 :: (target ++ 32 :: version) ≠ [] := by simp
  have last : fieldsFrom 0 version = [version] := by
    obtain ⟨first, others, rfl⟩ := List.exists_cons_of_ne_nil nonempty.2.2
    have notBlank := plain first (List.mem_append_right _ List.mem_cons_self)
    rw [fieldsFrom, List.dropWhile_cons, if_neg]
    rw [notBlank]
    exact Bool.false_ne_true
  rw [splitBlank, if_neg isNonempty,
    fieldsFrom_word nonempty.1 fun byte member =>
      plain byte (List.mem_append_left _ (List.mem_append_left _ member)),
    fieldsFrom_word nonempty.2.1 fun byte member =>
      plain byte (List.mem_append_left _ (List.mem_append_right _ member)), last]

/-! ## The content length -/

private theorem digitsValue_digit {byte : UInt8} (digit : (48 ≤ byte && byte ≤ 57) = true)
    (rest : Bytes) (total : Option Nat) :
    digitsValue (byte :: rest) total =
      digitsValue rest (some (total.getD 0 * 10 + (byte.toNat - 48))) := by
  have notBar : byte ≠ 95 := by
    rintro rfl
    exact absurd digit (by decide)
  rw [digitsValue, if_pos digit]
  intro _ _ _ _ bar
  exact absurd bar notBar

end

private theorem byte_of_isDigit {char : Char} (digit : char.isDigit = true) :
    (48 ≤ UInt8.ofNat char.toNat && UInt8.ofNat char.toNat ≤ 57) = true ∧
      (UInt8.ofNat char.toNat).toNat = char.toNat := by
  have bounds := isDigit_iff.mp digit
  have small : char.toNat < 128 := by omega
  have same := toNat_asciiByte small
  refine ⟨?_, same⟩
  rw [Bool.and_eq_true, decide_eq_true_eq, decide_eq_true_eq, UInt8.le_iff_toNat_le,
    UInt8.le_iff_toNat_le, same]
  exact bounds

private theorem digitsValue_digits {chars : List Char} (digits : ∀ char ∈ chars, char.isDigit = true)
    (total : Nat) :
    digitsValue (chars.map fun char => UInt8.ofNat char.toNat) (some total) =
      some (Nat.ofDigitChars 10 chars total) := by
  induction chars generalizing total with
  | nil => rfl
  | cons char rest inductionHypothesis =>
      obtain ⟨isDigit, restDigits⟩ := List.forall_mem_cons.mp digits
      obtain ⟨inRange, same⟩ := byte_of_isDigit isDigit
      rw [List.map_cons, digitsValue_digit inRange, inductionHypothesis restDigits, same,
        Option.getD_some, Nat.ofDigitChars_cons, Nat.mul_comm]
      rfl

/-- Digits have no blanks, no sign and no prefix. -/
private theorem parseInteger_digits {text : Bytes}
    (digits : ∀ byte ∈ text, (48 ≤ byte && byte ≤ 57) = true) :
    parseInteger text = (digitsValue text none).map fun value => (value : Int) := by
  have plain : ∀ byte ∈ text, isSpace byte = false := by
    have all : ∀ byte : UInt8, (48 ≤ byte && byte ≤ 57) = true → isSpace byte = false := by
      decide +kernel
    exact fun byte member => all byte (digits byte member)
  unfold parseInteger
  simp only [stripped_of_plain plain]
  split
  · exact absurd (digits 45 List.mem_cons_self) (by decide)
  · exact absurd (digits 43 List.mem_cons_self) (by decide)
  · simp only [Bool.false_eq_true, ↓reduceIte]
    split
    · exact absurd (digits 100 (List.mem_cons_of_mem _ List.mem_cons_self)) (by decide)
    · exact absurd (digits 68 (List.mem_cons_of_mem _ List.mem_cons_self)) (by decide)
    · rfl

theorem utf8_numeral (value : Nat) :
    utf8 (numeral 10 value) =
      (Nat.toDigits 10 value).map fun char => UInt8.ofNat char.toNat := by
  rw [utf8_of_ascii, numeral, String.toList_ofList]
  intro char member
  have bounds := isDigit_iff.mp (numeral_digits member)
  omega

theorem numeral_bytes {value : Nat} {byte : UInt8} (member : byte ∈ utf8 (numeral 10 value)) :
    (48 ≤ byte && byte ≤ 57) = true := by
  rw [utf8_numeral] at member
  obtain ⟨char, charMember, rfl⟩ := List.mem_map.mp member
  exact (byte_of_isDigit (Nat.isDigit_of_mem_toDigits (by decide) (by decide) charMember)).1

/-- A printed length reads back. -/
theorem parseInteger_numeral (value : Nat) :
    parseInteger (utf8 (numeral 10 value)) = some (value : Int) := by
  have isDigit : ∀ char ∈ Nat.toDigits 10 value, char.isDigit = true := fun _ member =>
    Nat.isDigit_of_mem_toDigits (by decide) (by decide) member
  rw [parseInteger_digits fun _ => numeral_bytes, utf8_numeral]
  cases shape : Nat.toDigits 10 value with
  | nil => exact absurd shape Nat.toDigits_ne_nil
  | cons first others =>
      -- The first digit is read like any other, from a total of zero.
      have same : digitsValue ((first :: others).map fun char => UInt8.ofNat char.toNat) none =
          digitsValue ((first :: others).map fun char => UInt8.ofNat char.toNat) (some 0) := by
        rw [shape] at isDigit
        have inRange := (byte_of_isDigit (isDigit first List.mem_cons_self)).1
        rw [List.map_cons, digitsValue_digit inRange, digitsValue_digit inRange]
        rfl
      rw [same, ← shape, digitsValue_digits isDigit, Nat.ofDigitChars_ten_toDigits]
      rfl

end Oxo.HyperEdge.Shim
