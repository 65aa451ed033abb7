import Oxo.Foundation.Text

/-!
Contract: the operations of the source language that text protocols are read with.

Owns: the first window of a list that equals a needle and what of it a prefix shows, ASCII
characters trimmed from the bytes of a string, pieces between white space, and numbers in base
sixteen.

Does not own: any particular delimiter or line.
-/

namespace Oxo.Foundation

/-! ## Windows -/

section

variable {α : Type} [BEq α]

/-- `windows(needle.len()).position(|window| window == needle)`. -/
def windowPosition (needle : List α) : List α → Option Nat
  | [] => none
  | item :: rest =>
      if needle.isPrefixOf (item :: rest) then some 0
      else (windowPosition needle rest).map (· + 1)

variable [LawfulBEq α] {first : α} {needle : List α}

theorem windowPosition_of_prefix (rest : List α) :
    windowPosition (first :: needle) (first :: needle ++ rest) = some 0 := by
  have found : (first :: needle).isPrefixOf (first :: (needle ++ rest)) = true := by
    rw [List.isPrefixOf_iff_prefix, ← List.cons_append]
    exact List.prefix_append ..
  rw [List.cons_append, windowPosition, if_pos found]

/-- Items that do not open the needle are skipped. -/
theorem windowPosition_skip {front : List α} (absent : first ∉ front) (rest : List α) :
    windowPosition (first :: needle) (front ++ rest) =
      (windowPosition (first :: needle) rest).map (· + front.length) := by
  induction front with
  | nil => simp
  | cons item front inductionHypothesis =>
      rw [List.mem_cons, not_or] at absent
      have differs : ¬ (first :: needle).isPrefixOf (item :: (front ++ rest)) = true := by
        rw [List.isPrefixOf_iff_prefix, List.cons_prefix_cons]
        exact fun opens => absent.1 opens.1
      rw [List.cons_append, windowPosition, if_neg differs, inductionHypothesis absent.2,
        Option.map_map]
      rfl

theorem windowPosition_of_short {items : List α} (short : items.length < needle.length) :
    windowPosition needle items = none := by
  induction items with
  | nil => rfl
  | cons item rest inductionHypothesis =>
      have misses : ¬ needle.isPrefixOf (item :: rest) = true := by
        rw [List.isPrefixOf_iff_prefix]
        intro opens
        exact absurd opens.length_le (Nat.not_le.mpr short)
      rw [windowPosition, if_neg misses,
        inductionHypothesis (Nat.lt_trans (Nat.lt_succ_self _) short)]
      rfl

theorem windowPosition_add_le {items : List α} {position : Nat}
    (found : windowPosition needle items = some position) :
    position + needle.length ≤ items.length := by
  induction items generalizing position with
  | nil => cases found
  | cons item rest inductionHypothesis =>
      rw [windowPosition] at found
      split at found
      · rename_i opens
        cases found
        rw [List.isPrefixOf_iff_prefix] at opens
        rw [Nat.zero_add]
        exact opens.length_le
      · obtain ⟨before, foundBefore, rfl⟩ := Option.map_eq_some_iff.mp found
        have fits := inductionHypothesis foundBefore
        rw [List.length_cons]
        omega

/-- A prefix shows the first window of the whole once it covers it, and none before. -/
theorem windowPosition_prefix {whole front : List α} {position : Nat} (nonempty : needle ≠ [])
    (found : windowPosition needle whole = some position) (opens : front <+: whole) :
    windowPosition needle front =
      if position + needle.length ≤ front.length then some position else none := by
  by_cases short : front.length < needle.length
  · rw [windowPosition_of_short short, if_neg (by omega)]
  · induction whole generalizing front position with
    | nil => cases found
    | cons item rest inductionHypothesis =>
        cases front with
        | nil =>
            have positive := List.length_pos_of_ne_nil nonempty
            exact absurd positive short
        | cons other front =>
            obtain ⟨rfl, opensRest⟩ := List.cons_prefix_cons.mp opens
            rw [windowPosition] at found ⊢
            by_cases here : needle <+: other :: rest
            · rw [if_pos (List.isPrefixOf_iff_prefix.mpr here)] at found
              cases found
              have covered : needle <+: other :: front :=
                List.prefix_of_prefix_length_le here opens (Nat.not_lt.mp short)
              rw [if_pos (List.isPrefixOf_iff_prefix.mpr covered),
                if_pos (by rw [Nat.zero_add]; exact Nat.not_lt.mp short)]
            · have notCovered : ¬ needle <+: other :: front :=
                fun covered => here (covered.trans opens)
              rw [if_neg (fun shows => here (List.isPrefixOf_iff_prefix.mp shows))] at found
              rw [if_neg (fun shows => notCovered (List.isPrefixOf_iff_prefix.mp shows))]
              obtain ⟨before, foundBefore, rfl⟩ := Option.map_eq_some_iff.mp found
              have later : windowPosition needle front =
                  if before + needle.length ≤ front.length then some before else none := by
                by_cases shorter : front.length < needle.length
                · rw [windowPosition_of_short shorter, if_neg (by omega)]
                · exact inductionHypothesis foundBefore opensRest shorter
              rw [later, List.length_cons]
              by_cases fits : before + needle.length ≤ front.length
              · rw [if_pos fits, if_pos (by omega)]
                rfl
              · rw [if_neg fits, if_neg (by omega)]
                rfl

/-- What follows a window does not move it. -/
theorem windowPosition_append {items : List α} {position : Nat}
    (found : windowPosition needle items = some position) (more : List α) :
    windowPosition needle (items ++ more) = some position := by
  induction items generalizing position with
  | nil => cases found
  | cons item rest inductionHypothesis =>
      have fits := windowPosition_add_le found
      rw [windowPosition] at found
      rw [List.cons_append, windowPosition]
      by_cases here : needle <+: item :: rest
      · have longer : needle <+: item :: (rest ++ more) :=
          here.trans (List.prefix_append (item :: rest) more)
        rw [if_pos (List.isPrefixOf_iff_prefix.mpr here)] at found
        rw [if_pos (List.isPrefixOf_iff_prefix.mpr longer)]
        exact found
      · have notLonger : ¬ needle <+: item :: (rest ++ more) := fun shows =>
          here (List.prefix_of_prefix_length_le shows (List.prefix_append (item :: rest) more)
            ((Nat.le_add_left _ _).trans fits))
        rw [if_neg (fun shows => here (List.isPrefixOf_iff_prefix.mp shows))] at found
        rw [if_neg (fun shows => notLonger (List.isPrefixOf_iff_prefix.mp shows))]
        obtain ⟨before, foundBefore, rfl⟩ := Option.map_eq_some_iff.mp found
        rw [inductionHypothesis foundBefore]
        rfl

/-- The needle is at the first window. -/
theorem windowPosition_opens {items : List α} {position : Nat}
    (found : windowPosition needle items = some position) : needle <+: items.drop position := by
  induction items generalizing position with
  | nil => cases found
  | cons item rest inductionHypothesis =>
      rw [windowPosition] at found
      split at found
      · next here =>
          cases found
          exact List.isPrefixOf_iff_prefix.mp here
      · obtain ⟨before, foundBefore, rfl⟩ := Option.map_eq_some_iff.mp found
        exact inductionHypothesis foundBefore

/-- A list with the needle in it has a window. -/
theorem windowPosition_of_infix (front back : List α) (nonempty : needle ≠ []) :
    windowPosition needle (front ++ (needle ++ back)) ≠ none := by
  induction front with
  | nil =>
      cases needle with
      | nil => exact absurd rfl nonempty
      | cons first needle =>
          rw [List.nil_append, windowPosition_of_prefix]
          exact Option.some_ne_none 0
  | cons item front inductionHypothesis =>
      rw [List.cons_append, windowPosition]
      split
      · exact Option.some_ne_none 0
      · intro none
        exact inductionHypothesis (Option.map_eq_none_iff.mp none)

/-- It is nowhere in front of the first window. -/
theorem windowPosition_first {items : List α} {position : Nat} (nonempty : needle ≠ [])
    (found : windowPosition needle items = some position) :
    ¬ needle <:+: items.take position := by
  rintro ⟨front, back, same⟩
  have shown := windowPosition_prefix nonempty found (List.take_prefix position items)
  have uncovered : ¬ position + needle.length ≤ (items.take position).length := by
    have positive := List.length_pos_of_ne_nil nonempty
    rw [List.length_take]
    omega
  rw [if_neg uncovered, ← same, List.append_assoc] at shown
  exact windowPosition_of_infix front back nonempty shown

/-- The first position of an item. -/
theorem idxOf?_append_cons {item : α} {front : List α} (absent : item ∉ front) (rest : List α) :
    (front ++ item :: rest).idxOf? item = some front.length := by
  induction front with
  | nil => simp [List.idxOf?_cons]
  | cons other front inductionHypothesis =>
      rw [List.mem_cons, not_or] at absent
      have differs : ¬ (other == item) = true := by
        rw [beq_iff_eq]
        exact fun same => absent.1 same.symm
      rw [List.cons_append, List.idxOf?_cons, if_neg differs, inductionHypothesis absent.2,
        Option.map_some, List.length_cons]

end

/-! ## Trimming encoded items -/

section

variable {α β : Type} {encode : α → List β} {inClass : α → Bool} {byteClass : β → Bool}

/-- Dropping items of a class drops exactly their encodings, when a class of bytes tells them
apart. -/
theorem dropWhile_flatMap (drops : ∀ item, inClass item = true → ∀ byte ∈ encode item,
      byteClass byte = true)
    (nonempty : ∀ item, encode item ≠ [])
    (keeps : ∀ item, inClass item = false → ∀ byte ∈ encode item, byteClass byte = false)
    (items : List α) :
    (items.flatMap encode).dropWhile byteClass = (items.dropWhile inClass).flatMap encode := by
  induction items with
  | nil => rfl
  | cons item rest inductionHypothesis =>
      rw [List.flatMap_cons, List.dropWhile_cons]
      cases dropped : inClass item with
      | true =>
          rw [List.dropWhile_append_of_pos (drops item dropped), inductionHypothesis, if_pos rfl]
      | false =>
          obtain ⟨byte, tail, encoded⟩ := List.exists_cons_of_ne_nil (nonempty item)
          have stays : byteClass byte = false := by
            apply keeps item dropped
            rw [encoded]
            exact List.mem_cons_self
          rw [if_neg Bool.false_ne_true, List.flatMap_cons, encoded, List.cons_append,
            List.dropWhile_cons, stays, if_neg Bool.false_ne_true]

theorem rdropWhile_flatMap (drops : ∀ item, inClass item = true → ∀ byte ∈ encode item,
      byteClass byte = true)
    (nonempty : ∀ item, encode item ≠ [])
    (keeps : ∀ item, inClass item = false → ∀ byte ∈ encode item, byteClass byte = false)
    (items : List α) :
    (items.flatMap encode).rdropWhile byteClass = (items.rdropWhile inClass).flatMap encode := by
  have mirrored : (items.reverse.flatMap (List.reverse ∘ encode)).dropWhile byteClass =
      (items.reverse.dropWhile inClass).flatMap (List.reverse ∘ encode) := by
    apply dropWhile_flatMap
    · intro item dropped byte member
      exact drops item dropped byte (List.mem_reverse.mp member)
    · intro item empty
      exact nonempty item (List.reverse_eq_nil_iff.mp empty)
    · intro item kept byte member
      exact keeps item kept byte (List.mem_reverse.mp member)
  rw [List.rdropWhile, List.rdropWhile, List.reverse_flatMap, mirrored, List.reverse_flatMap]
  congr 1
  funext item
  simp

end

/-- ASCII characters are trimmed from a string as their bytes are from its encoding. -/
theorem utf8_trimMatches {inClass : Char → Bool} {byteClass : UInt8 → Bool}
    (ascii : ∀ byte, byteClass byte = true → byte < 0x80)
    (agree : ∀ char, inClass char = true ↔
      ∃ byte, byteClass byte = true ∧ char.toNat = byte.toNat) (text : String) :
    utf8 (trimMatches inClass text) =
      ((utf8 text).dropWhile byteClass).rdropWhile byteClass := by
  have drops : ∀ char, inClass char = true → ∀ byte ∈ String.utf8EncodeChar char,
      byteClass byte = true := by
    intro char dropped byte member
    obtain ⟨own, blank, code⟩ := (agree char).mp dropped
    have small : char.toNat ≤ 127 := by
      have below := UInt8.lt_iff_toNat_lt.mp (ascii own blank)
      change own.toNat < 128 at below
      omega
    have encoded : String.utf8EncodeChar char = [UInt8.ofNat char.toNat] := if_pos small
    rw [encoded, List.mem_singleton, code, UInt8.ofNat_toNat] at member
    rw [member]
    exact blank
  have nonempty : ∀ char, String.utf8EncodeChar char ≠ [] := by
    intro char empty
    have size := String.length_utf8EncodeChar char
    rw [empty] at size
    exact absurd size.symm (Nat.ne_of_gt char.utf8Size_pos)
  have keeps : ∀ char, inClass char = false → ∀ byte ∈ String.utf8EncodeChar char,
      byteClass byte = false := by
    intro char kept byte member
    rw [Bool.eq_false_iff]
    intro blank
    rw [Bool.eq_false_iff] at kept
    exact kept ((agree char).mpr
      ⟨byte, blank, (ascii_mem_encodeChar (ascii byte blank) char).mp member⟩)
  rw [utf8_eq_flatMap, utf8_eq_flatMap, trimMatches, String.toList_ofList,
    dropWhile_flatMap drops nonempty keeps, rdropWhile_flatMap drops nonempty keeps]

/-! ## White space -/

/-- `str::split_whitespace`. -/
def splitWhitespace (text : String) : List String :=
  ((text.toList.splitOnP isWhitespace).filter fun piece => !piece.isEmpty).map String.ofList

/-- A piece without white space in front of a space. -/
theorem splitWhitespace_word {word : String} (nonempty : word ≠ "")
    (plain : ∀ char ∈ word.toList, isWhitespace char = false) (rest : String) :
    splitWhitespace (word ++ " " ++ rest) = word :: splitWhitespace rest := by
  have characters : (word ++ " " ++ rest).toList = word.toList ++ ' ' :: rest.toList := by
    simp [String.toList_append]
  have filled : word.toList.isEmpty = false := by
    rw [List.isEmpty_eq_false_iff]
    intro empty
    exact nonempty (String.toList_inj.mp empty)
  unfold splitWhitespace
  rw [characters, List.splitOnP_append_cons_of_forall_mem plain ' ' (by decide),
    List.filter_cons, filled, Bool.not_false, if_pos rfl, List.map_cons, String.ofList_toList]

/-! ## Base sixteen -/

def isAsciiHexdigit (byte : UInt8) : Bool :=
  (0x30 ≤ byte && byte ≤ 0x39) || (0x41 ≤ byte && byte ≤ 0x46) || (0x61 ≤ byte && byte ≤ 0x66)

/-- `from_str_radix` of an unsigned integer below `limit`. -/
def fromStrRadix (limit radix : Nat) (text : String) : Option Nat :=
  let digits := match text.toList with
    | '+' :: rest => rest
    | chars => chars
  if digits = [] ∨ digits.any (fun char => (toDigit radix char).isNone) then none
  else if digitsValue radix digits < limit then some (digitsValue radix digits)
  else none

private theorem toDigit_digitChar {digit : Nat} (small : digit < 16) :
    toDigit 16 (Nat.digitChar digit) = some digit := by
  revert digit
  decide

/-- The digits of a number in base sixteen. -/
theorem mem_hexDigits {value : Nat} {char : Char} (member : char ∈ Nat.toDigits 16 value) :
    ∃ digit < 16, char = Nat.digitChar digit := by
  induction value using Nat.base_induction 16 (by decide) with
  | single digit small =>
      rw [Nat.toDigits_of_lt_base small, List.mem_singleton] at member
      exact ⟨digit, small, member⟩
  | digit front last small positive inductionHypothesis =>
      rw [← Nat.toDigits_append_toDigits (by decide) positive small, List.mem_append] at member
      rcases member with inFront | isLast
      · exact inductionHypothesis inFront
      · rw [Nat.toDigits_of_lt_base small, List.mem_singleton] at isLast
        exact ⟨last, small, isLast⟩

theorem digitsValue_toDigits (value : Nat) : digitsValue 16 (Nat.toDigits 16 value) = value := by
  induction value using Nat.base_induction 16 (by decide) with
  | single digit small =>
      rw [Nat.toDigits_of_lt_base small, digitsValue, List.foldl_cons, List.foldl_nil,
        toDigit_digitChar small, Nat.zero_mul, Nat.zero_add]
      rfl
  | digit front last small positive inductionHypothesis =>
      unfold digitsValue at inductionHypothesis ⊢
      rw [← Nat.toDigits_append_toDigits (by decide) positive small, List.foldl_append,
        inductionHypothesis, Nat.toDigits_of_lt_base small, List.foldl_cons, List.foldl_nil,
        toDigit_digitChar small, Nat.mul_comm]
      rfl

/-- A printed number reads back in base sixteen, below the limit. -/
theorem fromStrRadix_numeral {limit value : Nat} (below : value < limit) :
    fromStrRadix limit 16 (numeral 16 value) = some value := by
  have unsigned : (match Nat.toDigits 16 value with
      | '+' :: rest => rest
      | chars => chars) = Nat.toDigits 16 value := by
    split
    · rename_i rest opened
      have plus : '+' ∈ Nat.toDigits 16 value := by
        rw [opened]
        exact List.mem_cons_self
      obtain ⟨digit, small, same⟩ := mem_hexDigits plus
      have differs : ∀ digit < 16, '+' ≠ Nat.digitChar digit := by decide
      exact absurd same (differs digit small)
    · rfl
  have allDigits : ¬ (Nat.toDigits 16 value = [] ∨
      (Nat.toDigits 16 value).any (fun char => (toDigit 16 char).isNone) = true) := by
    intro bad
    rcases bad with empty | notDigit
    · exact Nat.toDigits_ne_nil empty
    · obtain ⟨char, member, none⟩ := List.any_eq_true.mp notDigit
      obtain ⟨digit, small, rfl⟩ := mem_hexDigits member
      rw [toDigit_digitChar small] at none
      cases none
  unfold fromStrRadix numeral
  rw [String.toList_ofList, unsigned, if_neg allDigits, digitsValue_toDigits, if_pos below]

/-- The bytes of a number in base sixteen. -/
theorem mem_utf8_hexNumeral {value : Nat} {byte : UInt8} (member : byte ∈ utf8 (numeral 16 value)) :
    isAsciiHexdigit byte = true := by
  rw [utf8_eq_flatMap, numeral, String.toList_ofList, List.mem_flatMap] at member
  obtain ⟨char, inDigits, encoded⟩ := member
  obtain ⟨digit, small, rfl⟩ := mem_hexDigits inDigits
  have all : ∀ digit < 16, (String.utf8EncodeChar (Nat.digitChar digit)).all isAsciiHexdigit =
      true := by
    decide
  exact List.all_eq_true.mp (all digit small) byte encoded

end Oxo.Foundation
