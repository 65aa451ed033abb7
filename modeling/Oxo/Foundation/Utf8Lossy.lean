import Mathlib.Data.List.TakeWhile
import Oxo.Foundation.Utf8

/-!
Contract: decoding with replacement.

Owns: the maximal subparts of ill-formed text, the decoder that replaces them, and that it leaves
well-formed text alone and treats what stands on the two sides of an ASCII byte apart.

Does not own: strict decoding.
-/

namespace Oxo.Foundation

/-! ## The decoder -/

/-- The bounds of the second byte after a first one, and the number of bytes. -/
def utf8Shape (byte : UInt8) : Option (UInt8 × UInt8 × Nat) :=
  if 0xc2 ≤ byte ∧ byte ≤ 0xdf then some (0x80, 0xbf, 2)
  else if byte = 0xe0 then some (0xa0, 0xbf, 3)
  else if byte = 0xed then some (0x80, 0x9f, 3)
  else if 0xe1 ≤ byte ∧ byte ≤ 0xef then some (0x80, 0xbf, 3)
  else if byte = 0xf0 then some (0x90, 0xbf, 4)
  else if 0xf1 ≤ byte ∧ byte ≤ 0xf3 then some (0x80, 0xbf, 4)
  else if byte = 0xf4 then some (0x80, 0x8f, 4)
  else none

/-- The length of a maximal subpart: the start of a sequence as far as it may be well-formed. -/
def utf8Prefix (bytes : List UInt8) : Nat :=
  match bytes with
  | [] => 0
  | first :: rest =>
      match utf8Shape first, rest with
      | some (low, high, width), second :: rest =>
          if low ≤ second ∧ second ≤ high then
            2 + ((rest.take (width - 2)).takeWhile fun byte => 0x80 ≤ byte && byte ≤ 0xbf).length
          else 1
      | _, _ => 1

/-- Decode with each maximal subpart that is no character replaced by U+FFFD. -/
def replaceIllFormed : (fuel : Nat) → List UInt8 → String
  | 0, _ => ""
  | _, [] => ""
  | fuel + 1, bytes =>
      let taken := bytes.take (utf8Prefix bytes)
      (fromUtf8 taken).getD "\uFFFD" ++ replaceIllFormed fuel (bytes.drop (utf8Prefix bytes))

/-- `String::from_utf8_lossy`. -/
def fromUtf8Lossy (bytes : List UInt8) : String :=
  match fromUtf8 bytes with
  | some text => text
  | none => replaceIllFormed bytes.length bytes

/-! ## Subparts -/

private def isContinuation (byte : UInt8) : Bool :=
  0x80 ≤ byte && byte ≤ 0xbf

private theorem utf8Prefix_cons (first : UInt8) (rest : List UInt8) :
    utf8Prefix (first :: rest) =
      match utf8Shape first, rest with
      | some (low, high, width), second :: rest =>
          if low ≤ second ∧ second ≤ high then
            2 + ((rest.take (width - 2)).takeWhile isContinuation).length
          else 1
      | _, _ => 1 :=
  rfl

theorem utf8Prefix_pos {bytes : List UInt8} (nonempty : bytes ≠ []) : 0 < utf8Prefix bytes := by
  cases bytes with
  | nil => exact absurd rfl nonempty
  | cons first rest =>
      rw [utf8Prefix_cons]
      split
      · split
        · exact Nat.lt_of_lt_of_le Nat.two_pos (Nat.le_add_right 2 _)
        · exact Nat.one_pos
      · exact Nat.one_pos

theorem utf8Prefix_le (bytes : List UInt8) : utf8Prefix bytes ≤ bytes.length := by
  cases bytes with
  | nil => exact Nat.le_refl 0
  | cons first rest =>
      rw [utf8Prefix_cons]
      split
      · next low high width second rest _ =>
          have within : ((rest.take (width - 2)).takeWhile isContinuation).length ≤ rest.length :=
            (List.takeWhile_prefix _).length_le.trans (List.length_take_le' _ _)
          rw [List.length_cons, List.length_cons]
          split
          · rw [Nat.add_comm]
            exact Nat.add_le_add_right within 2
          · exact Nat.succ_le_succ (Nat.zero_le _)
      · exact Nat.succ_le_succ (Nat.zero_le _)

private theorem takeWhile_stopped {inClass : UInt8 → Bool} {stop : UInt8}
    (stops : inClass stop = false) (count : Nat) (front back : List UInt8) :
    ((front ++ stop :: back).take count).takeWhile inClass =
      (front.take count).takeWhile inClass := by
  induction front generalizing count with
  | nil =>
      cases count with
      | zero => rfl
      | succ count => simp [stops]
  | cons first front inductionHypothesis =>
      cases count with
      | zero => rfl
      | succ count =>
          rw [List.cons_append, List.take_succ_cons, List.take_succ_cons, List.takeWhile_cons,
            List.takeWhile_cons, inductionHypothesis count]

/-- Sequences of more than one byte have no ASCII byte. -/
private theorem utf8Shape_high (first : UInt8) :
    (utf8Shape first).all (fun shape => 0x80 ≤ first && 0x80 ≤ shape.1) = true := by
  have all : ∀ first : UInt8,
      (utf8Shape first).all (fun shape => 0x80 ≤ first && 0x80 ≤ shape.1) = true := by
    decide +kernel
  exact all first

/-- An ASCII byte ends a subpart. -/
private theorem utf8Prefix_append {ascii : UInt8} (isAscii : ascii < 0x80) (first : UInt8)
    (front back : List UInt8) :
    utf8Prefix (first :: front ++ ascii :: back) = utf8Prefix (first :: front) := by
  have stops : isContinuation ascii = false := by
    unfold isContinuation
    rw [decide_eq_false (UInt8.not_le.mpr isAscii), Bool.false_and]
  have shaped := utf8Shape_high first
  rw [List.cons_append, utf8Prefix_cons, utf8Prefix_cons]
  cases shape : utf8Shape first with
  | none => rfl
  | some bounds =>
      obtain ⟨low, high, width⟩ := bounds
      rw [shape] at shaped
      cases front with
      | nil =>
          have below : ¬ (low ≤ ascii ∧ ascii ≤ high) := by
            rintro ⟨reaches, -⟩
            simp only [Option.all_some, Bool.and_eq_true, decide_eq_true_eq] at shaped
            exact UInt8.not_le.mpr isAscii (UInt8.le_trans shaped.2 reaches)
          exact if_neg below
      | cons second front =>
          simp only [List.cons_append, takeWhile_stopped stops]

/-! ## Decoding -/

private theorem replaceIllFormed_cons (fuel : Nat) (first : UInt8) (rest : List UInt8) :
    replaceIllFormed (fuel + 1) (first :: rest) =
      (fromUtf8 ((first :: rest).take (utf8Prefix (first :: rest)))).getD "\uFFFD" ++
        replaceIllFormed fuel ((first :: rest).drop (utf8Prefix (first :: rest))) :=
  rfl

/-- More fuel than bytes changes nothing. -/
private theorem replaceIllFormed_fuel {fuel : Nat} {bytes : List UInt8}
    (enough : bytes.length ≤ fuel) :
    replaceIllFormed fuel bytes = replaceIllFormed bytes.length bytes := by
  induction fuel using Nat.strong_induction_on generalizing bytes with
  | _ fuel inductionHypothesis =>
      cases bytes with
      | nil => cases fuel <;> rfl
      | cons first rest =>
          cases fuel with
          | zero => cases enough
          | succ fuel =>
              have shorter : ((first :: rest).drop (utf8Prefix (first :: rest))).length ≤
                  rest.length := by
                have progress := utf8Prefix_pos (List.cons_ne_nil first rest)
                rw [List.length_drop, List.length_cons]
                omega
              have within : rest.length ≤ fuel := Nat.le_of_succ_le_succ enough
              rw [List.length_cons, replaceIllFormed_cons, replaceIllFormed_cons,
                inductionHypothesis fuel (Nat.lt_succ_self fuel) (shorter.trans within),
                inductionHypothesis rest.length (Nat.lt_succ_of_le within) shorter]

/-- The replacing decoder with fuel enough. -/
private def replaced (bytes : List UInt8) : String :=
  replaceIllFormed bytes.length bytes

private theorem replaced_step (first : UInt8) (rest : List UInt8) :
    replaced (first :: rest) =
      (fromUtf8 ((first :: rest).take (utf8Prefix (first :: rest)))).getD "\uFFFD" ++
        replaced ((first :: rest).drop (utf8Prefix (first :: rest))) := by
  have progress := utf8Prefix_pos (List.cons_ne_nil first rest)
  have shorter : ((first :: rest).drop (utf8Prefix (first :: rest))).length ≤ rest.length := by
    rw [List.length_drop, List.length_cons]
    omega
  rw [replaced, replaced, List.length_cons, replaceIllFormed_cons,
    replaceIllFormed_fuel shorter]

private theorem replaced_append {ascii : UInt8} (isAscii : ascii < 0x80)
    (front back : List UInt8) :
    replaced (front ++ ascii :: back) =
      replaced front ++ (fromUtf8 [ascii]).getD "\uFFFD" ++ replaced back := by
  induction length : front.length using Nat.strong_induction_on generalizing front with
  | _ count inductionHypothesis =>
      cases front with
      | nil =>
          have alone : utf8Prefix (ascii :: back) = 1 := by
            have shaped := utf8Shape_high ascii
            rw [utf8Prefix_cons]
            cases shape : utf8Shape ascii with
            | none => rfl
            | some bounds =>
                rw [shape] at shaped
                simp only [Option.all_some, Bool.and_eq_true, decide_eq_true_eq] at shaped
                exact absurd shaped.1 (UInt8.not_le.mpr isAscii)
          rw [List.nil_append, replaced_step, alone, show replaced [] = "" from rfl,
            String.empty_append]
          rfl
      | cons first front =>
          have within := utf8Prefix_le (first :: front)
          have progress := utf8Prefix_pos (List.cons_ne_nil first front)
          have rest := inductionHypothesis _ (by
            rw [← length, List.length_drop]
            omega) ((first :: front).drop (utf8Prefix (first :: front))) rfl
          have step := replaced_step first (front ++ ascii :: back)
          rw [← List.cons_append, utf8Prefix_append isAscii, List.take_append_of_le_length within,
            List.drop_append_of_le_length within, rest] at step
          rw [step, replaced_step first front, String.append_assoc, String.append_assoc,
            String.append_assoc]

/-! ## Well-formed text -/

/-- A first byte of a sequence of some length, and a second byte that may follow it. -/
private def Opens (first second width : Nat) : Prop :=
  ∃ low high, utf8Shape (UInt8.ofNat first) = some (low, high, width) ∧
    low ≤ UInt8.ofNat second ∧ UInt8.ofNat second ≤ high

private theorem utf8Prefix_sequence {first second width : Nat} (opens : Opens first second width)
    {tail : List UInt8} (continued : ∀ byte ∈ tail, isContinuation byte = true)
    (length : tail.length = width - 2) (rest : List UInt8) :
    utf8Prefix (UInt8.ofNat first :: UInt8.ofNat second :: (tail ++ rest)) = tail.length + 2 := by
  obtain ⟨low, high, shape, within⟩ := opens
  have taken : (tail ++ rest).take (width - 2) = tail := by
    rw [← length, List.take_left']
    rfl
  have all : tail.takeWhile isContinuation = tail := List.takeWhile_eq_self_iff.mpr continued
  rw [utf8Prefix_cons]
  simp only [shape, if_pos within, taken, all]
  exact Nat.add_comm 2 _

private theorem isContinuation_ofNat (value : Nat) :
    isContinuation (UInt8.ofNat (value % 0x40 + 0x80)) = true := by
  simp only [isContinuation, Bool.and_eq_true, decide_eq_true_eq, UInt8.le_iff_toNat_le,
    UInt8.toNat_ofNat', UInt8.reduceToNat]
  omega

private theorem opens_two {value : Nat} (lower : 0x80 ≤ value) (upper : value ≤ 0x7ff) :
    Opens (value / 64 % 0x20 + 0xc0) (value % 0x40 + 0x80) 2 := by
  simp only [Opens, utf8Shape, UInt8.le_iff_toNat_le, ← UInt8.toNat_inj, UInt8.toNat_ofNat',
    UInt8.reduceToNat]
  split_ifs
  all_goals first
    | refine ⟨_, _, rfl, ?_, ?_⟩ <;> simp only [UInt8.reduceToNat] <;> omega
    | omega

private theorem opens_three {value : Nat} (lower : 0x800 ≤ value) (upper : value ≤ 0xffff)
    (scalar : value < 0xd800 ∨ 0xdfff < value) :
    Opens (value / 4096 % 0x10 + 0xe0) (value / 64 % 0x40 + 0x80) 3 := by
  simp only [Opens, utf8Shape, UInt8.le_iff_toNat_le, ← UInt8.toNat_inj, UInt8.toNat_ofNat',
    UInt8.reduceToNat]
  split_ifs
  all_goals first
    | refine ⟨_, _, rfl, ?_, ?_⟩ <;> simp only [UInt8.reduceToNat] <;> omega
    | omega

private theorem opens_four {value : Nat} (lower : 0x10000 ≤ value) (upper : value < 0x110000) :
    Opens (value / 262144 % 0x08 + 0xf0) (value / 4096 % 0x40 + 0x80) 4 := by
  simp only [Opens, utf8Shape, UInt8.le_iff_toNat_le, ← UInt8.toNat_inj, UInt8.toNat_ofNat',
    UInt8.reduceToNat]
  split_ifs
  all_goals first
    | refine ⟨_, _, rfl, ?_, ?_⟩ <;> simp only [UInt8.reduceToNat] <;> omega
    | omega

/-- A character is one subpart. -/
private theorem utf8Prefix_encodeChar (char : Char) (rest : List UInt8) :
    utf8Prefix (String.utf8EncodeChar char ++ rest) = (String.utf8EncodeChar char).length := by
  have continued {bytes : List UInt8} {first : Nat}
      (rest : ∀ byte ∈ bytes, isContinuation byte = true) :
      ∀ byte ∈ UInt8.ofNat (first % 0x40 + 0x80) :: bytes, isContinuation byte = true :=
    List.forall_mem_cons.mpr ⟨isContinuation_ofNat first, rest⟩
  have none : ∀ byte ∈ ([] : List UInt8), isContinuation byte = true :=
    fun _ member => nomatch member
  have scalar : char.val.toNat < 0xd800 ∨ 0xdfff < char.val.toNat ∧ char.val.toNat < 0x110000 :=
    char.valid
  unfold String.utf8EncodeChar
  dsimp only
  split_ifs with one two three
  · have shaped := utf8Shape_high (UInt8.ofNat char.val.toNat)
    rw [List.cons_append, utf8Prefix_cons]
    cases shape : utf8Shape (UInt8.ofNat char.val.toNat) with
    | none => rfl
    | some bounds =>
        rw [shape] at shaped
        simp only [Option.all_some, Bool.and_eq_true, decide_eq_true_eq, UInt8.le_iff_toNat_le,
          UInt8.toNat_ofNat', UInt8.reduceToNat] at shaped
        omega
  · exact utf8Prefix_sequence (opens_two (by omega) two) none rfl rest
  · exact utf8Prefix_sequence (opens_three (by omega) three (by omega)) (continued none) rfl rest
  · exact utf8Prefix_sequence (opens_four (by omega) (by omega)) (continued (continued none)) rfl
      rest

private theorem replaced_utf8 (text : String) : replaced (utf8 text) = text := by
  have encoded (char : Char) : utf8 (String.singleton char) = String.utf8EncodeChar char := by
    rw [utf8_eq_flatMap]
    simp
  have chars : ∀ chars : List Char,
      replaced (chars.flatMap String.utf8EncodeChar) = String.ofList chars := by
    intro chars
    induction chars with
    | nil => rfl
    | cons char rest inductionHypothesis =>
        have whole := utf8Prefix_encodeChar char (rest.flatMap String.utf8EncodeChar)
        rw [List.flatMap_cons]
        obtain ⟨first, others, opened⟩ := List.exists_cons_of_ne_nil
          (@String.utf8EncodeChar_ne_nil char)
        rw [opened] at whole ⊢
        have decoded : fromUtf8 (first :: others) = some (String.singleton char) := by
          rw [← opened, ← encoded]
          exact fromUtf8_utf8 _
        rw [List.cons_append] at whole ⊢
        rw [replaced_step, whole, ← List.cons_append, List.take_left, List.drop_left, decoded,
          inductionHypothesis, String.ofList_cons]
        rfl
  rw [utf8_eq_flatMap, chars, String.ofList_toList]

theorem fromUtf8Lossy_utf8 (text : String) : fromUtf8Lossy (utf8 text) = text := by
  simp only [fromUtf8Lossy, fromUtf8_utf8]

private theorem fromUtf8Lossy_eq (bytes : List UInt8) : fromUtf8Lossy bytes = replaced bytes := by
  unfold fromUtf8Lossy
  split
  · next text decoded => rw [← utf8_of_fromUtf8 decoded, replaced_utf8]
  · rfl

/-- The two sides of an ASCII byte are decoded apart. -/
theorem fromUtf8Lossy_append {char : Char} (ascii : char.toNat < 128) (front back : List UInt8) :
    fromUtf8Lossy (front ++ UInt8.ofNat char.toNat :: back) =
      fromUtf8Lossy front ++ String.singleton char ++ fromUtf8Lossy back := by
  have isAscii : UInt8.ofNat char.toNat < 0x80 := by
    rw [UInt8.lt_iff_toNat_lt, toNat_asciiByte ascii]
    exact ascii
  have single : utf8 (String.singleton char) = [UInt8.ofNat char.toNat] := by
    have one : ∀ other ∈ (String.singleton char).toList, other.toNat < 128 := by
      simpa using ascii
    rw [utf8_of_ascii one]
    simp
  rw [fromUtf8Lossy_eq, fromUtf8Lossy_eq, fromUtf8Lossy_eq, replaced_append isAscii, ← single,
    fromUtf8_utf8]
  rfl

/-- ASCII text in front is decoded as it is. -/
theorem fromUtf8Lossy_ascii {text : String} (ascii : ∀ char ∈ text.toList, char.toNat < 128)
    (back : List UInt8) : fromUtf8Lossy (utf8 text ++ back) = text ++ fromUtf8Lossy back := by
  have chars : ∀ chars : List Char, (∀ char ∈ chars, char.toNat < 128) →
      fromUtf8Lossy (chars.map (fun char => UInt8.ofNat char.toNat) ++ back) =
        String.ofList chars ++ fromUtf8Lossy back := by
    intro chars
    induction chars with
    | nil =>
        intro _
        exact String.empty_append.symm
    | cons char rest inductionHypothesis =>
        intro all
        obtain ⟨small, others⟩ := List.forall_mem_cons.mp all
        have first := fromUtf8Lossy_append small []
          (rest.map (fun char => UInt8.ofNat char.toNat) ++ back)
        rw [List.nil_append, inductionHypothesis others] at first
        rw [List.map_cons, List.cons_append, first, String.ofList_cons,
          show fromUtf8Lossy [] = "" from fromUtf8Lossy_utf8 "", String.empty_append,
          String.append_assoc]
  rw [utf8_of_ascii ascii, chars _ ascii, String.ofList_toList]

/-- A line break between two parts. -/
theorem fromUtf8Lossy_break (front back : List UInt8) :
    fromUtf8Lossy (front ++ 0x0d :: 0x0a :: back) =
      fromUtf8Lossy front ++ "\r\n" ++ fromUtf8Lossy back := by
  have small : '\r'.toNat < 128 := by decide
  have feed := @fromUtf8Lossy_ascii "\n" (by decide) back
  have whole := fromUtf8Lossy_append small front (0x0a :: back)
  rw [show (0x0a :: back) = utf8 "\n" ++ back from rfl, feed] at whole
  refine whole.trans ?_
  have joined : String.singleton '\r' ++ ("\n" ++ fromUtf8Lossy back) =
      "\r\n" ++ fromUtf8Lossy back := String.append_assoc.symm
  rw [String.append_assoc, String.append_assoc, joined]

/-- An ASCII character of the text is a byte. -/
theorem mem_of_mem_fromUtf8Lossy {char : Char} (ascii : char.toNat < 128) {bytes : List UInt8}
    (member : char ∈ (fromUtf8Lossy bytes).toList) : UInt8.ofNat char.toNat ∈ bytes := by
  rw [fromUtf8Lossy_eq] at member
  induction length : bytes.length using Nat.strong_induction_on generalizing bytes with
  | _ count inductionHypothesis =>
      cases bytes with
      | nil => exact absurd member List.not_mem_nil
      | cons first rest =>
          have progress := utf8Prefix_pos (List.cons_ne_nil first rest)
          rw [replaced_step, String.toList_append, List.mem_append] at member
          rcases member with here | later
          · cases decoded : fromUtf8 ((first :: rest).take (utf8Prefix (first :: rest))) with
            | none =>
                rw [decoded] at here
                rw [List.mem_singleton.mp here] at ascii
                exact absurd ascii (by decide)
            | some text =>
                rw [decoded] at here
                refine List.mem_of_mem_take (i := utf8Prefix (first :: rest)) ?_
                rw [← utf8_of_fromUtf8 decoded, ascii_mem_utf8]
                · exact ⟨char, here, (toNat_asciiByte ascii).symm⟩
                · rw [UInt8.lt_iff_toNat_lt, toNat_asciiByte ascii]
                  exact ascii
          · refine List.mem_of_mem_drop (inductionHypothesis _ ?_ later rfl)
            rw [← length, List.length_drop]
            have long : (first :: rest).length = rest.length + 1 := rfl
            omega

end Oxo.Foundation
