import Oxo.Foundation.Delimited
import Oxo.Foundation.Splitting

/-!
Contract: the lines of a text, the words of a line and what follows an opening.

Owns: `str::lines`, lines that end with a line break, the words of a line that is joined of them by
single spaces, and `str::strip_prefix`.

Does not own: what a line says.
-/

namespace Oxo.Foundation

/-! ## Lines -/

/-- Lines end at a line feed, with a carriage return directly before it. -/
def linesOf : List Char → List (List Char)
  | [] => []
  | '\n' :: rest => [] :: linesOf rest
  | '\r' :: '\n' :: rest => [] :: linesOf rest
  | char :: rest =>
      match linesOf rest with
      | [] => [[char]]
      | line :: others => (char :: line) :: others

/-- `str::lines`. -/
def lines (text : String) : List String :=
  (linesOf text.toList).map String.ofList

/-- A character that ends no line stands in front of the first one. -/
private theorem linesOf_cons {char : Char} {rest : List Char} (notFeed : char ≠ '\n')
    (noBreak : ∀ later, char = '\r' → rest = '\n' :: later → False) :
    linesOf (char :: rest) =
      match linesOf rest with
      | [] => [[char]]
      | line :: others => (char :: line) :: others :=
  linesOf.eq_4 char rest (fun same => notFeed same) noBreak

/-- A line in front of a line break. -/
theorem linesOf_line {line : List Char} (plain : '\n' ∉ line) (rest : List Char) :
    linesOf (line ++ '\r' :: '\n' :: rest) = line :: linesOf rest := by
  induction line with
  | nil => rfl
  | cons char line inductionHypothesis =>
      rw [List.mem_cons, not_or] at plain
      obtain ⟨notFeed, plainRest⟩ := plain
      have noBreak : ∀ later, char = '\r' → line ++ '\r' :: '\n' :: rest = '\n' :: later →
          False := by
        intro later _ opens
        cases line with
        | nil => exact absurd (List.cons.inj opens).1 (by decide)
        | cons next others =>
            exact plainRest ((List.cons.inj opens).1 ▸ List.mem_cons_self)
      rw [List.cons_append, linesOf_cons (Ne.symm notFeed) noBreak,
        inductionHypothesis plainRest]

/-- The last line, without a line break. -/
theorem linesOf_last {line : List Char} (plain : '\n' ∉ line) (nonempty : line ≠ []) :
    linesOf line = [line] := by
  induction line with
  | nil => exact absurd rfl nonempty
  | cons char line inductionHypothesis =>
      rw [List.mem_cons, not_or] at plain
      obtain ⟨notFeed, plainRest⟩ := plain
      have noBreak : ∀ later, char = '\r' → line = '\n' :: later → False := by
        intro later _ opens
        rw [opens] at plainRest
        exact plainRest List.mem_cons_self
      rw [linesOf_cons (Ne.symm notFeed) noBreak]
      cases line with
      | nil => rfl
      | cons next others => rw [inductionHypothesis plainRest (List.cons_ne_nil next others)]

theorem lines_line {line : String} (plain : '\n' ∉ line.toList) (rest : String) :
    lines (line ++ "\r\n" ++ rest) = line :: lines rest := by
  have characters : (line ++ "\r\n" ++ rest).toList =
      line.toList ++ '\r' :: '\n' :: rest.toList := by
    simp [String.toList_append]
  rw [lines, characters, linesOf_line plain, List.map_cons, String.ofList_toList]
  rfl

theorem lines_last {line : String} (plain : '\n' ∉ line.toList) (nonempty : line ≠ "") :
    lines line = [line] := by
  have filled : line.toList ≠ [] := fun empty => nonempty (String.toList_inj.mp empty)
  rw [lines, linesOf_last plain filled, List.map_singleton, String.ofList_toList]

@[simp] theorem lines_empty : lines "" = [] := rfl

/-! ## Words -/

@[simp] theorem splitWhitespace_empty : splitWhitespace "" = [] := rfl

/-- A word alone. -/
theorem splitWhitespace_self {word : String} (nonempty : word ≠ "")
    (plain : ∀ char ∈ word.toList, isWhitespace char = false) : splitWhitespace word = [word] := by
  have filled : word.toList.isEmpty = false := by
    rw [List.isEmpty_eq_false_iff]
    intro empty
    exact nonempty (String.toList_inj.mp empty)
  unfold splitWhitespace
  rw [List.splitOnP_eq_singleton plain, List.filter_singleton, filled]
  simp

theorem splitWhitespace_plain {word : String}
    (plain : ∀ char ∈ word.toList, isWhitespace char = false) :
    splitWhitespace word = if word = "" then [] else [word] := by
  split_ifs with empty
  · rw [empty, splitWhitespace_empty]
  · exact splitWhitespace_self empty plain

/-! ## Openings -/

/-- A front of two parts with a separator ends in the first part, or has it and a front of the
second. -/
theorem prefix_separated {α : Type} {front first second : List α} {separator : α}
    (isFront : front <+: first ++ separator :: second) :
    front <+: first ∨ ∃ rest, front = first ++ separator :: rest ∧ rest <+: second := by
  rcases List.prefix_or_prefix_of_prefix isFront (List.prefix_append first _) with
    within | ⟨rest, rfl⟩
  · exact .inl within
  · have isRest := (List.prefix_append_right_inj first).mp isFront
    cases rest with
    | nil => exact .inl (by rw [List.append_nil])
    | cons item rest =>
        obtain ⟨same, inSecond⟩ := List.cons_prefix_cons.mp isRest
        exact .inr ⟨rest, by rw [same], inSecond⟩

/-- `str::strip_prefix`. -/
def stripPrefix (text opening : String) : Option String :=
  if startsWith text opening then
    some (String.ofList (text.toList.drop opening.toList.length))
  else none

theorem stripPrefix_eq_some {text opening rest : String} :
    stripPrefix text opening = some rest ↔ text = opening ++ rest := by
  unfold stripPrefix startsWith
  constructor
  · intro found
    split_ifs at found with opens
    obtain ⟨later, parts⟩ := List.isPrefixOf_iff_prefix.mp opens
    cases found
    rw [← parts, List.drop_left, ← String.toList_inj, String.toList_append, String.toList_ofList,
      parts]
  · rintro rfl
    rw [String.toList_append, if_pos (List.isPrefixOf_iff_prefix.mpr ⟨rest.toList, rfl⟩),
      List.drop_left, String.ofList_toList]

end Oxo.Foundation
