import Oxo.Foundation.Text

/-!
Contract: how texts are taken apart and what the parts are made of.

Owns: the blanks that trimming drops, the first occurrence of a needle, the last occurrence of a
separator, the lines between line breaks, and texts that agree up to case.

Does not own: what the parts stand for.
-/

namespace Oxo.Foundation

/-! ## Trimming -/

/-- What trimming drops are characters of the class, and what it keeps begins with none. -/
theorem trimMatches_parts (inClass : Char → Bool) (text : String) :
    ∃ front back, text.toList = front ++ (trimMatches inClass text).toList ++ back ∧
      (∀ char ∈ front, inClass char = true) ∧ (∀ char ∈ back, inClass char = true) ∧
      ∀ char ∈ (trimMatches inClass text).toList.head?, inClass char = false := by
  have kept : (trimMatches inClass text).toList =
      (text.toList.dropWhile inClass).rdropWhile inClass := String.toList_ofList ..
  refine ⟨text.toList.takeWhile inClass, (text.toList.dropWhile inClass).rtakeWhile inClass,
    ?_, fun char member => List.mem_takeWhile_imp member,
    fun char member => List.mem_rtakeWhile_imp member, fun char opens => ?_⟩
  · rw [kept, List.append_assoc, List.rdropWhile_append_rtakeWhile,
      List.takeWhile_append_dropWhile]
  · rw [kept] at opens
    have first : char ∈ (text.toList.dropWhile inClass).head? := by
      obtain ⟨rest, same⟩ := List.rdropWhile_prefix inClass (text.toList.dropWhile inClass)
      cases within : (text.toList.dropWhile inClass).rdropWhile inClass with
      | nil =>
          rw [within] at opens
          cases opens
      | cons head tail =>
          rw [within] at opens same
          rw [← same]
          exact opens
    have stops := List.head?_dropWhile_not inClass text.toList
    rwa [Option.mem_def.mp first] at stops

/-- A text that neither begins nor ends with a character of the class is its own trimmed form. -/
theorem trimMatches_of_ends {inClass : Char → Bool} {text : String}
    (first : ∀ char ∈ text.toList.head?, inClass char = false)
    (last : ∀ char ∈ text.toList.getLast?, inClass char = false) :
    trimMatches inClass text = text := by
  have front : text.toList.dropWhile inClass = text.toList := by
    rw [List.dropWhile_eq_self_iff]
    intro nonempty
    rw [first _ (by rw [List.head?_eq_getElem?]; exact List.getElem?_eq_getElem nonempty)]
    exact Bool.false_ne_true
  have back : text.toList.rdropWhile inClass = text.toList := by
    rw [List.rdropWhile_eq_self_iff]
    intro nonempty
    rw [last _ (List.getLast?_eq_some_getLast nonempty)]
    exact Bool.false_ne_true
  rw [trimMatches, front, back, String.ofList_toList]

/-- A trimmed text that is not empty ends with no character of the class. -/
theorem trimMatches_last (inClass : Char → Bool) (text : String) :
    ∀ char ∈ (trimMatches inClass text).toList.getLast?, inClass char = false := by
  intro char ends
  rw [trimMatches, String.toList_ofList] at ends
  have nonempty : (text.toList.dropWhile inClass).rdropWhile inClass ≠ [] := by
    intro empty
    rw [empty] at ends
    cases ends
  have stops := List.rdropWhile_last_not inClass (text.toList.dropWhile inClass) nonempty
  rw [List.getLast?_eq_some_getLast nonempty] at ends
  rw [← Option.some.inj ends]
  exact Bool.eq_false_iff.mpr stops

/-! ## Separators -/

/-- What splitting at a needle gives is the text again. -/
theorem eq_of_splitOnceAt {needle chars before after : List Char}
    (found : splitOnceAt needle chars = some (before, after)) :
    chars = before ++ needle ++ after := by
  induction chars generalizing before after with
  | nil =>
      unfold splitOnceAt at found
      split at found
      · rename_i empty
        cases found
        rw [empty]
        rfl
      · cases found
  | cons char rest inductionHypothesis =>
      unfold splitOnceAt at found
      split at found
      · rename_i opens
        cases found
        obtain ⟨tail, same⟩ := List.isPrefixOf_iff_prefix.mp opens
        rw [← same, List.drop_left]
        rfl
      · obtain ⟨⟨front, back⟩, later, same⟩ := Option.map_eq_some_iff.mp found
        cases same
        rw [inductionHypothesis later]
        rfl

/-- A needle is found behind characters other than its first. -/
theorem splitOnceAt_first {first : Char} {needle before after : List Char}
    (absent : first ∉ before) :
    splitOnceAt (first :: needle) (before ++ (first :: needle) ++ after) = some (before, after) := by
  induction before with
  | nil =>
      have opens : (first :: needle).isPrefixOf (first :: needle ++ after) = true :=
        List.isPrefixOf_iff_prefix.mpr (List.prefix_append _ _)
      rw [List.nil_append, List.cons_append, splitOnceAt, ← List.cons_append, if_pos opens,
        List.drop_left]
  | cons char rest inductionHypothesis =>
      rw [List.mem_cons, not_or] at absent
      obtain ⟨different, absentLater⟩ := absent
      have notHere : (first :: needle).isPrefixOf (char :: (rest ++ (first :: needle) ++ after)) =
          false := by
        rw [List.isPrefixOf_cons_cons, beq_false_of_ne different, Bool.false_and]
      rw [List.cons_append, List.cons_append, splitOnceAt, notHere, if_neg Bool.false_ne_true,
        inductionHypothesis absentLater]
      rfl

theorem eq_of_splitOnceText {text needle before after : String}
    (found : splitOnceText text needle = some (before, after)) :
    text = before ++ needle ++ after := by
  obtain ⟨⟨front, back⟩, split, same⟩ := Option.map_eq_some_iff.mp found
  cases same
  apply String.toList_inj.mp
  rw [eq_of_splitOnceAt split]
  simp

/-- Before and after the last separator. -/
theorem rsplitOnce_eq_some {text before after : String} {separator : Char} :
    rsplitOnce text separator = some (before, after) ↔
      text.toList = before.toList ++ separator :: after.toList ∧ separator ∉ after.toList := by
  have mirrored := @splitOnce_eq_some (String.ofList text.toList.reverse)
    (String.ofList after.toList.reverse) (String.ofList before.toList.reverse) separator
  have same : rsplitOnce text separator = some (before, after) ↔
      splitOnce (String.ofList text.toList.reverse) separator =
        some (String.ofList after.toList.reverse, String.ofList before.toList.reverse) := by
    unfold rsplitOnce splitOnce
    rw [String.toList_ofList]
    split
    · exact iff_of_false (fun found => nomatch found) fun found => nomatch found
    · rename_i found
      simp only [Option.some.injEq, Prod.mk.injEq, ← String.toList_inj, String.toList_ofList]
      constructor
      · rintro ⟨front, back⟩
        exact ⟨by rw [← back, List.reverse_reverse], by rw [← front, List.reverse_reverse]⟩
      · rintro ⟨back, front⟩
        exact ⟨by rw [front, List.reverse_reverse], by rw [back, List.reverse_reverse]⟩
  rw [same, mirrored]
  simp only [String.toList_ofList, List.mem_reverse]
  refine and_congr_left fun _ => ?_
  rw [← List.reverse_inj]
  simp

theorem rsplitOnce_eq_none {text : String} {separator : Char} :
    rsplitOnce text separator = none ↔ separator ∉ text.toList := by
  unfold rsplitOnce
  split
  · rename_i dropped
    rw [List.dropWhile_eq_nil_iff] at dropped
    refine iff_of_true rfl fun member => ?_
    exact of_decide_eq_true (dropped separator (List.mem_reverse.mpr member)) rfl
  · rename_i dropped
    refine iff_of_false (fun found => nomatch found) fun absent => ?_
    have passes : ∀ char ∈ text.toList.reverse, decide (char ≠ separator) = true := by
      intro char member
      exact decide_eq_true fun same => absent (same ▸ List.mem_reverse.mp member)
    rw [List.dropWhile_eq_nil_iff.mpr passes] at dropped
    cases dropped

/-- What stands before and after the first separator. -/
theorem append_cons_unique {α : Type} {separator : α} {front back other otherBack : List α}
    (absent : separator ∉ front) (otherAbsent : separator ∉ other)
    (same : front ++ separator :: back = other ++ separator :: otherBack) :
    front = other ∧ back = otherBack := by
  induction front generalizing other with
  | nil =>
      cases other with
      | nil => exact ⟨rfl, (List.cons.inj same).2⟩
      | cons first rest =>
          rw [List.nil_append, List.cons_append] at same
          exact absurd ((List.cons.inj same).1 ▸ List.mem_cons_self) otherAbsent
  | cons char rest inductionHypothesis =>
      rw [List.mem_cons, not_or] at absent
      cases other with
      | nil => exact absurd (List.cons.inj same).1.symm absent.1
      | cons first others =>
          rw [List.mem_cons, not_or] at otherAbsent
          obtain ⟨sameFirst, later⟩ := List.cons.inj same
          obtain ⟨sameRest, sameBack⟩ := inductionHypothesis absent.2 otherAbsent.2 later
          exact ⟨by rw [sameFirst, sameRest], sameBack⟩

/-- No piece has a separator. -/
theorem separator_not_mem_splitOn {α : Type} [DecidableEq α] {separator : α} (items : List α) :
    ∀ piece ∈ items.splitOn separator, separator ∉ piece := by
  induction items with
  | nil =>
      intro piece member
      rw [List.splitOn_nil, List.mem_singleton] at member
      rw [member]
      exact List.not_mem_nil
  | cons item rest inductionHypothesis =>
      rw [List.splitOn_cons_eq_if_modifyHead]
      split
      · exact List.forall_mem_cons.mpr ⟨List.not_mem_nil, inductionHypothesis⟩
      · rename_i different
        cases pieces : rest.splitOn separator with
        | nil => exact absurd pieces (List.splitOn_ne_nil separator rest)
        | cons first later =>
            rw [pieces, List.forall_mem_cons] at inductionHypothesis
            refine List.forall_mem_cons.mpr ⟨?_, inductionHypothesis.2⟩
            rw [List.mem_cons, not_or]
            exact ⟨fun same => different (beq_iff_eq.mpr same.symm), inductionHypothesis.1⟩

theorem separator_not_mem_split {text : String} {separator : Char} :
    ∀ piece ∈ split text separator, separator ∉ piece.toList := by
  intro piece member
  obtain ⟨chars, inPieces, rfl⟩ := List.mem_map.mp member
  rw [String.toList_ofList]
  exact separator_not_mem_splitOn text.toList chars inPieces

/-- A text that splits in three. -/
theorem eq_of_split_three {text first second third : String} {separator : Char}
    (three : split text separator = [first, second, third]) :
    text.toList = first.toList ++ separator :: (second.toList ++ separator :: third.toList) := by
  have joined : [separator].intercalate (text.toList.splitOn separator) = text.toList :=
    List.intercalate_splitOn separator
  have pieces := congrArg (List.map String.toList) three
  unfold split at pieces
  rw [List.map_map] at pieces
  have chars : text.toList.splitOn separator = [first.toList, second.toList, third.toList] := by
    simpa [Function.comp_def] using pieces
  rw [← joined, chars, List.intercalate_cons_cons, List.intercalate_cons_cons,
    List.intercalate_singleton]
  simp

/-! ## Lines -/

private theorem splitLines_ne_nil (text : List Char) : splitLines text ≠ [] := by
  fun_induction splitLines text <;> exact List.cons_ne_nil _ _

/-- A character that opens no line break stands in front of the first line. -/
private theorem splitLines_cons {char : Char} {rest : List Char}
    (noBreak : ∀ later, char = '\r' → rest = '\n' :: later → False) :
    ∃ line lines, splitLines rest = line :: lines ∧
      splitLines (char :: rest) = (char :: line) :: lines := by
  rw [splitLines.eq_3 char rest noBreak]
  cases lines : splitLines rest with
  | nil => exact absurd lines (splitLines_ne_nil rest)
  | cons line others => exact ⟨line, others, rfl, rfl⟩

/-- A line break anywhere separates the lines on its two sides. -/
theorem splitLines_append (front back : List Char) :
    splitLines (front ++ '\r' :: '\n' :: back) = splitLines front ++ splitLines back := by
  induction front using splitLines.induct with
  | case1 => rfl
  | case2 rest inductionHypothesis =>
      rw [List.cons_append, List.cons_append, splitLines, splitLines, inductionHypothesis]
      rfl
  | case3 char rest _ none _ => exact absurd none (splitLines_ne_nil rest)
  | case4 char rest noBreak line lines found inductionHypothesis =>
      have stillNoBreak : ∀ later, char = '\r' →
          rest ++ '\r' :: '\n' :: back = '\n' :: later → False := by
        intro later isReturn opens
        cases rest with
        | nil => exact absurd (List.cons.inj opens).1 (by decide)
        | cons next others =>
            exact noBreak others isReturn (by rw [(List.cons.inj opens).1])
      obtain ⟨first, others, split, whole⟩ := splitLines_cons stillNoBreak
      rw [inductionHypothesis, found] at split
      obtain ⟨sameLine, sameLines⟩ := List.cons.inj split
      rw [List.cons_append, whole, splitLines.eq_3 char rest noBreak, found, ← sameLine,
        ← sameLines]
      rfl

/-- Each line with a line break behind it is the text with one behind it. -/
theorem flatMap_splitLines (text : List Char) :
    (splitLines text).flatMap (· ++ ['\r', '\n']) = text ++ ['\r', '\n'] := by
  induction text using splitLines.induct with
  | case1 => rfl
  | case2 rest inductionHypothesis =>
      rw [splitLines, List.flatMap_cons, inductionHypothesis]
      rfl
  | case3 char rest _ none _ => exact absurd none (splitLines_ne_nil rest)
  | case4 char rest noBreak line lines found inductionHypothesis =>
      rw [found] at inductionHypothesis
      rw [splitLines.eq_3 char rest noBreak, found, List.cons_append, ← inductionHypothesis]
      rfl

/-- Every line feed stands behind a carriage return. -/
def FeedsFollowReturns (text : List Char) : Prop :=
  ∀ front back, text = front ++ '\n' :: back → front.getLast? = some '\r'

/-- Then no line has a line feed. -/
theorem feed_not_mem_splitLines {text : List Char} (follows : FeedsFollowReturns text) :
    ∀ line ∈ splitLines text, '\n' ∉ line := by
  induction text using splitLines.induct with
  | case1 => exact fun line member => by rw [List.mem_singleton.mp member]; exact List.not_mem_nil
  | case2 rest inductionHypothesis =>
      have later : FeedsFollowReturns rest := by
        intro front back same
        have behind := follows ('\r' :: '\n' :: front) back (by rw [same]; rfl)
        cases front with
        | nil => exact absurd (Option.some.inj behind) (by decide)
        | cons first others => exact behind
      rw [splitLines, List.forall_mem_cons]
      exact ⟨List.not_mem_nil, inductionHypothesis later⟩
  | case3 char rest _ none _ => exact absurd none (splitLines_ne_nil rest)
  | case4 char rest noBreak line lines found inductionHypothesis =>
      have later : FeedsFollowReturns rest := by
        intro front back same
        have behind := follows (char :: front) back (by rw [same]; rfl)
        cases front with
        | nil => exact absurd same (noBreak back (Option.some.inj behind))
        | cons first others => exact behind
      have notFeed : char ≠ '\n' := by
        intro feed
        have behind := follows [] rest (by rw [feed]; rfl)
        cases behind
      have lines := inductionHypothesis later
      rw [found, List.forall_mem_cons] at lines
      rw [splitLines.eq_3 char rest noBreak, found, List.forall_mem_cons]
      refine ⟨?_, lines.2⟩
      rw [List.mem_cons, not_or]
      exact ⟨Ne.symm notFeed, lines.1⟩

/-! ## Texts that agree up to case -/

theorem map_toLower_of_eqIgnoreAsciiCase {left right : String}
    (same : eqIgnoreAsciiCase left right = true) :
    left.toList.map Char.toLower = right.toList.map Char.toLower := by
  have texts := congrArg String.toList (beq_iff_eq.mp same)
  rwa [toAsciiLowercase, toAsciiLowercase, String.toList_ofList, String.toList_ofList] at texts

theorem eqIgnoreAsciiCase_symm {left right : String}
    (same : eqIgnoreAsciiCase left right = true) : eqIgnoreAsciiCase right left = true := by
  rw [eqIgnoreAsciiCase, beq_iff_eq] at same ⊢
  exact same.symm

theorem eqIgnoreAsciiCase_trans {left middle right : String}
    (first : eqIgnoreAsciiCase left middle = true)
    (second : eqIgnoreAsciiCase middle right = true) : eqIgnoreAsciiCase left right = true := by
  rw [eqIgnoreAsciiCase, beq_iff_eq] at first second ⊢
  exact first.trans second

/-- A character outside the letters is the lower case of itself only. -/
theorem toLower_eq_iff {char other : Char} (upper : ¬ (65 ≤ char.toNat ∧ char.toNat ≤ 90))
    (lower : ¬ (97 ≤ char.toNat ∧ char.toNat ≤ 122)) : other.toLower = char ↔ other = char := by
  rw [← Char.toNat_inj, ← Char.toNat_inj, toLower_toNat]
  split
  · omega
  · exact Iff.rfl

/-- Such a character occurs equally often in both. -/
theorem count_of_eqIgnoreAsciiCase {left right : String} {char : Char}
    (same : eqIgnoreAsciiCase left right = true)
    (upper : ¬ (65 ≤ char.toNat ∧ char.toNat ≤ 90))
    (lower : ¬ (97 ≤ char.toNat ∧ char.toNat ≤ 122)) :
    left.toList.count char = right.toList.count char := by
  have counted : ∀ text : List Char, (text.map Char.toLower).count char = text.count char := by
    intro text
    unfold List.count
    rw [List.countP_map]
    refine List.countP_congr fun other _ => ?_
    rw [Function.comp_apply, beq_iff_eq, beq_iff_eq]
    exact toLower_eq_iff upper lower
  rw [← counted, map_toLower_of_eqIgnoreAsciiCase same, counted]

/-- Texts that agree up to case begin with the same character, when it is not a letter. -/
theorem head_of_eqIgnoreAsciiCase {left right : String} {char : Char}
    (same : eqIgnoreAsciiCase left right = true)
    (upper : ¬ (65 ≤ char.toNat ∧ char.toNat ≤ 90))
    (lower : ¬ (97 ≤ char.toNat ∧ char.toNat ≤ 122))
    (opens : char ∈ left.toList.head?) : char ∈ right.toList.head? := by
  have heads := congrArg List.head? (map_toLower_of_eqIgnoreAsciiCase same)
  rw [List.head?_map, List.head?_map, Option.mem_def.mp opens, Option.map_some,
    (toLower_eq_iff upper lower).mpr rfl] at heads
  obtain ⟨other, found, lowered⟩ := Option.map_eq_some_iff.mp heads.symm
  rw [found, (toLower_eq_iff upper lower).mp lowered]
  rfl

end Oxo.Foundation
