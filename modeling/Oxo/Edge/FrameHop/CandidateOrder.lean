import Mathlib.Data.List.Rotate
import Oxo.Edge.FrameHop.Dispatch

/-!
Contract: the candidate orders as the edge builds them, in a stack buffer
(`oxo-pingora-edge/src/platform/frame_hop.rs`, `CandidateOrder`).

Owns: the buffer and its in-place sort and rotation; that the orders are those of
`Oxo.Edge.FrameHop.Dispatch`, that each tries every worker once, and the policy each follows.

Does not own: the gauges, of which one snapshot is an argument.
-/

namespace Oxo.Edge.FrameHop.CandidateOrder

/-! ## The buffer -/

/-- A `usize` sum modulo the number of workers; without overflow checks the sum wraps. -/
def rotated (start offset n : Nat) : Nat :=
  (start + offset) % 2 ^ 64 % n

/-- The rotation is lazy, the other orders are the front of a buffer. -/
inductive Order where
  | rotated (start n : Nat)
  | ordered (buf : List Nat) (len : Nat)
deriving DecidableEq, Repr

def Order.iter : Order → List Nat
  | .rotated start n => (List.range n).map fun offset => CandidateOrder.rotated start offset n
  | .ordered buf len => buf.take len

def emptyBuffer : List Nat :=
  List.replicate maxWorkers 0

def fill (start n : Nat) : (len : Nat) → List Nat
  | 0 => emptyBuffer
  | len + 1 => (fill start n len).set len (rotated start len n)

/-- What a method of the slice `buf[..len]` does to the buffer. -/
def onFront (len : Nat) (method : List Nat → List Nat) (buf : List Nat) : List Nat :=
  method (buf.take len) ++ buf.drop len

/-- The first idle worker of `buf[..len]` is rotated to the front, if the first one is busy. -/
def freeFirst (depth : Nat → Nat) (len : Nat) (buf : List Nat) : List Nat :=
  if 0 < len ∧ depth (buf.getD 0 0) > 0 then
    match (buf.take len).findIdx? fun idx => depth idx == 0 with
    | some pos => onFront (pos + 1) (·.rotateRight 1) buf
    | none => buf
  else buf

def candidateOrderWith (start n : Nat) (mode : DispatchMode) (inFlight : Nat → Nat) : Order :=
  let len := min n maxWorkers
  let buf := fill start n len
  let depth := fun idx => inFlight (min idx (maxWorkers - 1))
  match mode with
  | .rr => .rotated start n
  | .leastOutstanding | .sticky =>
      .ordered (onFront len (·.mergeSort fun left right => depth left ≤ depth right) buf) len
  | .freeFirst => .ordered (freeFirst depth len buf) len

/-- The loop of `sticky_order`: the buffer and its filled length. -/
def stickyFill (start len first : Nat) : (offsets : Nat) → List Nat × Nat
  | 0 => (emptyBuffer.set 0 first, 1)
  | offsets + 1 =>
      let (buf, olen) := stickyFill start len first offsets
      let idx := rotated start offsets len
      if idx ≠ buf.getD 0 0 then (buf.set olen idx, olen + 1) else (buf, olen)

def stickyOrder (pinned start n : Nat) : Order :=
  let len := min n maxWorkers
  let (buf, olen) := stickyFill start len (min pinned (len - 1)) len
  .ordered buf olen

/-! ## The orders of one snapshot -/

section

variable {start n len : Nat}

theorem rotated_eq {offset : Nat} (fits : start + offset < 2 ^ 64) :
    rotated start offset n = (start + offset) % n := by
  rw [rotated, Nat.mod_eq_of_lt fits]

private theorem take_succ_set {buf : List Nat} {idx : Nat} (inside : idx < buf.length)
    (value : Nat) : (buf.set idx value).take (idx + 1) = buf.take idx ++ [value] := by
  rw [List.take_succ_eq_append_getElem (by rwa [List.length_set]), List.getElem_set_self,
    List.take_set_of_le (Nat.le_refl idx)]

theorem length_fill (len : Nat) : (fill start n len).length = maxWorkers := by
  induction len with
  | zero => exact List.length_replicate
  | succ len inductionHypothesis => rw [fill, List.length_set, inductionHypothesis]

private theorem rotation_succ (offsets : Nat) :
    rotation start n (offsets + 1) = rotation start n offsets ++ [(start + offsets) % n] := by
  rw [rotation, rotation, List.range_succ, List.map_append, List.map_cons, List.map_nil]

theorem take_fill (fits : start + len ≤ 2 ^ 64) (small : len ≤ maxWorkers) :
    (fill start n len).take len = rotation start n len := by
  induction len with
  | zero => rfl
  | succ len inductionHypothesis =>
      rw [fill, take_succ_set (by rw [length_fill]; exact small),
        inductionHypothesis (by omega) (by omega), rotated_eq (by omega), rotation_succ]

theorem length_rotation : (rotation start n len).length = len := by
  rw [rotation, List.length_map, List.length_range]

private theorem take_onFront {method : List Nat → List Nat} {buf : List Nat}
    (same : (method (buf.take len)).length = len) :
    (onFront len method buf).take len = method (buf.take len) := by
  rw [onFront, List.take_append_of_le_length (Nat.le_of_eq same.symm),
    List.take_of_length_le (Nat.le_of_eq same)]

private theorem rotateRight_concat (before : List Nat) (last : Nat) :
    (before ++ [last]).rotateRight 1 = last :: before := by
  cases before with
  | nil => rfl
  | cons first before =>
      have one : 1 % (before.length + 1 + 1) = 1 := Nat.mod_eq_of_lt (by omega)
      simp [List.rotateRight, one]

/-- `rotate_right(1)` up to a worker brings it to the front of the buffer. -/
private theorem take_rotated {before after rest : List Nat} {idle : Nat} :
    (onFront (before.length + 1) (·.rotateRight 1) (before ++ idle :: after ++ rest)).take
        (before ++ idle :: after).length = idle :: (before ++ after) := by
  have split : before ++ idle :: after ++ rest = (before ++ [idle]) ++ (after ++ rest) := by simp
  have length : (before ++ [idle]).length = before.length + 1 := by simp
  rw [onFront, split, List.take_left' length, List.drop_left' length, rotateRight_concat]
  simp only [List.length_append, List.length_cons, ← Nat.add_assoc, List.cons_append,
    List.take_succ_cons]
  rw [← List.append_assoc, List.take_left' (by rw [List.length_append])]

private theorem take_freeFirst {order rest others : List Nat} {first : Nat} (depth : Nat → Nat)
    (isOrder : order = first :: others) :
    (freeFirst depth order.length (order ++ rest)).take order.length =
      if depth first > 0 then
        match order.findIdx? fun idx => depth idx == 0 with
        | some pos => order[pos]?.toList ++ order.eraseIdx pos
        | none => order
      else order := by
  have front : (order ++ rest).getD 0 0 = first := by rw [isOrder]; rfl
  have nonempty : 0 < order.length := by rw [isOrder]; exact Nat.succ_pos _
  have whole : (order ++ rest).take order.length = order := List.take_left
  rw [freeFirst, front, whole]
  by_cases busy : depth first > 0
  · rw [if_pos ⟨nonempty, busy⟩, if_pos busy]
    cases found : order.findIdx? fun idx => depth idx == 0 with
    | none => exact whole
    | some pos =>
        obtain ⟨within, -, -⟩ := List.findIdx?_eq_some_iff_getElem.mp found
        obtain ⟨before, idle, after, split, length⟩ :
            ∃ before idle after, order = before ++ idle :: after ∧ before.length = pos := by
          refine ⟨order.take pos, order[pos], order.drop (pos + 1), ?_, ?_⟩
          · rw [← List.drop_eq_getElem_cons within, List.take_append_drop]
          · rw [List.length_take, Nat.min_eq_left (Nat.le_of_lt within)]
        subst split length
        dsimp only
        rw [take_rotated]
        simp [List.eraseIdx_append_of_length_le]
  · rw [if_neg (fun both => busy both.2), if_neg busy, whole]

/-- Over the filled buffer, the orders of `Dispatch`. -/
theorem iter_candidateOrderWith (mode : DispatchMode) (inFlight : Nat → Nat)
    (fits : start + n ≤ 2 ^ 64) :
    (candidateOrderWith start n mode inFlight).iter =
      FrameHop.candidateOrderWith start n mode inFlight := by
  have small : min n maxWorkers ≤ maxWorkers := Nat.min_le_right _ _
  have filled : (fill start n (min n maxWorkers)).take (min n maxWorkers) =
      rotation start n (min n maxWorkers) := take_fill (by omega) small
  have sorted (depth : Nat → Nat) :
      (Order.ordered (onFront (min n maxWorkers)
        (·.mergeSort fun left right => depth left ≤ depth right)
          (fill start n (min n maxWorkers))) (min n maxWorkers)).iter =
        (rotation start n (min n maxWorkers)).mergeSort
          fun left right => depth left ≤ depth right := by
    rw [Order.iter, take_onFront (by rw [filled, List.length_mergeSort, length_rotation]), filled]
  cases mode with
  | rr =>
      apply List.map_congr_left
      intro offset within
      exact rotated_eq (by have := List.mem_range.mp within; omega)
  | leastOutstanding => exact sorted _
  | sticky => exact sorted _
  | freeFirst =>
      obtain ⟨rest, isBuffer⟩ : ∃ rest, fill start n (min n maxWorkers) =
          rotation start n (min n maxWorkers) ++ rest :=
        ⟨_, (by rw [← filled, List.take_append_drop])⟩
      have length : (rotation start n (min n maxWorkers)).length = min n maxWorkers :=
        length_rotation
      simp only [candidateOrderWith, FrameHop.candidateOrderWith, isBuffer]
      generalize rotation start n (min n maxWorkers) = order at length
      rw [← length]
      cases isOrder : order with
      | nil => rfl
      | cons first others =>
          exact take_freeFirst (fun idx => inFlight (min idx (maxWorkers - 1))) rfl

/-! ## Each worker once -/

theorem rotation_eq_rotate : rotation start n n = (List.range n).rotate start := by
  apply List.ext_getElem
  · rw [length_rotation, List.length_rotate, List.length_range]
  · intro offset within rotatedWithin
    rw [List.getElem_rotate, List.getElem_range, List.length_range]
    simp only [rotation, List.getElem_map, List.getElem_range]
    rw [Nat.add_comm]

theorem rotation_perm : (rotation start n n).Perm (List.range n) := by
  rw [rotation_eq_rotate]
  exact List.rotate_perm _ _

theorem take_rotation {offsets : Nat} (within : offsets ≤ n) :
    (rotation start n n).take offsets = rotation start n offsets := by
  rw [rotation, rotation, ← List.map_take, List.take_range, Nat.min_eq_left within]

/-- The pinned worker leaves room in the buffer for every other one. -/
private theorem unpinned_length {first offsets : Nat} (pinnedWithin : first < n)
    (within : offsets ≤ n) :
    ((rotation start n offsets).filter fun idx => idx != first).length < n := by
  have nodup : (first :: (rotation start n offsets).filter fun idx => idx != first).Nodup := by
    rw [← take_rotation within]
    refine List.nodup_cons.mpr ⟨by simp, List.Nodup.filter _ ?_⟩
    exact List.Nodup.sublist (List.take_sublist _ _)
      ((rotation_perm.nodup_iff).mpr List.nodup_range)
  have inside : (first :: (rotation start n offsets).filter fun idx => idx != first) ⊆
      List.range n := by
    refine List.cons_subset.mpr ⟨List.mem_range.mpr pinnedWithin, fun idx member => ?_⟩
    rw [← take_rotation within] at member
    exact rotation_perm.subset (List.mem_of_mem_take (List.mem_of_mem_filter member))
  have count := (List.subperm_of_subset nodup inside).length_le
  rw [List.length_range, List.length_cons] at count
  exact count

private theorem stickyFill_spec {first offsets : Nat} (fits : start + n ≤ 2 ^ 64)
    (small : n ≤ maxWorkers) (pinnedWithin : first < n) (within : offsets ≤ n) :
    (stickyFill start n first offsets).1.length = maxWorkers ∧
      (stickyFill start n first offsets).2 =
        ((rotation start n offsets).filter fun idx => idx != first).length + 1 ∧
      (stickyFill start n first offsets).1.take (stickyFill start n first offsets).2 =
        first :: (rotation start n offsets).filter fun idx => idx != first := by
  induction offsets with
  | zero => exact ⟨by simp [stickyFill, emptyBuffer], rfl, rfl⟩
  | succ offsets inductionHypothesis =>
      obtain ⟨length, filled, front⟩ := inductionHypothesis (by omega)
      have room := @unpinned_length start n first (offsets + 1) pinnedWithin within
      have isFirst : (stickyFill start n first offsets).1.getD 0 0 = first := by
        have head := congrArg List.head? front
        rw [filled, List.head?_take, if_neg (Nat.succ_ne_zero _), List.head?_cons,
          List.head?_eq_getElem?] at head
        rw [List.getD_eq_getElem?_getD, head, Option.getD_some]
      rw [rotation_succ, List.filter_append] at room ⊢
      simp only [stickyFill, isFirst, rotated_eq (show start + offsets < 2 ^ 64 by omega)]
      by_cases same : (start + offsets) % n = first
      · rw [filled] at front
        simp [same, length, filled, front]
      · have other : (((start + offsets) % n) != first) = true := bne_iff_ne.mpr same
        simp only [List.filter_singleton, other, cond_true, List.length_append,
          List.length_singleton] at room ⊢
        rw [if_pos same, List.length_set, take_succ_set (by omega), front]
        exact ⟨length, by rw [filled], rfl⟩

/-- Over the filled buffer, the order of `Dispatch` under a pin. -/
theorem iter_stickyOrder (pinned : Nat) (nonempty : 0 < n) (fits : start + n ≤ 2 ^ 64) :
    (stickyOrder pinned start n).iter = FrameHop.stickyOrder pinned start n := by
  have many : 0 < min n maxWorkers := Nat.lt_min.mpr ⟨nonempty, by decide⟩
  exact (stickyFill_spec (by omega) (Nat.min_le_right _ _)
    (Nat.lt_of_le_of_lt (Nat.min_le_right _ _) (Nat.sub_lt many Nat.one_pos)) (Nat.le_refl _)).2.2

/-! ## The policies -/

/-- Sorted by depth, and the workers of one depth in the order of the rotation. -/
structure SortedInRotation (depth : Nat → Nat) (rotation order : List Nat) : Prop where
  sorted : order.Pairwise fun left right => depth left ≤ depth right
  ties : ∀ level, (order.filter fun idx => depth idx = level) =
    rotation.filter fun idx => depth idx = level

/-- The first idle worker moves to the front, and nothing else moves. -/
structure PromotesFirstIdle (depth : Nat → Nat) (rotation order : List Nat) : Prop where
  promoted : ∀ before idle after, rotation = before ++ idle :: after →
    (∀ idx ∈ before, depth idx ≠ 0) → depth idle = 0 → order = idle :: (before ++ after)
  allBusy : (∀ idx ∈ rotation, depth idx ≠ 0) → order = rotation

/-- A stable sort keeps the workers of one depth as they stood. -/
theorem sortedInRotation_mergeSort (depth : Nat → Nat) (rotation : List Nat) :
    SortedInRotation depth rotation
      (rotation.mergeSort fun left right => depth left ≤ depth right) := by
  have transitive : ∀ left middle right : Nat, decide (depth left ≤ depth middle) = true →
      decide (depth middle ≤ depth right) = true → decide (depth left ≤ depth right) = true := by
    intro left middle right first second
    simp only [decide_eq_true_eq] at first second ⊢
    exact first.trans second
  have total : ∀ left right : Nat,
      (decide (depth left ≤ depth right) || decide (depth right ≤ depth left)) = true := by
    intro left right
    simp only [Bool.or_eq_true, decide_eq_true_eq]
    exact Nat.le_total _ _
  constructor
  · exact (List.pairwise_mergeSort transitive total rotation).imp of_decide_eq_true
  · intro level
    have same : (rotation.filter fun idx => depth idx = level).Pairwise
        fun left right => decide (depth left ≤ depth right) = true := by
      apply List.pairwise_of_forall_mem_list
      intro left leftIn right rightIn
      simp only [List.mem_filter, decide_eq_true_eq] at leftIn rightIn ⊢
      omega
    have kept := List.sublist_mergeSort transitive total same List.filter_sublist
    have filtered := kept.filter fun idx => depth idx = level
    rw [List.filter_filter] at filtered
    simp only [Bool.and_self] at filtered
    have length := ((List.mergeSort_perm rotation
      fun left right => depth left ≤ depth right).filter fun idx => depth idx = level).length_eq
    exact (filtered.eq_of_length length.symm).symm

section

variable {depth other : Nat → Nat} {rotation order : List Nat}

private theorem SortedInRotation.congr (sorted : SortedInRotation depth rotation order)
    (same : ∀ idx ∈ rotation, depth idx = other idx) (perm : order.Perm rotation) :
    SortedInRotation other rotation order where
  sorted := by
    refine List.Pairwise.imp_of_mem (fun leftIn rightIn below => ?_) sorted.sorted
    rw [← same _ (perm.subset leftIn), ← same _ (perm.subset rightIn)]
    exact below
  ties := by
    intro level
    have kept {order : List Nat} (inside : ∀ idx ∈ order, idx ∈ rotation) :
        (order.filter fun idx => other idx = level) = order.filter fun idx => depth idx = level :=
      List.filter_congr fun idx member => by rw [same idx (inside idx member)]
    rw [kept fun idx member => perm.subset member, kept fun idx member => member]
    exact sorted.ties level

private theorem PromotesFirstIdle.congr (promotes : PromotesFirstIdle depth rotation order)
    (same : ∀ idx ∈ rotation, depth idx = other idx) : PromotesFirstIdle other rotation order where
  promoted := by
    intro before idle after split busy free
    subst split
    refine promotes.promoted before idle after rfl (fun idx member => ?_) ?_
    · rw [same idx (List.mem_append_left _ member)]
      exact busy idx member
    · rw [same idle (by simp)]
      exact free
  allBusy := fun busy => promotes.allBusy fun idx member => by
    rw [same idx member]
    exact busy idx member

private theorem promotes_freeFirst (inFlight : Nat → Nat) :
    PromotesFirstIdle (fun idx => inFlight (min idx (maxWorkers - 1)))
      (FrameHop.rotation start n (min n maxWorkers))
      (FrameHop.candidateOrderWith start n .freeFirst inFlight) := by
  simp only [FrameHop.candidateOrderWith]
  generalize FrameHop.rotation start n (min n maxWorkers) = rotation
  generalize isDepth : (fun idx => inFlight (min idx (maxWorkers - 1))) = depth
  simp only [congrFun isDepth]
  constructor
  · intro before idle after split busy free
    cases before with
    | nil =>
        subst split
        simp [free]
    | cons first before =>
        have found : rotation.findIdx? (fun idx => depth idx == 0) = some (before.length + 1) := by
          rw [split, List.findIdx?_append, List.findIdx?_eq_none_iff.mpr]
          · simp [List.findIdx?_cons, free]
          · exact fun idx member => by simp [busy idx member]
        subst split
        simp only [List.cons_append] at found ⊢
        rw [if_pos (Nat.pos_of_ne_zero (busy first List.mem_cons_self)), found]
        simp [List.eraseIdx_append_of_length_le]
  · intro busy
    cases rotation with
    | nil => rfl
    | cons first rest =>
        have none : (first :: rest).findIdx? (fun idx => depth idx == 0) = none :=
          List.findIdx?_eq_none_iff.mpr fun idx member => by simp [busy idx member]
        simp only [none, ite_self]

end

private theorem freeFirst_perm (inFlight : Nat → Nat) :
    (FrameHop.candidateOrderWith start n .freeFirst inFlight).Perm
      (rotation start n (min n maxWorkers)) := by
  simp only [FrameHop.candidateOrderWith]
  generalize rotation start n (min n maxWorkers) = rotation
  split
  · exact List.Perm.refl _
  · split
    · split
      · next pos found =>
          obtain ⟨within, -, -⟩ := List.findIdx?_eq_some_iff_getElem.mp found
          rw [List.getElem?_eq_getElem within]
          exact List.getElem_cons_eraseIdx_perm within
      · exact List.Perm.refl _
    · exact List.Perm.refl _

theorem candidateOrderWith_perm (mode : DispatchMode) (inFlight : Nat → Nat)
    (small : mode = .rr ∨ n ≤ maxWorkers) :
    (FrameHop.candidateOrderWith start n mode inFlight).Perm (rotation start n n) := by
  cases mode with
  | rr => exact List.Perm.refl _
  | leastOutstanding | sticky =>
      have within : min n maxWorkers = n := Nat.min_eq_left (by simpa using small)
      simp only [FrameHop.candidateOrderWith, within]
      exact List.mergeSort_perm _ _
  | freeFirst =>
      have within : min n maxWorkers = n := Nat.min_eq_left (by simpa using small)
      have moved := @freeFirst_perm start n inFlight
      rwa [within] at moved

theorem stickyOrder_perm {pinned : Nat} (nonempty : 0 < n) (small : n ≤ maxWorkers) :
    (FrameHop.stickyOrder pinned start n).Perm (rotation start n n) := by
  have within : min n maxWorkers = n := Nat.min_eq_left small
  have nodup : (rotation start n n).Nodup := (rotation_perm.nodup_iff).mpr List.nodup_range
  have member : min pinned (n - 1) ∈ rotation start n n :=
    rotation_perm.mem_iff.mpr (List.mem_range.mpr (by omega))
  simp only [FrameHop.stickyOrder, within]
  rw [← nodup.erase_eq_filter]
  exact (List.perm_cons_erase member).symm

/-- Every order tries each worker once, by the policy of its mode. -/
theorem candidate_orders_follow_policies {start n : Nat} (nonempty : 0 < n)
    (fits : start + n ≤ 2 ^ 64) (inFlight : Nat → Nat) :
    (candidateOrderWith start n .rr inFlight).iter = rotation start n n ∧
      (rotation start n n).Perm (List.range n) ∧
      (n ≤ maxWorkers →
        (∀ mode, (candidateOrderWith start n mode inFlight).iter.Perm (List.range n)) ∧
        (∀ mode, mode = .leastOutstanding ∨ mode = .sticky →
          SortedInRotation inFlight (rotation start n n)
            (candidateOrderWith start n mode inFlight).iter) ∧
        PromotesFirstIdle inFlight (rotation start n n)
          (candidateOrderWith start n .freeFirst inFlight).iter ∧
        ∀ pinned < n, (stickyOrder pinned start n).iter.Perm (List.range n) ∧
          (stickyOrder pinned start n).iter.head? = some pinned) := by
  refine ⟨iter_candidateOrderWith .rr inFlight fits, rotation_perm, fun small => ?_⟩
  have within : min n maxWorkers = n := Nat.min_eq_left small
  have unclamped : ∀ idx ∈ rotation start n n,
      inFlight (min idx (maxWorkers - 1)) = inFlight idx := by
    intro idx member
    have below := List.mem_range.mp (rotation_perm.subset member)
    rw [Nat.min_eq_left (by unfold maxWorkers at small ⊢; omega)]
  refine ⟨fun mode => ?_, fun mode sorts => ?_, ?_, fun pinned inside => ⟨?_, ?_⟩⟩
  · rw [iter_candidateOrderWith mode inFlight fits]
    exact (candidateOrderWith_perm mode inFlight (Or.inr small)).trans rotation_perm
  · have sorted := sortedInRotation_mergeSort (fun idx => inFlight (min idx (maxWorkers - 1)))
      (rotation start n n)
    rw [iter_candidateOrderWith mode inFlight fits]
    rcases sorts with rfl | rfl
    · simp only [FrameHop.candidateOrderWith, within]
      exact sorted.congr unclamped (List.mergeSort_perm _ _)
    · simp only [FrameHop.candidateOrderWith, within]
      exact sorted.congr unclamped (List.mergeSort_perm _ _)
  · have promotes := @promotes_freeFirst start n inFlight
    rw [within] at promotes
    rw [iter_candidateOrderWith .freeFirst inFlight fits]
    exact promotes.congr unclamped
  · rw [iter_stickyOrder pinned nonempty (by omega)]
    exact (stickyOrder_perm nonempty small).trans rotation_perm
  · rw [iter_stickyOrder pinned nonempty (by omega)]
    simp only [FrameHop.stickyOrder, within, List.head?_cons]
    rw [Nat.min_eq_left (by omega)]

theorem candidate_orders_follow_policies_three :
    (candidateOrderWith 1 3 .rr fun _ => 0).iter.Perm (List.range 3) ∧
      (stickyOrder 2 1 3).iter.head? = some 2 := by
  have orders := @candidate_orders_follow_policies 1 3 (by decide) (by decide) fun _ => 0
  obtain ⟨complete, -, -, pinned⟩ := orders.2.2 (by decide)
  exact ⟨complete .rr, (pinned 2 (by decide)).2⟩

end

end Oxo.Edge.FrameHop.CandidateOrder
