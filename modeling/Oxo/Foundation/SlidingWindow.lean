import Mathlib.Data.List.Basic
import Mathlib.Order.Basic

/-!
Contract: a queue of instants that is trimmed from its front and extended at its end.

Owns: the trimmed queue, the recorded instants that are not older than a window, and that
trimming and extending the one gives the other as long as the clock does not go back.

Does not own: what an instant records, or when the queue is used.
-/

namespace Oxo.Foundation.SlidingWindow

variable {α : Type}

/-- Dropping from the front of a list in which stale items come first drops the stale ones. -/
theorem dropWhile_eq_filter {stale : α → Bool} {items : List α}
    (ordered : items.Pairwise fun first second => stale second = true → stale first = true) :
    items.dropWhile stale = items.filter fun item => !stale item := by
  induction items with
  | nil => rfl
  | cons first rest inductionHypothesis =>
      rw [List.pairwise_cons] at ordered
      cases isStale : stale first with
      | true =>
          rw [List.dropWhile_cons_of_pos isStale, List.filter_cons_of_neg (by simp [isStale])]
          exact inductionHypothesis ordered.2
      | false =>
          have kept : ∀ item ∈ first :: rest, (!stale item) = true := by
            intro item member
            rcases List.mem_cons.mp member with rfl | later
            · rw [isStale]
              rfl
            · cases stays : stale item with
              | false => rfl
              | true => exact absurd (ordered.1 item later stays) (by rw [isStale]; decide)
          rw [List.dropWhile_cons_of_neg (by simp [isStale]), List.filter_eq_self.mpr kept]

/-- The queue without what is older at its front. -/
def expire (width now : Nat) (queue : List Nat) : List Nat :=
  queue.dropWhile fun instant => width < now - instant

/-- The instants that are not older. -/
def within (width now : Nat) (instants : List Nat) : List Nat :=
  instants.filter fun instant => now - instant ≤ width

variable {width now last : Nat} {recorded : List Nat}

theorem expire_eq_within (ordered : recorded.Pairwise (· ≤ ·)) :
    expire width now recorded = within width now recorded := by
  have stale : recorded.Pairwise fun first second =>
      decide (width < now - second) = true → decide (width < now - first) = true := by
    refine ordered.imp fun below => ?_
    rw [decide_eq_true_eq, decide_eq_true_eq]
    omega
  rw [expire, dropWhile_eq_filter stale, within]
  refine List.filter_congr fun instant _ => ?_
  rw [← decide_not, decide_eq_decide]
  exact Nat.not_lt

/-- What is not older later was not older before. -/
theorem within_within (later : last ≤ now) :
    within width now (within width last recorded) = within width now recorded := by
  rw [within, within, within, List.filter_filter]
  refine List.filter_congr fun instant _ => ?_
  rw [← Bool.decide_and, decide_eq_decide]
  omega

/-- Trimming the queue and extending it. -/
theorem expire_append (ordered : recorded.Pairwise (· ≤ ·)) (later : last ≤ now) :
    expire width now (within width last recorded) ++ [now] =
      within width now (recorded ++ [now]) := by
  have trimmed : (within width last recorded).Pairwise (· ≤ ·) := ordered.filter _
  rw [expire_eq_within trimmed, within_within later, within, within, List.filter_append]
  simp

end Oxo.Foundation.SlidingWindow
