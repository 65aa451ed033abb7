import Mathlib.Tactic

/-!
Contract: the order in which the edge tries its workers
(`oxo-pingora-edge/src/platform/frame_hop.rs`, module `dispatch`).

Owns: the dispatch modes, the candidate order of each over one snapshot of the
in-flight depths, the order under a sticky pin, and the capacity mask.

Does not own: the gauges and the pin store behind it.
-/

namespace Oxo.Edge.FrameHop

def maxWorkers : Nat := 16

instance : NeZero maxWorkers := ⟨by decide⟩

/-- The index clamp that keeps every attempt within the shared array. -/
def clamp (idx : Nat) : Fin maxWorkers :=
  ⟨min idx (maxWorkers - 1), by
    unfold maxWorkers
    omega⟩

inductive DispatchMode where
  | rr
  | leastOutstanding
  | freeFirst
  | sticky
deriving DecidableEq, Repr

/-- The rotation from `start`, over the first `len` of `n` workers. -/
def rotation (start n len : Nat) : List Nat :=
  (List.range len).map fun offset => (start + offset) % n

/-- The candidate order of a mode. `inFlight` is the snapshot of the gauges. -/
def candidateOrderWith (start n : Nat) (mode : DispatchMode) (inFlight : Nat → Nat) : List Nat :=
  let depth := fun idx => inFlight (min idx (maxWorkers - 1))
  let order := rotation start n (min n maxWorkers)
  match mode with
  | .rr => rotation start n n
  | .leastOutstanding | .sticky => order.mergeSort fun left right => depth left ≤ depth right
  | .freeFirst =>
      match order with
      | [] => order
      | first :: _ =>
          if depth first > 0 then
            -- the idle worker moves to the front, the rest keep their order
            match order.findIdx? fun idx => depth idx == 0 with
            | some pos => order[pos]?.toList ++ order.eraseIdx pos
            | none => order
          else order

/-- The pinned worker first, then the rotated rest. -/
def stickyOrder (pinned start n : Nat) : List Nat :=
  let len := min n maxWorkers
  let first := min pinned (len - 1)
  first :: (rotation start len len).filter fun idx => idx != first

/-- The bit of a worker in the at-capacity mask. -/
def capacityBit (idx : Nat) : BitVec 32 :=
  1 <<< min idx (maxWorkers - 1)

end Oxo.Edge.FrameHop
