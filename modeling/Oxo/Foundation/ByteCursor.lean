import Oxo.Foundation.ExactCodec
import Oxo.Foundation.LittleEndian

/-!
Contract: a length-checked read position over a byte buffer.

Owns: the cursor, the bounded `take`, little-endian numbers and length-prefixed
blocks read through it, and their exactness.

Does not own: the error a reader reports when the buffer is too short, nor any
field layout.
-/

namespace Oxo.Foundation

/-- A read position that never leaves its buffer. -/
structure ByteCursor where
  buf : List UInt8
  pos : Nat
  inBounds : pos ≤ buf.length

namespace ByteCursor

variable {ε : Type}

def new (buf : List UInt8) : ByteCursor :=
  ⟨buf, 0, Nat.zero_le _⟩

def remaining (cur : ByteCursor) : Nat :=
  cur.buf.length - cur.pos

/-- The bytes not yet read. -/
def rest (cur : ByteCursor) : List UInt8 :=
  cur.buf.drop cur.pos

theorem rest_length (cur : ByteCursor) : cur.rest.length = cur.remaining := by
  simp [rest, remaining]

theorem rest_new (buf : List UInt8) : (new buf).rest = buf := rfl

/-- A read position is at the end exactly when nothing is left. -/
theorem remaining_eq_zero (cur : ByteCursor) : cur.remaining = 0 ↔ cur.rest = [] := by
  rw [← cur.rest_length, List.length_eq_zero_iff]

/-- The next `count` bytes, or the given error when fewer remain. -/
def take (truncated : ε) (count : Nat) : Reader ByteCursor ε (List UInt8) := fun cur =>
  if fits : count ≤ cur.remaining then
    .ok (cur.rest.take count,
      { cur with
        pos := cur.pos + count
        inBounds := by
          have := cur.inBounds
          unfold remaining at fits
          omega })
  else
    .error truncated

theorem take_exact (truncated : ε) (count : Nat) :
    Exact rest (take truncated count) id (fun bytes => bytes.length = count) where
  accepts := by
    intro cur bytes tail lengthEq remaining
    have restEq : cur.rest = bytes ++ tail := remaining
    have fits : count ≤ cur.remaining := by
      rw [← cur.rest_length, restEq]
      simp [lengthEq]
    have taken : cur.rest.take count = bytes := by
      rw [restEq, ← lengthEq, List.take_left]
    simp only [take, dif_pos fits, taken]
    refine ⟨_, rfl, ?_⟩
    change cur.buf.drop (cur.pos + count) = tail
    rw [← List.drop_drop]
    change cur.rest.drop count = tail
    rw [restEq, ← lengthEq, List.drop_left]
  consumes := by
    intro cur bytes next accepted
    unfold take at accepted
    split at accepted
    · rename_i fits
      cases accepted
      refine ⟨?_, ?_⟩
      · rw [List.length_take, cur.rest_length]
        exact Nat.min_eq_left fits
      · change cur.rest = cur.rest.take count ++ cur.buf.drop (cur.pos + count)
        rw [← List.drop_drop]
        exact (List.take_append_drop count cur.rest).symm
    · cases accepted

/-- A little-endian number of `width` bytes. -/
def number (truncated : ε) (width : Nat) : Reader ByteCursor ε Nat := do
  let bytes ← take truncated width
  return ofLeBytes bytes

theorem number_exact (truncated : ε) (width : Nat) :
    Exact rest (number truncated width) (toLeBytes width) (fun value => value < 256 ^ width) := by
  refine ((take_exact truncated width).bind (toLeBytes width)
    (fun bytes => Exact.pure (ofLeBytes bytes)) ?_).restate ?_ ?_
  · intro bytes value lengthEq valueEq
    rw [valueEq, ← lengthEq]
    exact toLeBytes_ofLeBytes bytes
  · intro value
    rw [toLeBytes_length]
    constructor
    · intro fits
      exact ⟨rfl, (ofLeBytes_toLeBytes fits).symm⟩
    · intro valid
      have bound := ofLeBytes_lt (toLeBytes width value)
      rw [← valid.2, toLeBytes_length] at bound
      exact bound
  · intro value _
    rw [List.append_nil]
    rfl

/-- Bytes behind their own length, a number of `width` bytes. -/
def block (truncated : ε) (width : Nat) : Reader ByteCursor ε (List UInt8) := do
  let length ← number truncated width
  take truncated length

/-- The image of a length-prefixed block. -/
def blockImage (width : Nat) (bytes : List UInt8) : List UInt8 :=
  toLeBytes width bytes.length ++ bytes

theorem block_exact (truncated : ε) (width : Nat) :
    Exact rest (block truncated width) (blockImage width)
      (fun bytes => bytes.length < 256 ^ width) := by
  refine ((number_exact truncated width).bind List.length
    (fun length => take_exact truncated length) ?_).restate ?_ ?_
  · intro length bytes _ lengthEq
    exact lengthEq
  · intro bytes
    rw [and_iff_left rfl]
  · intro bytes _
    rfl

/-- A byte string opens with at most one written value. -/
theorem split_unique {α : Type} {reader : Reader ByteCursor ε α} {write : α → List UInt8}
    {Valid : α → Prop} (exactness : Exact rest reader write Valid) {left right : α}
    {leftTail rightTail : List UInt8} (leftValid : Valid left) (rightValid : Valid right)
    (same : write left ++ leftTail = write right ++ rightTail) :
    left = right ∧ leftTail = rightTail :=
  exactness.unique leftValid rightValid (rest_new (write left ++ leftTail)) same

end ByteCursor

end Oxo.Foundation
