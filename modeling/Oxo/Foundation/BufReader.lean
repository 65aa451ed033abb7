import Mathlib.Tactic

/-!
Contract: a buffered reader over a source that hands out its bytes in pieces.

Owns: the pieces a source is read in, one read through the buffer, an exact read, and the law
that neither the pieces nor the buffer show in what is read.

Does not own: what the bytes mean, or when a reader stops.
-/

namespace Oxo.Foundation

/-! ## Sources -/

/-- What the reads of a source will hand out, and whether the read behind the last piece fails or
reports the end. -/
structure Segments (α : Type) where
  pieces : List (List α)
  nonempty : ∀ piece ∈ pieces, piece ≠ []
  fails : Bool

namespace Segments

variable {α : Type}

def bytes (source : Segments α) : List α :=
  source.pieces.flatten

/-- One read with some room: the front of the next piece. No item stands for the end, and no
result for a failure. -/
def read (source : Segments α) (room : Nat) : Option (List α × Segments α) :=
  match found : source.pieces with
  | [] => if source.fails then none else some ([], source)
  | piece :: rest =>
      if fits : piece.length ≤ room then
        some (piece, { source with
          pieces := rest
          nonempty := fun other member =>
            source.nonempty other (found ▸ List.mem_cons_of_mem piece member) })
      else
        some (piece.take room, { source with
          pieces := piece.drop room :: rest
          nonempty := by
            intro other member
            rcases List.mem_cons.mp member with here | later
            · rw [here]
              exact fun empty => fits (List.drop_eq_nil_iff.mp empty)
            · exact source.nonempty other (found ▸ List.mem_cons_of_mem piece later) })

end Segments

/-! ## Readers -/

/-- A reader with a buffer of some capacity. -/
structure BufReader (α : Type) where
  capacity : Nat
  roomy : 0 < capacity
  buffer : List α
  source : Segments α

/-- What a read makes of what is pending: its front, or the end, or a failure behind the end. -/
structure ReadFront {α : Type} (room : Nat) (pending : List α) (fails : Bool)
    (front rest : List α) (restFails : Bool) : Prop where
  parts : pending = front ++ rest
  within : front.length ≤ room
  progress : front = [] → pending = []
  sameEnd : restFails = fails

namespace Segments

variable {α : Type}

theorem read_front {source next : Segments α} {room : Nat} (roomy : 0 < room) {front : List α}
    (answered : source.read room = some (front, next)) :
    ReadFront room source.bytes source.fails front next.bytes next.fails := by
  unfold read at answered
  split at answered
  · rename_i none
    split at answered
    · cases answered
    · cases answered
      exact ⟨rfl, Nat.zero_le _, fun _ => by rw [bytes, none]; rfl, rfl⟩
  · rename_i piece rest found
    have pieceNonempty : piece ≠ [] :=
      source.nonempty piece (by rw [found]; exact List.mem_cons_self)
    have whole : source.bytes = piece ++ rest.flatten := by
      rw [bytes, found]
      rfl
    split at answered
    · rename_i fits
      cases answered
      exact ⟨whole, fits, fun empty => absurd empty pieceNonempty, rfl⟩
    · cases answered
      refine ⟨?_, List.length_take_le _ _, fun empty => ?_, rfl⟩
      · rw [whole, bytes, List.flatten_cons, ← List.append_assoc, List.take_append_drop]
      · exact absurd ((List.take_eq_nil_iff.mp empty).resolve_left (by omega)) pieceNonempty

/-- A piece that fits is read at once. -/
theorem read_piece {source : Segments α} {room : Nat} {piece : List α} {rest : List (List α)}
    (found : source.pieces = piece :: rest) (fits : piece.length ≤ room) :
    ∃ next, source.read room = some (piece, next) := by
  unfold read
  split
  · rename_i none
    rw [found] at none
    cases none
  · rename_i other others opened
    obtain ⟨rfl, rfl⟩ := List.cons.inj (found.symm.trans opened)
    rw [dif_pos fits]
    exact ⟨_, rfl⟩

theorem read_eq_none {source : Segments α} {room : Nat} :
    source.read room = none ↔ source.bytes = [] ∧ source.fails = true := by
  unfold read
  split
  · rename_i none
    rw [bytes, none]
    cases source.fails <;> simp
  · rename_i piece rest found
    have pieceNonempty : piece ≠ [] :=
      source.nonempty piece (by rw [found]; exact List.mem_cons_self)
    have someBytes : source.bytes ≠ [] := by
      rw [bytes, found, List.flatten_cons]
      exact fun empty => pieceNonempty (List.append_eq_nil_iff.mp empty).1
    split <;> simp [someBytes]

end Segments

namespace BufReader

variable {α : Type}

/-- What is still to be read. -/
def pending (reader : BufReader α) : List α :=
  reader.buffer ++ reader.source.bytes

/-- Fill an empty buffer by one read of the source. -/
def fillBuf (reader : BufReader α) : Option (BufReader α) :=
  if reader.buffer = [] then
    (reader.source.read reader.capacity).map fun answer =>
      { reader with buffer := answer.1, source := answer.2 }
  else some reader

/-- One read: past an empty buffer when the room is no smaller than it, else from the buffer. -/
def read (reader : BufReader α) (room : Nat) : Option (List α × BufReader α) :=
  if reader.buffer = [] ∧ reader.capacity ≤ room then
    (reader.source.read room).map fun answer => (answer.1, { reader with source := answer.2 })
  else
    reader.fillBuf.map fun filled =>
      (filled.buffer.take room, { filled with buffer := filled.buffer.drop room })

private theorem fillBuf_front {reader filled : BufReader α} (done : reader.fillBuf = some filled) :
    filled.pending = reader.pending ∧ (filled.buffer = [] → reader.pending = []) ∧
      filled.source.fails = reader.source.fails := by
  unfold fillBuf at done
  split at done
  · rename_i empty
    obtain ⟨⟨front, next⟩, answered, rfl⟩ := Option.map_eq_some_iff.mp done
    have facts := Segments.read_front reader.roomy answered
    refine ⟨?_, fun nothing => ?_, facts.sameEnd⟩
    · rw [pending, pending, empty, facts.parts]
      rfl
    · rw [pending, empty, facts.progress nothing]
      rfl
  · rename_i nonempty
    cases done
    exact ⟨rfl, fun empty => absurd empty nonempty, rfl⟩

theorem read_front {reader next : BufReader α} {room : Nat} (roomy : 0 < room) {front : List α}
    (answered : reader.read room = some (front, next)) :
    ReadFront room reader.pending reader.source.fails front next.pending next.source.fails := by
  unfold read at answered
  split at answered
  · rename_i direct
    obtain ⟨⟨bytes, source⟩, handed, same⟩ := Option.map_eq_some_iff.mp answered
    cases same
    have facts := Segments.read_front roomy handed
    rw [pending, pending, direct.1]
    exact facts
  · obtain ⟨filled, done, same⟩ := Option.map_eq_some_iff.mp answered
    cases same
    obtain ⟨samePending, noBuffer, sameEnd⟩ := fillBuf_front done
    refine ⟨?_, List.length_take_le _ _, fun empty => ?_, sameEnd⟩
    · rw [← samePending, pending, pending, ← List.append_assoc, List.take_append_drop]
    · exact noBuffer ((List.take_eq_nil_iff.mp empty).resolve_left (by omega))

theorem read_eq_none {reader : BufReader α} {room : Nat} :
    reader.read room = none ↔ reader.pending = [] ∧ reader.source.fails = true := by
  unfold read fillBuf pending
  by_cases empty : reader.buffer = []
  · split <;> simp [empty, Segments.read_eq_none]
  · simp [empty]

/-- An exact read: as many items as asked for, or none when the source ends or fails before. -/
def readExact (reader : BufReader α) (count : Nat) : Option (List α × BufReader α) :=
  if count = 0 then some ([], reader)
  else
    match reader.read count with
    | none => none
    | some ([], _) => none
    | some (item :: others, next) =>
        (next.readExact (count - (item :: others).length)).map fun later =>
          (item :: others ++ later.1, later.2)
termination_by count
decreasing_by
  rw [List.length_cons]
  omega

/-- However the source hands them out, an exact read gives the next items. -/
theorem readExact_eq (reader : BufReader α) (count : Nat) :
    (reader.readExact count).map (fun answer => (answer.1, answer.2.pending)) =
      if count ≤ reader.pending.length then
        some (reader.pending.take count, reader.pending.drop count)
      else none := by
  induction count using Nat.strong_induction_on generalizing reader with
  | _ count inductionHypothesis =>
  rw [readExact]
  split
  · rename_i none
    rw [none, if_pos (Nat.zero_le _)]
    rfl
  · rename_i more
    have roomy : 0 < count := Nat.pos_of_ne_zero more
    split
    · rename_i failed
      rw [(read_eq_none.mp failed).1, if_neg (by simpa using more)]
      rfl
    · rename_i next ended
      rw [(read_front roomy ended).progress rfl, if_neg (by simpa using more)]
      rfl
    · rename_i item others next answered
      have facts := read_front roomy answered
      have within := facts.within
      have shorter : count - (item :: others).length < count := by
        rw [List.length_cons]
        omega
      have later := inductionHypothesis _ shorter next
      have regroup : (next.readExact (count - (item :: others).length)).map
          (fun answer => (item :: others ++ answer.1, answer.2.pending)) =
            ((next.readExact (count - (item :: others).length)).map fun answer =>
              (answer.1, answer.2.pending)).map fun answer =>
                (item :: others ++ answer.1, answer.2) := by
        rw [Option.map_map]
        rfl
      rw [Option.map_map]
      change (next.readExact (count - (item :: others).length)).map
        (fun answer => (item :: others ++ answer.1, answer.2.pending)) = _
      rw [regroup, later, facts.parts]
      have enough : count - (item :: others).length ≤ next.pending.length ↔
          count ≤ (item :: others ++ next.pending).length := by
        rw [List.length_append]
        omega
      simp only [enough]
      split
      · rw [Option.map_some, List.take_append, List.drop_append,
          List.take_of_length_le within, List.drop_of_length_le within, List.nil_append]
      · rfl

end BufReader

end Oxo.Foundation
