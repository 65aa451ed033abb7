import Mathlib.Data.List.Perm.Basic
import Mathlib.Data.List.Nodup

/-!
Contract: an insertion-ordered queue with a ceiling, keyed pickup and removal by name.

Owns: the queue, its three operations with the outcome each reports to the tickets that
leave, and the laws of every run: tickets stay in order, the ceiling holds, and each
ticket that has left was told so exactly once.

Does not own: any index over the queue.
-/

namespace Oxo.Foundation

inductive Outcome where
  | pickedUp
  | evicted
  | dropped
deriving DecidableEq, Repr

/-- One waiting item: the ticket it drew on arrival, the key it can be picked up by and
the name it can be removed by. -/
structure Waiting (κ ι S : Type) where
  ticket : Nat
  key : κ
  id : ι
  item : S
deriving DecidableEq

structure TicketQueue (κ ι S : Type) where
  nextTicket : Nat
  waiting : List (Waiting κ ι S)

inductive QueueOp (κ ι S : Type) where
  | put (key : κ) (id : ι) (item : S)
  | get (key : κ)
  | popClosed (key : κ) (id : ι)

/-- The item an operation brings. -/
def QueueOp.brings {κ ι S : Type} : QueueOp κ ι S → List S
  | .put _ _ item => [item]
  | .get _ => []
  | .popClosed _ _ => []

/-- What an operation shows: the ticket a put draws, the item a get hands out, and the
outcomes reported to tickets. -/
structure Observation (S : Type) where
  drawn : Option Nat := none
  handed : Option S := none
  outcomes : List (Nat × Outcome) := []
deriving DecidableEq

namespace TicketQueue

variable {κ ι S : Type}

def empty : TicketQueue κ ι S :=
  ⟨1, []⟩

/-! ## Order of the tickets -/

/-- Tickets grow along the queue, and all of them were issued. -/
structure Ordered (queue : TicketQueue κ ι S) : Prop where
  sorted : queue.waiting.Pairwise fun left right => left.ticket < right.ticket
  issued : ∀ entry ∈ queue.waiting, entry.ticket < queue.nextTicket

theorem Ordered.nodup {queue : TicketQueue κ ι S} (ordered : queue.Ordered) :
    queue.waiting.Nodup :=
  ordered.sorted.imp fun less same => Nat.ne_of_lt less (congrArg Waiting.ticket same)

theorem Ordered.ticket_injective {queue : TicketQueue κ ι S} (ordered : queue.Ordered)
    {left right : Waiting κ ι S} (leftIn : left ∈ queue.waiting) (rightIn : right ∈ queue.waiting)
    (same : left.ticket = right.ticket) : left = right := by
  have distinct : (queue.waiting.map Waiting.ticket).Nodup := by
    rw [List.Nodup, List.pairwise_map]
    exact ordered.sorted.imp fun less => Nat.ne_of_lt less
  exact List.inj_on_of_nodup_map distinct leftIn rightIn same

/-- The first match cuts the list in two, and removing it joins the parts. -/
theorem eraseP_of_find? {α : Type} {items : List α} {test : α → Bool} {found : α}
    (first : items.find? test = some found) :
    ∃ before after, items = before ++ found :: after ∧ items.eraseP test = before ++ after ∧
      ∀ item ∈ before, test item = false := by
  obtain ⟨passes, before, after, split, fails⟩ := List.find?_eq_some_iff_append.mp first
  have noneBefore : ∀ item ∈ before, test item = false := by
    intro item member
    simpa using fails item member
  refine ⟨before, after, split, ?_, noneBefore⟩
  rw [split, List.eraseP_append_right, List.eraseP_cons_of_pos passes]
  intro item member
  simp [noneBefore item member]

/-- Cutting an item out of a list without repetition removes exactly that item. -/
theorem mem_of_cut {α : Type} {items before after : List α} {out : α} (nodup : items.Nodup)
    (cut : items = before ++ out :: after) (item : α) :
    item ∈ before ++ after ↔ item ∈ items ∧ item ≠ out := by
  rw [cut] at nodup
  have unique : out ∉ before ++ after := (List.nodup_cons.mp (List.perm_middle.nodup nodup)).1
  rw [cut, List.mem_append, List.mem_append, List.mem_cons]
  constructor
  · intro member
    refine ⟨by tauto, ?_⟩
    rintro rfl
    exact unique (List.mem_append.mpr member)
  · tauto

/-! ## Operations -/

section

variable [DecidableEq κ] [DecidableEq ι]

/-- Append, then drop the oldest item of all keys when the ceiling is passed. -/
def put (ceiling : Nat) (queue : TicketQueue κ ι S) (key : κ) (id : ι) (item : S) :
    TicketQueue κ ι S × Observation S :=
  match queue.waiting ++ [⟨queue.nextTicket, key, id, item⟩] with
  | [] => (⟨queue.nextTicket + 1, []⟩, ⟨some queue.nextTicket, none, []⟩)
  | oldest :: rest =>
      if ceiling < (oldest :: rest).length then
        (⟨queue.nextTicket + 1, rest⟩,
          ⟨some queue.nextTicket, none, [(oldest.ticket, .evicted)]⟩)
      else (⟨queue.nextTicket + 1, oldest :: rest⟩, ⟨some queue.nextTicket, none, []⟩)

/-- Hand out the oldest item of a key. -/
def get (queue : TicketQueue κ ι S) (key : κ) : TicketQueue κ ι S × Observation S :=
  match queue.waiting.find? fun entry => entry.key = key with
  | none => (queue, {})
  | some entry =>
      (⟨queue.nextTicket, queue.waiting.eraseP fun entry => entry.key = key⟩,
        ⟨none, some entry.item, [(entry.ticket, .pickedUp)]⟩)

/-- Remove the item of a name, if it is still there. -/
def popClosed (queue : TicketQueue κ ι S) (id : ι) : TicketQueue κ ι S × Observation S :=
  match queue.waiting.find? fun entry => entry.id = id with
  | none => (queue, {})
  | some entry =>
      (⟨queue.nextTicket, queue.waiting.eraseP fun entry => entry.id = id⟩,
        ⟨none, none, [(entry.ticket, .dropped)]⟩)

def step (ceiling : Nat) (queue : TicketQueue κ ι S) : QueueOp κ ι S →
    TicketQueue κ ι S × Observation S
  | .put key id item => queue.put ceiling key id item
  | .get key => queue.get key
  | .popClosed _ id => queue.popClosed id

def run (ceiling : Nat) (queue : TicketQueue κ ι S) :
    List (QueueOp κ ι S) → TicketQueue κ ι S × List (Observation S)
  | [] => (queue, [])
  | op :: rest =>
      let first := queue.step ceiling op
      let later := run ceiling first.1 rest
      (later.1, first.2 :: later.2)

end

/-! ## What a step does -/

/-- Every way an operation can end. -/
inductive Steps (ceiling : Nat) (queue : TicketQueue κ ι S) :
    QueueOp κ ι S → TicketQueue κ ι S → Observation S → Prop where
  | appended {key : κ} {id : ι} {item : S} (room : queue.waiting.length < ceiling) :
      Steps ceiling queue (.put key id item)
        ⟨queue.nextTicket + 1, queue.waiting ++ [⟨queue.nextTicket, key, id, item⟩]⟩
        ⟨some queue.nextTicket, none, []⟩
  | replaced {key : κ} {id : ι} {item : S} {oldest : Waiting κ ι S} {rest : List (Waiting κ ι S)}
      (full : ceiling ≤ queue.waiting.length)
      (cut : queue.waiting ++ [⟨queue.nextTicket, key, id, item⟩] = oldest :: rest) :
      Steps ceiling queue (.put key id item) ⟨queue.nextTicket + 1, rest⟩
        ⟨some queue.nextTicket, none, [(oldest.ticket, .evicted)]⟩
  | unavailable {key : κ} (absent : ∀ entry ∈ queue.waiting, entry.key ≠ key) :
      Steps ceiling queue (.get key) queue {}
  | picked {key : κ} {entry : Waiting κ ι S} {before after : List (Waiting κ ι S)}
      (cut : queue.waiting = before ++ entry :: after) (keyed : entry.key = key)
      (oldest : ∀ other ∈ before, other.key ≠ key) :
      Steps ceiling queue (.get key) ⟨queue.nextTicket, before ++ after⟩
        ⟨none, some entry.item, [(entry.ticket, .pickedUp)]⟩
  | gone {key : κ} {id : ι} (absent : ∀ entry ∈ queue.waiting, entry.id ≠ id) :
      Steps ceiling queue (.popClosed key id) queue {}
  | removed {key : κ} {id : ι} {entry : Waiting κ ι S} {before after : List (Waiting κ ι S)}
      (cut : queue.waiting = before ++ entry :: after) (named : entry.id = id) :
      Steps ceiling queue (.popClosed key id) ⟨queue.nextTicket, before ++ after⟩
        ⟨none, none, [(entry.ticket, .dropped)]⟩

theorem steps [DecidableEq κ] [DecidableEq ι] (ceiling : Nat) (queue : TicketQueue κ ι S)
    (op : QueueOp κ ι S) :
    Steps ceiling queue op (queue.step ceiling op).1 (queue.step ceiling op).2 := by
  cases op with
  | put key id item =>
      simp only [step, put]
      split
      · rename_i none
        simp at none
      · rename_i oldest rest cut
        have lengths := congrArg List.length cut
        rw [List.length_append, List.length_singleton] at lengths
        split_ifs with full
        · exact .replaced (by omega) cut
        · rw [← cut]
          exact .appended (by omega)
  | get key =>
      simp only [step, get]
      split
      · rename_i none
        apply Steps.unavailable
        simpa using none
      · rename_i entry first
        obtain ⟨before, after, cut, erased, fails⟩ := eraseP_of_find? first
        rw [erased]
        exact .picked cut (by simpa using List.find?_some first) (by simpa using fails)
  | popClosed key id =>
      simp only [step, popClosed]
      split
      · rename_i none
        apply Steps.gone
        simpa using none
      · rename_i entry first
        obtain ⟨before, after, cut, erased, -⟩ := eraseP_of_find? first
        rw [erased]
        exact .removed cut (by simpa using List.find?_some first)

variable {ceiling : Nat} {queue after : TicketQueue κ ι S} {op : QueueOp κ ι S}
  {seen : Observation S}

theorem Steps.draws (moved : Steps ceiling queue op after seen) :
    after.nextTicket = queue.nextTicket + op.brings.length := by
  cases moved <;> rfl

/-- The tickets told an outcome and those still waiting are the ones that waited before and
the ones drawn since. -/
theorem Steps.conserves (moved : Steps ceiling queue op after seen) :
    (seen.outcomes.map Prod.fst ++ after.waiting.map Waiting.ticket).Perm
      (queue.waiting.map Waiting.ticket ++
        List.range' queue.nextTicket op.brings.length) := by
  cases moved with
  | appended room => simp [QueueOp.brings]
  | replaced full cut =>
      have tickets := congrArg (List.map Waiting.ticket) cut
      simp only [List.map_append, List.map_cons, List.map_nil] at tickets
      simp [tickets, QueueOp.brings]
  | unavailable absent => simp [QueueOp.brings]
  | picked cut keyed oldest =>
      rw [cut]
      simpa [QueueOp.brings] using List.perm_middle.symm
  | gone absent => simp [QueueOp.brings]
  | removed cut named =>
      rw [cut]
      simpa [QueueOp.brings] using List.perm_middle.symm

theorem Steps.ordered (moved : Steps ceiling queue op after seen) (ordered : queue.Ordered) :
    after.Ordered := by
  have shrinks : ∀ {before after : List (Waiting κ ι S)} {entry : Waiting κ ι S},
      queue.waiting = before ++ entry :: after →
        Ordered (⟨queue.nextTicket, before ++ after⟩ : TicketQueue κ ι S) := by
    intro before after entry cut
    have fewer : (before ++ after).Sublist queue.waiting := by
      rw [cut]
      exact (List.Sublist.refl before).append (List.sublist_cons_self entry after)
    exact ⟨ordered.sorted.sublist fewer,
      fun other member => ordered.issued other (fewer.subset member)⟩
  have grows : ∀ (key : κ) (id : ι) (item : S), Ordered
      (⟨queue.nextTicket + 1, queue.waiting ++ [⟨queue.nextTicket, key, id, item⟩]⟩ :
        TicketQueue κ ι S) := by
    intro key id item
    constructor
    · simp only [List.pairwise_append, List.pairwise_singleton, List.mem_singleton, forall_eq,
        true_and]
      exact ⟨ordered.sorted, ordered.issued⟩
    · intro other member
      rcases List.mem_append.mp member with waited | arrived
      · exact Nat.lt_succ_of_lt (ordered.issued other waited)
      · rw [List.mem_singleton.mp arrived]
        exact Nat.lt_succ_self _
  cases moved with
  | appended room => exact grows _ _ _
  | @replaced key id item oldest rest full cut =>
      have whole := grows key id item
      rw [cut] at whole
      exact ⟨whole.sorted.of_cons, fun other member =>
        whole.issued other (List.mem_cons_of_mem _ member)⟩
  | unavailable absent => exact ordered
  | picked cut keyed oldest => exact shrinks cut
  | gone absent => exact ordered
  | removed cut named => exact shrinks cut

/-- A ceiling of at least one is kept. -/
theorem Steps.bounded (moved : Steps ceiling queue op after seen)
    (bounded : queue.waiting.length ≤ ceiling) : after.waiting.length ≤ ceiling := by
  cases moved with
  | appended room =>
      rw [List.length_append, List.length_singleton]
      omega
  | replaced full cut =>
      have lengths := congrArg List.length cut
      simp only [List.length_append, List.length_cons, List.length_nil] at lengths ⊢
      omega
  | unavailable absent => exact bounded
  | picked cut keyed oldest =>
      simp only [cut, List.length_append, List.length_cons] at bounded ⊢
      omega
  | gone absent => exact bounded
  | removed cut named =>
      simp only [cut, List.length_append, List.length_cons] at bounded ⊢
      omega

/-- What waits after a step waited before or was brought by it. -/
theorem Steps.arrives (moved : Steps ceiling queue op after seen) {entry : Waiting κ ι S}
    (member : entry ∈ after.waiting) :
    entry ∈ queue.waiting ∨ entry.ticket = queue.nextTicket ∧ op.brings = [entry.item] := by
  have stays : ∀ {before after : List (Waiting κ ι S)} {left : Waiting κ ι S},
      queue.waiting = before ++ left :: after → entry ∈ before ++ after →
        entry ∈ queue.waiting := by
    intro before after left cut kept
    rw [cut]
    simp only [List.mem_append, List.mem_cons] at kept ⊢
    tauto
  have joins : ∀ {key : κ} {id : ι} {item : S},
      entry ∈ queue.waiting ++ [⟨queue.nextTicket, key, id, item⟩] →
        entry ∈ queue.waiting ∨ entry.ticket = queue.nextTicket ∧
          (QueueOp.put key id item).brings = [entry.item] := by
    intro key id item either
    rcases List.mem_append.mp either with waited | arrived
    · exact Or.inl waited
    · rw [List.mem_singleton.mp arrived]
      exact Or.inr ⟨rfl, rfl⟩
  cases moved with
  | appended room => exact joins member
  | replaced full cut =>
      apply joins
      rw [cut]
      exact List.mem_cons_of_mem _ member
  | unavailable absent => exact Or.inl member
  | picked cut keyed oldest => exact Or.inl (stays cut member)
  | gone absent => exact Or.inl member
  | removed cut named => exact Or.inl (stays cut member)

/-! ## What a run keeps -/

private theorem getElem?_append_of_some {items more : List S} {index : Nat} {item : S}
    (found : items[index]? = some item) : (items ++ more)[index]? = some item := by
  obtain ⟨bound, value⟩ := List.getElem?_eq_some_iff.mp found
  rw [List.getElem?_append_left bound, found]

/-- The account of a run: `puts` are the items brought so far, in order, and `log` what was seen.
Each ticket drawn was told one outcome or still waits, and what a pickup hands out is the item
brought under its ticket. -/
structure Accounted (ceiling : Nat) (puts : List S) (log : List (Observation S))
    (queue : TicketQueue κ ι S) : Prop where
  ordered : queue.Ordered
  bounded : queue.waiting.length ≤ ceiling
  drawn : queue.nextTicket = puts.length + 1
  tickets : ((log.flatMap Observation.outcomes).map Prod.fst ++
    queue.waiting.map Waiting.ticket).Perm (List.range' 1 puts.length)
  items : ∀ entry ∈ queue.waiting, puts[entry.ticket - 1]? = some entry.item
  handed : ∀ seen ∈ log, ∀ item, seen.handed = some item →
    ∃ ticket, seen.outcomes = [(ticket, .pickedUp)] ∧ puts[ticket - 1]? = some item

theorem accounted_empty (ceiling : Nat) :
    Accounted ceiling [] [] (empty : TicketQueue κ ι S) where
  ordered := ⟨List.Pairwise.nil, by simp [empty]⟩
  bounded := Nat.zero_le _
  drawn := rfl
  tickets := List.Perm.refl _
  items := by simp [empty]
  handed := by simp

theorem Accounted.step {puts : List S} {log : List (Observation S)}
    (account : Accounted ceiling puts log queue) (moved : Steps ceiling queue op after seen) :
    Accounted ceiling (puts ++ op.brings) (log ++ [seen]) after where
  ordered := moved.ordered account.ordered
  bounded := moved.bounded account.bounded
  drawn := by
    rw [moved.draws, account.drawn, List.length_append]
    omega
  tickets := by
    have issued : List.range' 1 (puts ++ op.brings).length =
        List.range' 1 puts.length ++ List.range' queue.nextTicket op.brings.length := by
      rw [account.drawn, List.length_append, Nat.add_comm puts.length 1, List.range'_append_1]
    rw [issued, List.flatMap_append, List.map_append, List.append_assoc]
    simp only [List.flatMap_cons, List.flatMap_nil, List.append_nil]
    refine (moved.conserves.append_left _).trans ?_
    rw [← List.append_assoc]
    exact account.tickets.append_right _
  items := by
    intro entry member
    rcases moved.arrives member with waited | ⟨ticket, brought⟩
    · exact getElem?_append_of_some (account.items entry waited)
    · rw [brought, ticket, account.drawn, Nat.add_sub_cancel]
      exact List.getElem?_concat_length
  handed := by
    intro other member item hands
    rcases List.mem_append.mp member with earlier | now
    · obtain ⟨ticket, told, brought⟩ := account.handed other earlier item hands
      exact ⟨ticket, told, getElem?_append_of_some brought⟩
    · rw [List.mem_singleton.mp now] at hands ⊢
      cases moved with
      | appended room => cases hands
      | replaced full cut => cases hands
      | unavailable absent => cases hands
      | @picked key entry before after cut keyed oldest =>
          have waited : entry ∈ queue.waiting := by
            rw [cut]
            simp
          cases hands
          exact ⟨entry.ticket, rfl, getElem?_append_of_some (account.items entry waited)⟩
      | gone absent => cases hands
      | removed cut named => cases hands

theorem Accounted.run [DecidableEq κ] [DecidableEq ι] {puts : List S} {log : List (Observation S)}
    (account : Accounted ceiling puts log queue) (ops : List (QueueOp κ ι S)) :
    Accounted ceiling (puts ++ ops.flatMap QueueOp.brings) (log ++ (queue.run ceiling ops).2)
      (queue.run ceiling ops).1 := by
  induction ops generalizing queue puts log with
  | nil => simpa [TicketQueue.run] using account
  | cons op rest inductionHypothesis =>
      have later := inductionHypothesis (account.step (steps ceiling queue op))
      simpa only [List.flatMap_cons, TicketQueue.run, List.append_assoc,
        List.singleton_append] using later

end TicketQueue

end Oxo.Foundation
