import Std.Data.HashMap.Lemmas
import Std.Data.TreeMap.Lemmas
import Oxo.Foundation.TicketQueue

/-!
Contract: the idle-connection pool of the frame hop
(`oxo-pingora-edge/src/platform/frame_pool.rs`).

Owns: the three indexes and the operations on them, the runs whose names are used as the
callers promise, and the refinement of the insertion-ordered queue on those runs.

Does not own: the lock and its counters (each operation is one critical section, and the
signals sent after it is left are part of the operation), the debug assertions, or the
ceiling's configuration. The sequence counter is a `Nat`: a `u64` holds the same for any run of
fewer than `2 ^ 64 - 1` puts.
-/

namespace Oxo.Edge.FramePool

open Oxo.Foundation

/-- Worker key and connection ID. -/
structure ConnectionMeta where
  key : UInt64
  id : Int32
deriving DecidableEq

/-- A pooled connection. `watcher` names the pair of channels its put returned. -/
structure Entry (S : Type) where
  conn : S
  watcher : Nat
  id : Int32

structure Inner (S : Type) where
  nextSeq : Nat
  byKey : Std.HashMap UInt64 (Std.TreeMap Nat (Entry S))
  byId : Std.HashMap Int32 Nat
  order : Std.TreeMap Nat (UInt64 × Int32)
  highWater : Nat

structure ConnectionPool (S : Type) where
  inner : Inner S
  size : Nat

variable {S : Type}

def ConnectionPool.new (size : Nat) : ConnectionPool S where
  inner := ⟨1, ∅, ∅, ∅, 0⟩
  size := max size 1

/-- `BTreeMap::pop_first`. -/
def popFirst {V : Type} (map : Std.TreeMap Nat V) : Option ((Nat × V) × Std.TreeMap Nat V) :=
  match map.minKey? with
  | none => none
  | some first => map[first]?.map fun value => ((first, value), map.erase first)

/-- `get_mut(key).and_then(|node| node.remove(&seq))`. -/
def removeFromNode (byKey : Std.HashMap UInt64 (Std.TreeMap Nat (Entry S))) (key : UInt64)
    (seq : Nat) : Option (Entry S) × Std.HashMap UInt64 (Std.TreeMap Nat (Entry S)) :=
  match byKey[key]? with
  | none => (none, byKey)
  | some node => (node[seq]?, byKey.insert key (node.erase seq))

def dropEmptyNode (byKey : Std.HashMap UInt64 (Std.TreeMap Nat (Entry S))) (key : UInt64) :
    Std.HashMap UInt64 (Std.TreeMap Nat (Entry S)) :=
  match byKey[key]? with
  | none => byKey
  | some node => if node.isEmpty then byKey.erase key else byKey

def Inner.evictOldest (inner : Inner S) : Option (Entry S) × Inner S :=
  match popFirst inner.order with
  | none => (none, inner)
  | some ((seq, (key, id)), order) =>
      let removed := removeFromNode inner.byKey key seq
      (removed.1, { inner with
        order
        byId := inner.byId.erase id
        byKey := dropEmptyNode removed.2 key })

def ConnectionPool.get (pool : ConnectionPool S) (key : UInt64) :
    ConnectionPool S × Observation S :=
  match pool.inner.byKey[key]? with
  | none => (pool, {})
  | some node =>
      match popFirst node with
      | none => (pool, {})
      | some ((seq, entry), rest) =>
          ({ pool with inner := { pool.inner with
              byKey := dropEmptyNode (pool.inner.byKey.insert key rest) key
              order := pool.inner.order.erase seq
              byId := pool.inner.byId.erase entry.id } },
            ⟨none, some entry.conn, [(entry.watcher, .pickedUp)]⟩)

/-- The insertion of a put, before the ceiling is enforced. -/
def Inner.insert (inner : Inner S) (conn : ConnectionMeta) (value : S) : Inner S :=
  let seq := inner.nextSeq
  let order := inner.order.insert seq (conn.key, conn.id)
  { nextSeq := seq + 1
    order
    byId := inner.byId.insert conn.id seq
    byKey := inner.byKey.insert conn.key
      ((inner.byKey[conn.key]?.getD ∅).insert seq ⟨value, seq, conn.id⟩)
    highWater := max inner.highWater order.size }

def ConnectionPool.put (pool : ConnectionPool S) (conn : ConnectionMeta) (value : S) :
    ConnectionPool S × Observation S :=
  let inserted := pool.inner.insert conn value
  let drawn := some pool.inner.nextSeq
  if inserted.order.size > pool.size then
    let evicted := inserted.evictOldest
    ({ pool with inner := evicted.2 },
      ⟨drawn, none, (evicted.1.map fun victim => (victim.watcher, Outcome.evicted)).toList⟩)
  else ({ pool with inner := inserted }, ⟨drawn, none, []⟩)

def ConnectionPool.popClosed (pool : ConnectionPool S) (conn : ConnectionMeta) :
    ConnectionPool S × Observation S :=
  let inner := pool.inner
  let removed := match inner.byId[conn.id]? with
    | none => (none, inner)
    | some seq =>
        let fromNode := removeFromNode inner.byKey conn.key seq
        (fromNode.1, { inner with order := inner.order.erase seq, byKey := fromNode.2 })
  ({ pool with inner := { removed.2 with
      byId := inner.byId.erase conn.id
      byKey := dropEmptyNode removed.2.byKey conn.key } },
    ⟨none, none, (removed.1.map fun entry => (entry.watcher, Outcome.dropped)).toList⟩)

abbrev PoolOp (S : Type) := QueueOp UInt64 Int32 S

def ConnectionPool.step (pool : ConnectionPool S) : PoolOp S →
    ConnectionPool S × Observation S
  | .put key id conn => pool.put ⟨key, id⟩ conn
  | .get key => pool.get key
  | .popClosed key id => pool.popClosed ⟨key, id⟩

def ConnectionPool.run (pool : ConnectionPool S) :
    List (PoolOp S) → ConnectionPool S × List (Observation S)
  | [] => (pool, [])
  | op :: rest =>
      let first := pool.step op
      let later := run first.1 rest
      (later.1, first.2 :: later.2)

/-! ## Index lookups -/

/-- The entry a key's node holds at a sequence number. -/
def slot (byKey : Std.HashMap UInt64 (Std.TreeMap Nat (Entry S))) (key : UInt64) (seq : Nat) :
    Option (Entry S) :=
  byKey[key]?.bind fun node => node[seq]?

/-- No key is left with an empty node. -/
def NodesFilled (byKey : Std.HashMap UInt64 (Std.TreeMap Nat (Entry S))) : Prop :=
  ∀ (key : UInt64) (node : Std.TreeMap Nat (Entry S)), byKey[key]? = some node →
    node.isEmpty = false

theorem slot_dropEmptyNode (byKey : Std.HashMap UInt64 (Std.TreeMap Nat (Entry S)))
    (key other : UInt64) (seq : Nat) :
    slot (dropEmptyNode byKey key) other seq = slot byKey other seq := by
  unfold dropEmptyNode
  split
  · rfl
  · rename_i node found
    split_ifs with isEmpty
    · unfold slot
      rw [Std.HashMap.getElem?_erase]
      split_ifs with same
      · rw [beq_iff_eq] at same
        subst same
        rw [found, Option.bind_none, Option.bind_some]
        have absent : seq ∉ node := Std.TreeMap.isEmpty_iff_forall_not_mem.mp isEmpty seq
        exact (Std.TreeMap.getElem?_eq_none absent).symm
      · rfl
    · rfl

/-- Dropping an emptied node keeps the others filled. -/
theorem nodesFilled_dropEmptyNode {byKey : Std.HashMap UInt64 (Std.TreeMap Nat (Entry S))}
    {key : UInt64} (others : ∀ other node, other ≠ key → byKey[other]? = some node →
      node.isEmpty = false) : NodesFilled (dropEmptyNode byKey key) := by
  intro other node found
  unfold dropEmptyNode at found
  split at found
  · rename_i absent
    apply others other node _ found
    rintro rfl
    rw [absent] at found
    cases found
  · rename_i current isCurrent
    split_ifs at found with isEmpty
    · rw [Std.HashMap.getElem?_erase] at found
      split_ifs at found with same
      exact others other node (fun equal => same (by simp [equal])) found
    · by_cases same : other = key
      · subst same
        rw [isCurrent] at found
        cases found
        simpa using isEmpty
      · exact others other node same found

theorem slot_insert (byKey : Std.HashMap UInt64 (Std.TreeMap Nat (Entry S)))
    (key other : UInt64) (node : Std.TreeMap Nat (Entry S)) (seq : Nat) :
    slot (byKey.insert key node) other seq =
      if key = other then node[seq]? else slot byKey other seq := by
  unfold slot
  rw [Std.HashMap.getElem?_insert]
  by_cases same : key = other
  · simp [same]
  · simp [same]

/-- Removing a sequence number and dropping the node it empties. -/
theorem slot_removeFromNode (byKey : Std.HashMap UInt64 (Std.TreeMap Nat (Entry S)))
    (key other : UInt64) (seq index : Nat) :
    slot (dropEmptyNode (removeFromNode byKey key seq).2 key) other index =
      if key = other ∧ seq = index then none else slot byKey other index := by
  rw [slot_dropEmptyNode]
  unfold removeFromNode
  split
  · rename_i absent
    by_cases same : key = other ∧ seq = index
    · rw [if_pos same, ← same.1, slot, absent, Option.bind_none]
    · rw [if_neg same]
  · rename_i node found
    simp only [slot_insert]
    by_cases sameKey : key = other
    · subst sameKey
      simp [slot, found, Std.TreeMap.getElem?_erase]
    · simp [sameKey]

theorem removeFromNode_fst (byKey : Std.HashMap UInt64 (Std.TreeMap Nat (Entry S)))
    (key : UInt64) (seq : Nat) : (removeFromNode byKey key seq).1 = slot byKey key seq := by
  unfold removeFromNode slot
  split
  · rename_i absent
    rw [absent, Option.bind_none]
  · rename_i node found
    rw [found, Option.bind_some]

theorem nodesFilled_removeFromNode {byKey : Std.HashMap UInt64 (Std.TreeMap Nat (Entry S))}
    (filled : NodesFilled byKey) (key : UInt64) (seq : Nat) :
    NodesFilled (dropEmptyNode (removeFromNode byKey key seq).2 key) := by
  apply nodesFilled_dropEmptyNode
  intro other node different found
  unfold removeFromNode at found
  split at found
  · exact filled other node found
  · rw [Std.HashMap.getElem?_insert, if_neg (by simpa using different.symm)] at found
    exact filled other node found

/-- The first entry of a map is the one below all others. -/
theorem popFirst_eq_some {V : Type} {map : Std.TreeMap Nat V} {first : Nat} {value : V}
    (present : map[first]? = some value) (least : ∀ other, map[other]?.isSome → first ≤ other) :
    popFirst map = some ((first, value), map.erase first) := by
  have isMin : map.minKey? = some first := by
    rw [Std.TreeMap.minKey?_eq_some_iff_mem_and_forall]
    constructor
    · rw [Std.TreeMap.mem_iff_isSome_getElem?, present]
      rfl
    · intro other member
      rw [Std.TreeMap.mem_iff_isSome_getElem?] at member
      exact Nat.isLE_compare.mpr (least other member)
  unfold popFirst
  rw [isMin]
  simp [present]

/-! ## The queue behind the indexes -/

abbrev IdleQueue (S : Type) := TicketQueue UInt64 Int32 S

/-- The indexes are those of a queue. -/
structure Indexes (inner : Inner S) (queue : IdleQueue S) : Prop where
  seq : inner.nextSeq = queue.nextTicket
  order : ∀ seq key id, inner.order[seq]? = some (key, id) ↔
    ∃ conn, (⟨seq, key, id, conn⟩ : Waiting UInt64 Int32 S) ∈ queue.waiting
  byId : ∀ id seq, inner.byId[id]? = some seq ↔
    ∃ key conn, (⟨seq, key, id, conn⟩ : Waiting UInt64 Int32 S) ∈ queue.waiting
  byKey : ∀ key seq entry, slot inner.byKey key seq = some entry ↔
    (⟨seq, key, entry.id, entry.conn⟩ : Waiting UInt64 Int32 S) ∈ queue.waiting ∧
      entry.watcher = seq
  filled : NodesFilled inner.byKey
  total : inner.order.size = queue.waiting.length

/-- The names of the waiting connections are distinct. -/
def NamesDistinct (queue : IdleQueue S) : Prop :=
  (queue.waiting.map Waiting.id).Nodup

variable {inner : Inner S} {queue : IdleQueue S}

/-- One entry leaves all indexes. -/
theorem Indexes.leave (indexes : Indexes inner queue) (ordered : queue.Ordered)
    (distinct : NamesDistinct queue) {entry : Waiting UInt64 Int32 S}
    {before after : List (Waiting UInt64 Int32 S)} (cut : queue.waiting = before ++ entry :: after)
    {byKey : Std.HashMap UInt64 (Std.TreeMap Nat (Entry S))}
    (slots : ∀ key seq, slot byKey key seq =
      if entry.key = key ∧ entry.ticket = seq then none else slot inner.byKey key seq)
    (filled : NodesFilled byKey) :
    Indexes { inner with
        order := inner.order.erase entry.ticket
        byId := inner.byId.erase entry.id
        byKey } ⟨queue.nextTicket, before ++ after⟩ := by
  have present : entry ∈ queue.waiting := by
    rw [cut]
    simp
  have sameTicket : ∀ other ∈ queue.waiting, other = entry ↔ other.ticket = entry.ticket :=
    fun other member => ⟨congrArg Waiting.ticket,
      fun same => ordered.ticket_injective member present same⟩
  have sameId : ∀ other ∈ queue.waiting, other = entry ↔ other.id = entry.id :=
    fun other member => ⟨congrArg Waiting.id,
      fun same => List.inj_on_of_nodup_map distinct member present same⟩
  have kept := TicketQueue.mem_of_cut ordered.nodup cut
  have inOrder : inner.order[entry.ticket]? = some (entry.key, entry.id) :=
    (indexes.order entry.ticket entry.key entry.id).mpr ⟨entry.item, present⟩
  constructor
  · exact indexes.seq
  · intro seq key id
    rw [Std.TreeMap.getElem?_erase]
    simp only [kept, Nat.compare_eq_eq]
    split_ifs with same
    · constructor
      · rintro ⟨⟩
      · rintro ⟨conn, member, different⟩
        exact absurd ((sameTicket _ member).mpr same.symm) different
    · rw [indexes.order]
      apply exists_congr
      intro conn
      refine ⟨fun member => ⟨member, ?_⟩, And.left⟩
      intro isEntry
      exact same (congrArg Waiting.ticket isEntry).symm
  · intro id seq
    rw [Std.HashMap.getElem?_erase]
    simp only [kept, beq_iff_eq]
    split_ifs with same
    · constructor
      · rintro ⟨⟩
      · rintro ⟨key, conn, member, different⟩
        exact absurd ((sameId _ member).mpr same.symm) different
    · rw [indexes.byId]
      apply exists_congr
      intro key
      apply exists_congr
      intro conn
      refine ⟨fun member => ⟨member, ?_⟩, And.left⟩
      intro isEntry
      exact same (congrArg Waiting.id isEntry).symm
  · intro key seq found
    rw [slots, kept]
    split_ifs with same
    · constructor
      · rintro ⟨⟩
      · rintro ⟨⟨member, different⟩, -⟩
        exact absurd ((sameTicket _ member).mpr same.2.symm) different
    · rw [indexes.byKey]
      refine ⟨fun holds => ⟨⟨holds.1, ?_⟩, holds.2⟩, fun holds => ⟨holds.1.1, holds.2⟩⟩
      intro isEntry
      exact same ⟨(congrArg Waiting.key isEntry).symm, (congrArg Waiting.ticket isEntry).symm⟩
  · exact filled
  · have inMap : entry.ticket ∈ inner.order := by
      rw [Std.TreeMap.mem_iff_isSome_getElem?, inOrder]
      rfl
    have lengths := congrArg List.length cut
    have total := indexes.total
    simp only [List.length_append, List.length_cons] at lengths ⊢
    rw [Std.TreeMap.size_erase, if_pos (Std.TreeMap.mem_iff_contains.mp inMap)]
    omega

/-- One entry joins all indexes. -/
theorem Indexes.join (indexes : Indexes inner queue) (ordered : queue.Ordered)
    {conn : ConnectionMeta} (fresh : ∀ entry ∈ queue.waiting, entry.id ≠ conn.id) (value : S) :
    Indexes (inner.insert conn value)
      ⟨queue.nextTicket + 1, queue.waiting ++ [⟨queue.nextTicket, conn.key, conn.id, value⟩]⟩ := by
  have unseen : ∀ entry ∈ queue.waiting, entry.ticket ≠ inner.nextSeq := by
    intro entry member
    have issued := ordered.issued entry member
    rw [indexes.seq]
    omega
  have seq := indexes.seq
  constructor
  · exact congrArg (· + 1) indexes.seq
  · intro index key id
    simp only [Inner.insert, Std.TreeMap.getElem?_insert, Nat.compare_eq_eq, List.mem_append,
      List.mem_singleton, Waiting.mk.injEq, ← seq]
    split_ifs with same
    · subst same
      constructor
      · intro isNew
        cases isNew
        exact ⟨value, Or.inr ⟨rfl, rfl, rfl, rfl⟩⟩
      · rintro ⟨found, waited | ⟨-, rfl, rfl, -⟩⟩
        · exact absurd rfl (unseen _ waited)
        · rfl
    · rw [indexes.order]
      apply exists_congr
      intro found
      refine ⟨Or.inl, ?_⟩
      rintro (waited | ⟨isNew, -⟩)
      · exact waited
      · exact absurd isNew.symm same
  · intro id index
    simp only [Inner.insert, Std.HashMap.getElem?_insert, beq_iff_eq, List.mem_append,
      List.mem_singleton, Waiting.mk.injEq, ← seq]
    split_ifs with same
    · subst same
      constructor
      · intro isNew
        cases isNew
        exact ⟨conn.key, value, Or.inr ⟨rfl, rfl, rfl, rfl⟩⟩
      · rintro ⟨key, found, waited | ⟨rfl, -⟩⟩
        · exact absurd rfl (fresh _ waited)
        · rfl
    · rw [indexes.byId]
      apply exists_congr
      intro key
      apply exists_congr
      intro found
      refine ⟨Or.inl, ?_⟩
      rintro (waited | ⟨-, -, isNew, -⟩)
      · exact waited
      · exact absurd isNew.symm same
  · intro key index entry
    have oldSlots : ∀ (index : Nat), (inner.byKey[conn.key]?.getD ∅)[index]? =
        slot inner.byKey conn.key index := by
      intro index
      unfold slot
      cases inner.byKey[conn.key]? <;> simp
    simp only [Inner.insert, slot_insert, Std.TreeMap.getElem?_insert, Nat.compare_eq_eq,
      oldSlots, List.mem_append, List.mem_singleton, Waiting.mk.injEq, ← seq]
    by_cases same : conn.key = key ∧ inner.nextSeq = index
    · obtain ⟨rfl, rfl⟩ := same
      rw [if_pos rfl, if_pos rfl]
      constructor
      · intro isNew
        cases isNew
        exact ⟨Or.inr ⟨rfl, rfl, rfl, rfl⟩, rfl⟩
      · rintro ⟨waited | ⟨-, -, sameId, sameConn⟩, watcher⟩
        · exact absurd rfl (unseen _ waited)
        · rw [← sameId, ← sameConn]
          nth_rewrite 1 [← watcher]
          rfl
    · have older : (if conn.key = key then
          if inner.nextSeq = index then some (⟨value, inner.nextSeq, conn.id⟩ : Entry S)
          else slot inner.byKey conn.key index
          else slot inner.byKey key index) = slot inner.byKey key index := by
        split_ifs with sameKey sameSeq
        · exact absurd ⟨sameKey, sameSeq⟩ same
        · rw [sameKey]
        · rfl
      rw [older, indexes.byKey]
      refine ⟨fun holds => ⟨Or.inl holds.1, holds.2⟩, ?_⟩
      rintro ⟨waited | ⟨isNew, sameKey, -⟩, watcher⟩
      · exact ⟨waited, watcher⟩
      · exact absurd ⟨sameKey.symm, isNew.symm⟩ same
  · intro key node found
    simp only [Inner.insert, Std.HashMap.getElem?_insert, beq_iff_eq] at found
    split_ifs at found with same
    · cases found
      exact Std.TreeMap.isEmpty_insert
    · exact indexes.filled key node found
  · have absent : inner.order.contains inner.nextSeq = false := by
      rw [← Bool.not_eq_true, ← Std.TreeMap.mem_iff_contains,
        Std.TreeMap.mem_iff_isSome_getElem?]
      intro present
      obtain ⟨⟨key, id⟩, found⟩ := Option.isSome_iff_exists.mp present
      obtain ⟨conn, waited⟩ := (indexes.order _ key id).mp found
      exact unseen _ waited rfl
    have total := indexes.total
    simp only [Inner.insert, List.length_append, List.length_singleton]
    rw [Std.TreeMap.size_insert, absent]
    simp [total]

/-! ## Each operation against the queue -/

/-- A put's name is not in use among the idle connections. -/
def NamesFresh (queue : IdleQueue S) : PoolOp S → Prop
  | .put _ id _ => ∀ entry ∈ queue.waiting, entry.id ≠ id
  | .get _ => True
  | .popClosed _ _ => True

/-- The callers' promises for one operation: besides fresh names, a close names the key the idle
connection of its name, if there is one, was put under. -/
def Promised (queue : IdleQueue S) : PoolOp S → Prop
  | .put _ id _ => ∀ entry ∈ queue.waiting, entry.id ≠ id
  | .get _ => True
  | .popClosed key id => ∀ entry ∈ queue.waiting, entry.id = id → entry.key = key

instance (queue : IdleQueue S) : (op : PoolOp S) → Decidable (NamesFresh queue op)
  | .put _ id _ => inferInstanceAs (Decidable (∀ entry ∈ queue.waiting, entry.id ≠ id))
  | .get _ => inferInstanceAs (Decidable True)
  | .popClosed _ _ => inferInstanceAs (Decidable True)

instance (queue : IdleQueue S) : (op : PoolOp S) → Decidable (Promised queue op)
  | .put _ id _ => inferInstanceAs (Decidable (∀ entry ∈ queue.waiting, entry.id ≠ id))
  | .get _ => inferInstanceAs (Decidable True)
  | .popClosed key id =>
      inferInstanceAs (Decidable (∀ entry ∈ queue.waiting, entry.id = id → entry.key = key))

/-- The pool stands for the queue. -/
structure StandsFor (ceiling : Nat) (pool : ConnectionPool S) (queue : IdleQueue S) : Prop where
  size : pool.size = ceiling
  indexes : Indexes pool.inner queue
  ordered : queue.Ordered
  distinct : NamesDistinct queue

variable {ceiling : Nat} {pool : ConnectionPool S}

theorem NamesDistinct.shrink {before after : List (Waiting UInt64 Int32 S)}
    {entry : Waiting UInt64 Int32 S} (distinct : NamesDistinct queue)
    (cut : queue.waiting = before ++ entry :: after) :
    NamesDistinct (⟨queue.nextTicket, before ++ after⟩ : IdleQueue S) := by
  have fewer : (before ++ after).Sublist queue.waiting := by
    rw [cut]
    exact (List.Sublist.refl before).append (List.sublist_cons_self entry after)
  exact List.Nodup.sublist (fewer.map Waiting.id) distinct

/-- The removal of an entry from its node, seen through the slots. -/
private theorem leave_node (stands : StandsFor ceiling pool queue)
    {entry : Waiting UInt64 Int32 S} {before after : List (Waiting UInt64 Int32 S)}
    (cut : queue.waiting = before ++ entry :: after) :
    Indexes { pool.inner with
        order := pool.inner.order.erase entry.ticket
        byId := pool.inner.byId.erase entry.id
        byKey := dropEmptyNode (removeFromNode pool.inner.byKey entry.key entry.ticket).2 entry.key }
      ⟨queue.nextTicket, before ++ after⟩ :=
  stands.indexes.leave stands.ordered stands.distinct cut
    (fun key seq => slot_removeFromNode pool.inner.byKey entry.key key entry.ticket seq)
    (nodesFilled_removeFromNode stands.indexes.filled entry.key entry.ticket)

private theorem slot_of_waiting (indexes : Indexes inner queue) {entry : Waiting UInt64 Int32 S}
    (present : entry ∈ queue.waiting) :
    slot inner.byKey entry.key entry.ticket = some ⟨entry.item, entry.ticket, entry.id⟩ :=
  (indexes.byKey _ _ _).mpr ⟨present, rfl⟩

/-- A key nobody waits under has no node. -/
private theorem node_none (indexes : Indexes inner queue) {key : UInt64}
    (absent : ∀ entry ∈ queue.waiting, entry.key ≠ key) : inner.byKey[key]? = none := by
  cases found : inner.byKey[key]? with
  | none => rfl
  | some node =>
      have filled := indexes.filled key node found
      rw [← Bool.not_eq_true, Std.TreeMap.isEmpty_iff_forall_not_mem] at filled
      push Not at filled
      obtain ⟨seq, member⟩ := filled
      rw [Std.TreeMap.mem_iff_isSome_getElem?] at member
      obtain ⟨entry, isEntry⟩ := Option.isSome_iff_exists.mp member
      have inSlot : slot inner.byKey key seq = some entry := by
        rw [slot, found, Option.bind_some, isEntry]
      exact absurd rfl (absent _ ((indexes.byKey _ _ _).mp inSlot).1)

theorem get_unavailable (stands : StandsFor ceiling pool queue) {key : UInt64}
    (absent : ∀ entry ∈ queue.waiting, entry.key ≠ key) : pool.get key = (pool, {}) := by
  unfold ConnectionPool.get
  rw [node_none stands.indexes absent]

/-- The node of a key yields its oldest entry. -/
theorem get_picked (stands : StandsFor ceiling pool queue) {entry : Waiting UInt64 Int32 S}
    {before after : List (Waiting UInt64 Int32 S)} (cut : queue.waiting = before ++ entry :: after)
    (oldest : ∀ other ∈ before, other.key ≠ entry.key) :
    StandsFor ceiling (pool.get entry.key).1 ⟨queue.nextTicket, before ++ after⟩ ∧
      (pool.get entry.key).2 = ⟨none, some entry.item, [(entry.ticket, .pickedUp)]⟩ := by
  have present : entry ∈ queue.waiting := by
    rw [cut]
    simp
  have inSlot := slot_of_waiting stands.indexes present
  cases found : pool.inner.byKey[entry.key]? with
  | none =>
      rw [slot, found, Option.bind_none] at inSlot
      cases inSlot
  | some node =>
      have inNode : node[entry.ticket]? = some ⟨entry.item, entry.ticket, entry.id⟩ := by
        rwa [slot, found, Option.bind_some] at inSlot
      have least : ∀ seq, node[seq]?.isSome → entry.ticket ≤ seq := by
        intro seq isThere
        obtain ⟨other, isOther⟩ := Option.isSome_iff_exists.mp isThere
        have otherSlot : slot pool.inner.byKey entry.key seq = some other := by
          rw [slot, found, Option.bind_some, isOther]
        have waited := ((stands.indexes.byKey _ _ _).mp otherSlot).1
        have sorted := stands.ordered.sorted
        rw [cut, List.pairwise_append, List.pairwise_cons] at sorted
        rw [cut, List.mem_append, List.mem_cons] at waited
        rcases waited with earlier | same | later
        · exact (oldest _ earlier rfl).elim
        · exact Nat.le_of_eq (congrArg Waiting.ticket same).symm
        · exact Nat.le_of_lt (sorted.2.1.1 _ later)
      have unrolled : pool.get entry.key =
          ({ pool with inner := { pool.inner with
              byKey := dropEmptyNode (pool.inner.byKey.insert entry.key (node.erase entry.ticket))
                entry.key
              order := pool.inner.order.erase entry.ticket
              byId := pool.inner.byId.erase entry.id } },
            ⟨none, some entry.item, [(entry.ticket, .pickedUp)]⟩) := by
        unfold ConnectionPool.get
        rw [found]
        simp only [popFirst_eq_some inNode least]
      have left := leave_node stands cut
      simp only [removeFromNode, found] at left
      rw [unrolled]
      exact ⟨⟨stands.size, left, (TicketQueue.Steps.picked cut rfl oldest :
        TicketQueue.Steps ceiling queue _ _ _).ordered stands.ordered, stands.distinct.shrink cut⟩,
        rfl⟩

theorem popClosed_gone (stands : StandsFor ceiling pool queue) {conn : ConnectionMeta}
    (absent : ∀ entry ∈ queue.waiting, entry.id ≠ conn.id) :
    StandsFor ceiling (pool.popClosed conn).1 queue ∧ (pool.popClosed conn).2 = {} := by
  have unnamed : pool.inner.byId[conn.id]? = none := by
    cases found : pool.inner.byId[conn.id]? with
    | none => rfl
    | some seq =>
        obtain ⟨key, value, waited⟩ := (stands.indexes.byId _ _).mp found
        exact absurd rfl (absent _ waited)
  unfold ConnectionPool.popClosed
  simp only [unnamed]
  refine ⟨⟨stands.size, ⟨stands.indexes.seq, stands.indexes.order, ?_, ?_, ?_,
    stands.indexes.total⟩, stands.ordered, stands.distinct⟩, rfl⟩
  · intro id seq
    rw [← stands.indexes.byId, Std.HashMap.getElem?_erase]
    split_ifs with same
    · rw [beq_iff_eq] at same
      simp [← same, unnamed]
    · rfl
  · intro key seq entry
    rw [slot_dropEmptyNode, stands.indexes.byKey]
  · exact nodesFilled_dropEmptyNode fun key node _ => stands.indexes.filled key node

theorem popClosed_removed (stands : StandsFor ceiling pool queue)
    {entry : Waiting UInt64 Int32 S} {before after : List (Waiting UInt64 Int32 S)}
    (cut : queue.waiting = before ++ entry :: after) :
    StandsFor ceiling (pool.popClosed ⟨entry.key, entry.id⟩).1
        ⟨queue.nextTicket, before ++ after⟩ ∧
      (pool.popClosed ⟨entry.key, entry.id⟩).2 = ⟨none, none, [(entry.ticket, .dropped)]⟩ := by
  have present : entry ∈ queue.waiting := by
    rw [cut]
    simp
  have named : pool.inner.byId[entry.id]? = some entry.ticket :=
    (stands.indexes.byId _ _).mpr ⟨entry.key, entry.item, present⟩
  have left := leave_node stands cut
  have moved : TicketQueue.Steps ceiling queue (.popClosed entry.key entry.id) _ _ :=
    .removed cut rfl
  unfold ConnectionPool.popClosed
  simp only [named, removeFromNode_fst, slot_of_waiting stands.indexes present]
  exact ⟨⟨stands.size, left, moved.ordered stands.ordered, stands.distinct.shrink cut⟩, rfl⟩

theorem NamesDistinct.grow (distinct : NamesDistinct queue) {id : Int32}
    (fresh : ∀ entry ∈ queue.waiting, entry.id ≠ id) (key : UInt64) (conn : S) :
    NamesDistinct (⟨queue.nextTicket + 1,
      queue.waiting ++ [⟨queue.nextTicket, key, id, conn⟩]⟩ : IdleQueue S) := by
  unfold NamesDistinct
  rw [List.map_append, List.nodup_append]
  refine ⟨distinct, List.nodup_singleton _, ?_⟩
  intro name waited other isNew
  obtain ⟨entry, member, rfl⟩ := List.mem_map.mp waited
  rw [List.mem_singleton.mp isNew]
  exact fresh entry member

/-- The state of the pool between the insertion and the trim. -/
private theorem inserted_stands (stands : StandsFor ceiling pool queue) {conn : ConnectionMeta}
    (fresh : ∀ entry ∈ queue.waiting, entry.id ≠ conn.id) (value : S) :
    StandsFor ceiling { pool with inner := pool.inner.insert conn value }
      ⟨queue.nextTicket + 1,
        queue.waiting ++ [⟨queue.nextTicket, conn.key, conn.id, value⟩]⟩ := by
  have appended : TicketQueue.Steps (queue.waiting.length + 1) queue
      (.put conn.key conn.id value) _ _ :=
    .appended (Nat.lt_succ_self _)
  exact ⟨stands.size, stands.indexes.join stands.ordered fresh value,
    appended.ordered stands.ordered, stands.distinct.grow fresh conn.key value⟩

/-- The first entry of the order index is the head of the queue. -/
theorem evictOldest_head (stands : StandsFor ceiling pool queue) {oldest : Waiting UInt64 Int32 S}
    {rest : List (Waiting UInt64 Int32 S)} (cut : queue.waiting = oldest :: rest) :
    StandsFor ceiling { pool with inner := pool.inner.evictOldest.2 } ⟨queue.nextTicket, rest⟩ ∧
      pool.inner.evictOldest.1 = some ⟨oldest.item, oldest.ticket, oldest.id⟩ := by
  have present : oldest ∈ queue.waiting := by
    rw [cut]
    exact List.mem_cons_self
  have inOrder : pool.inner.order[oldest.ticket]? = some (oldest.key, oldest.id) :=
    (stands.indexes.order _ _ _).mpr ⟨oldest.item, present⟩
  have least : ∀ seq, pool.inner.order[seq]?.isSome → oldest.ticket ≤ seq := by
    intro seq isThere
    obtain ⟨⟨key, id⟩, found⟩ := Option.isSome_iff_exists.mp isThere
    obtain ⟨value, waited⟩ := (stands.indexes.order _ _ _).mp found
    have sorted := stands.ordered.sorted
    rw [cut, List.pairwise_cons] at sorted
    rw [cut, List.mem_cons] at waited
    rcases waited with same | later
    · exact Nat.le_of_eq (congrArg Waiting.ticket same).symm
    · exact Nat.le_of_lt (sorted.1 _ later)
  have cutFront : queue.waiting = [] ++ oldest :: rest := cut
  have left := leave_node stands cutFront
  have moved : TicketQueue.Steps ceiling queue (.popClosed oldest.key oldest.id) _ _ :=
    .removed cutFront rfl
  unfold Inner.evictOldest
  simp only [popFirst_eq_some inOrder least, removeFromNode_fst,
    slot_of_waiting stands.indexes present]
  exact ⟨⟨stands.size, left, moved.ordered stands.ordered, stands.distinct.shrink cutFront⟩,
    trivial⟩

theorem put_appended (stands : StandsFor ceiling pool queue) (conn : ConnectionMeta)
    (fresh : ∀ entry ∈ queue.waiting, entry.id ≠ conn.id) (value : S)
    (room : queue.waiting.length < ceiling) :
    StandsFor ceiling (pool.put conn value).1
        ⟨queue.nextTicket + 1, queue.waiting ++ [⟨queue.nextTicket, conn.key, conn.id, value⟩]⟩ ∧
      (pool.put conn value).2 = ⟨some queue.nextTicket, none, []⟩ := by
  have inserted := inserted_stands stands fresh value
  have total := inserted.indexes.total
  rw [List.length_append, List.length_singleton] at total
  have within : ¬ (pool.inner.insert conn value).order.size > pool.size := by
    rw [total, stands.size]
    omega
  unfold ConnectionPool.put
  rw [if_neg within, stands.indexes.seq]
  exact ⟨inserted, rfl⟩

theorem put_replaced (stands : StandsFor ceiling pool queue) (conn : ConnectionMeta)
    (fresh : ∀ entry ∈ queue.waiting, entry.id ≠ conn.id) (value : S)
    (full : ceiling ≤ queue.waiting.length) {oldest : Waiting UInt64 Int32 S}
    {rest : List (Waiting UInt64 Int32 S)}
    (cut : queue.waiting ++ [⟨queue.nextTicket, conn.key, conn.id, value⟩] = oldest :: rest) :
    StandsFor ceiling (pool.put conn value).1 ⟨queue.nextTicket + 1, rest⟩ ∧
      (pool.put conn value).2 =
        ⟨some queue.nextTicket, none, [(oldest.ticket, .evicted)]⟩ := by
  have inserted := inserted_stands stands fresh value
  have total := inserted.indexes.total
  rw [List.length_append, List.length_singleton] at total
  have beyond : (pool.inner.insert conn value).order.size > pool.size := by
    rw [total, stands.size]
    omega
  obtain ⟨left, victim⟩ := evictOldest_head inserted cut
  unfold ConnectionPool.put
  rw [if_pos beyond, stands.indexes.seq]
  refine ⟨left, ?_⟩
  simp only [victim]
  rfl

/-- One operation of the pool is the same operation of the queue. -/
theorem step_follows (stands : StandsFor ceiling pool queue) {op : PoolOp S}
    (promised : Promised queue op) :
    StandsFor ceiling (pool.step op).1 (queue.step ceiling op).1 ∧
      (pool.step op).2 = (queue.step ceiling op).2 := by
  have moved := TicketQueue.steps ceiling queue op
  generalize (queue.step ceiling op).1 = next, (queue.step ceiling op).2 = seen at moved ⊢
  cases moved with
  | appended room => exact put_appended stands ⟨_, _⟩ promised _ room
  | replaced full cut => exact put_replaced stands ⟨_, _⟩ promised _ full cut
  | unavailable absent =>
      simp only [ConnectionPool.step, get_unavailable stands absent]
      exact ⟨stands, trivial⟩
  | picked cut keyed oldest =>
      subst keyed
      exact get_picked stands cut oldest
  | gone absent => exact popClosed_gone stands absent
  | removed cut named =>
      subst named
      have present : _ ∈ queue.waiting := cut ▸ List.mem_append_right _ List.mem_cons_self
      rw [← promised _ present rfl]
      exact popClosed_removed stands cut

/-! ## Runs -/

/-- Every operation of a run meets a condition on it and on the connections idle before it. -/
def RunMeets (ceiling : Nat) (meets : IdleQueue S → PoolOp S → Prop) (queue : IdleQueue S) :
    List (PoolOp S) → Prop
  | [] => True
  | op :: rest => meets queue op ∧ RunMeets ceiling meets (queue.step ceiling op).1 rest

instance decidableRunMeets (ceiling : Nat) (meets : IdleQueue S → PoolOp S → Prop)
    [∀ queue op, Decidable (meets queue op)] (queue : IdleQueue S) :
    (ops : List (PoolOp S)) → Decidable (RunMeets ceiling meets queue ops)
  | [] => inferInstanceAs (Decidable True)
  | op :: rest =>
      have := decidableRunMeets ceiling meets (queue.step ceiling op).1 rest
      inferInstanceAs (Decidable (meets queue op ∧ _))

theorem stands_new (size : Nat) :
    StandsFor (max size 1) (ConnectionPool.new size : ConnectionPool S) TicketQueue.empty where
  size := rfl
  indexes :=
    { seq := rfl
      order := by simp [ConnectionPool.new, TicketQueue.empty]
      byId := by simp [ConnectionPool.new, TicketQueue.empty]
      byKey := by simp [ConnectionPool.new, TicketQueue.empty, slot]
      filled := by
        intro key node found
        simp [ConnectionPool.new] at found
      total := rfl }
  ordered := (TicketQueue.accounted_empty 0).ordered
  distinct := List.nodup_nil

theorem run_follows (stands : StandsFor ceiling pool queue) {ops : List (PoolOp S)}
    (promised : RunMeets ceiling Promised queue ops) :
    StandsFor ceiling (pool.run ops).1 (queue.run ceiling ops).1 ∧
      (pool.run ops).2 = (queue.run ceiling ops).2 := by
  induction ops generalizing pool queue with
  | nil => exact ⟨stands, rfl⟩
  | cons op rest inductionHypothesis =>
      obtain ⟨first, later⟩ := promised
      obtain ⟨next, sameFirst⟩ := step_follows stands first
      obtain ⟨final, sameLater⟩ := inductionHypothesis next later
      refine ⟨final, ?_⟩
      simp only [ConnectionPool.run, TicketQueue.run, sameFirst, sameLater]

/-- A put alone draws a sequence number. -/
private theorem nextSeq_step (pool : ConnectionPool S) (op : PoolOp S) :
    (pool.step op).1.inner.nextSeq = pool.inner.nextSeq + op.brings.length := by
  cases op with
  | put key id conn =>
      simp only [ConnectionPool.step, ConnectionPool.put]
      split
      · unfold Inner.evictOldest
        split <;> rfl
      · rfl
  | get key =>
      simp only [ConnectionPool.step, ConnectionPool.get]
      split
      · rfl
      · split <;> rfl
  | popClosed key id =>
      simp only [ConnectionPool.step, ConnectionPool.popClosed]
      split <;> rfl

/-- The sequence counter counts the puts, in every run. -/
theorem nextSeq_run (pool : ConnectionPool S) (ops : List (PoolOp S)) :
    (pool.run ops).1.inner.nextSeq =
      pool.inner.nextSeq + (ops.flatMap QueueOp.brings).length := by
  induction ops generalizing pool with
  | nil => rfl
  | cons op rest inductionHypothesis =>
      rw [ConnectionPool.run, inductionHypothesis, nextSeq_step, List.flatMap_cons,
        List.length_append, Nat.add_assoc]

/-- Below `2 ^ 64 - 1` puts it stays within a word. -/
theorem nextSeq_within_word (size : Nat) {ops : List (PoolOp S)}
    (short : (ops.flatMap QueueOp.brings).length < UInt64.size - 1) :
    ((ConnectionPool.new size).run ops).1.inner.nextSeq < UInt64.size := by
  have counted := nextSeq_run (ConnectionPool.new size) ops
  have first : (ConnectionPool.new size : ConnectionPool S).inner.nextSeq = 1 := rfl
  omega

/-- The per-key index, the name index and the order index hold the same entries. -/
def Inner.Agree (inner : Inner S) : Prop :=
  (∀ (seq : Nat) (key : UInt64) (id : Int32), inner.order[seq]? = some (key, id) ↔
    ∃ entry, slot inner.byKey key seq = some entry ∧ entry.id = id) ∧
  (∀ (seq : Nat) (id : Int32), inner.byId[id]? = some seq ↔
    ∃ key, inner.order[seq]? = some (key, id)) ∧
  NodesFilled inner.byKey

theorem Indexes.agree (indexes : Indexes inner queue) : inner.Agree := by
  refine ⟨?_, ?_, indexes.filled⟩
  · intro seq key id
    rw [indexes.order]
    constructor
    · rintro ⟨conn, waited⟩
      exact ⟨⟨conn, seq, id⟩, slot_of_waiting indexes waited, rfl⟩
    · rintro ⟨entry, inSlot, rfl⟩
      exact ⟨entry.conn, ((indexes.byKey _ _ _).mp inSlot).1⟩
  · intro seq id
    rw [indexes.byId]
    simp only [indexes.order]

/-- On every run in which each put takes a name that is not in use and each close names the key
its connection was put under, the pool shows what the queue shows; its indexes agree, at most
`max size 1` connections are idle, every put's watcher was told one outcome or its connection is
still idle, and a connection handed out is the one put under the watcher that is told so. -/
theorem pool_refines_queue (size : Nat) {ops : List (PoolOp S)}
    (promised : RunMeets (max size 1) Promised TicketQueue.empty ops) :
    let pool := (ConnectionPool.new size).run ops
    let queue := TicketQueue.run (max size 1) TicketQueue.empty ops
    let puts := ops.flatMap QueueOp.brings
    pool.2 = queue.2 ∧
      pool.1.inner.Agree ∧
      (∀ seq, pool.1.inner.order[seq]?.isSome ↔ seq ∈ queue.1.waiting.map Waiting.ticket) ∧
      pool.1.inner.order.size ≤ max size 1 ∧
      ((pool.2.flatMap Observation.outcomes).map Prod.fst ++
        queue.1.waiting.map Waiting.ticket).Perm (List.range' 1 puts.length) ∧
      ∀ seen ∈ pool.2, ∀ conn, seen.handed = some conn →
        ∃ watcher, seen.outcomes = [(watcher, .pickedUp)] ∧ puts[watcher - 1]? = some conn := by
  intro pool queue puts
  obtain ⟨stands, same⟩ := run_follows (stands_new size) promised
  have account := (TicketQueue.accounted_empty (max size 1)).run ops
  simp only [List.nil_append] at account
  refine ⟨same, stands.indexes.agree, ?_, ?_, ?_, ?_⟩
  · intro seq
    rw [Option.isSome_iff_exists, List.mem_map]
    constructor
    · rintro ⟨⟨key, id⟩, found⟩
      obtain ⟨conn, waited⟩ := (stands.indexes.order _ _ _).mp found
      exact ⟨_, waited, rfl⟩
    · rintro ⟨entry, waited, rfl⟩
      exact ⟨_, (stands.indexes.order _ _ _).mpr ⟨entry.item, waited⟩⟩
  · rw [stands.indexes.total]
    exact account.bounded
  · rw [same]
    exact account.tickets
  · rw [same]
    exact account.handed

/-- The second put passes a ceiling of one, and the close of its connection is reported twice. -/
def closedTwice : List (PoolOp String) :=
  [.put 1 5 "a", .put 2 6 "b", .popClosed 2 6, .popClosed 2 6]

theorem pool_refines_queue_closed_twice :
    RunMeets (max 1 1) Promised TicketQueue.empty closedTwice ∧
      ((ConnectionPool.new 1).run closedTwice).2 =
        (TicketQueue.run (max 1 1) TicketQueue.empty closedTwice).2 ∧
      ((ConnectionPool.new 1).run closedTwice).1.inner.Agree := by
  have promised : RunMeets (max 1 1) Promised TicketQueue.empty closedTwice := by decide
  have refined := pool_refines_queue 1 promised
  exact ⟨promised, refined.1, refined.2.1⟩

/-- A close that names another key than the connection's own reports nothing, and leaves the
connection in the per-key index alone. -/
theorem popClosed_foreign (stands : StandsFor ceiling pool queue)
    {entry : Waiting UInt64 Int32 S} (present : entry ∈ queue.waiting) {key : UInt64}
    (foreign : entry.key ≠ key) :
    (pool.popClosed ⟨key, entry.id⟩).2 = {} ∧
      ¬ (pool.popClosed ⟨key, entry.id⟩).1.inner.Agree := by
  have named : pool.inner.byId[entry.id]? = some entry.ticket :=
    (stands.indexes.byId _ _).mpr ⟨entry.key, entry.item, present⟩
  have elsewhere : slot pool.inner.byKey key entry.ticket = none := by
    cases found : slot pool.inner.byKey key entry.ticket with
    | none => rfl
    | some other =>
        have waited := ((stands.indexes.byKey _ _ _).mp found).1
        have same := stands.ordered.ticket_injective waited present rfl
        exact absurd (congrArg Waiting.key same).symm foreign
  unfold ConnectionPool.popClosed
  simp only [named, removeFromNode_fst, elsewhere]
  refine ⟨rfl, ?_⟩
  intro agree
  have kept : slot (dropEmptyNode (removeFromNode pool.inner.byKey key entry.ticket).2 key)
      entry.key entry.ticket = some ⟨entry.item, entry.ticket, entry.id⟩ := by
    rw [slot_removeFromNode, if_neg (fun same => foreign same.1.symm)]
    exact slot_of_waiting stands.indexes present
  have ordered := (agree.1 entry.ticket entry.key entry.id).mpr ⟨_, kept, rfl⟩
  rw [Std.TreeMap.getElem?_erase_self] at ordered
  cases ordered

/-- A name is used again under another key, and a late close arrives for its first use. -/
def reusedName : List (PoolOp String) :=
  [.put 1 5 "a", .get 1, .put 2 5 "b", .popClosed 1 5]

/-- The names are distinct among the idle connections throughout, yet the pool and the queue part
at the close, and the indexes of the pool with them. -/
theorem late_close_splits_indexes :
    RunMeets (max 8 1) NamesFresh TicketQueue.empty reusedName ∧
      ((ConnectionPool.new 8).run reusedName).2 ≠
        (TicketQueue.run (max 8 1) TicketQueue.empty reusedName).2 ∧
      ¬ ((ConnectionPool.new 8).run reusedName).1.inner.Agree := by
  have promised : RunMeets (max 8 1) Promised TicketQueue.empty (reusedName.take 3) := by decide
  have follows := run_follows (stands_new 8) promised
  have present : (⟨2, 2, 5, "b"⟩ : Waiting UInt64 Int32 String) ∈
      (TicketQueue.run (max 8 1) TicketQueue.empty (reusedName.take 3)).1.waiting := by
    decide
  obtain ⟨silent, split⟩ := popClosed_foreign follows.1 present
    (show (2 : UInt64) ≠ 1 by decide)
  refine ⟨by decide, ?_, split⟩
  intro same
  have last := congrArg (fun log : List (Observation String) => log[3]?) same
  have poolLast : ((ConnectionPool.new 8).run reusedName).2[3]? = some ⟨none, none, []⟩ :=
    congrArg some silent
  have queueLast : (TicketQueue.run (max 8 1) TicketQueue.empty reusedName).2[3]? =
      some ⟨none, none, [(2, .dropped)]⟩ := by
    decide
  simp only [poolLast, queueLast] at last
  revert last
  decide

end Oxo.Edge.FramePool
