import Mathlib

/-!
Contract: hash tables that count the members of a collection.

Owns: raising and lowering the count of one key, removal of an entry that would reach
zero, and the relation between such a table and the list of members it counts.

Does not own: a limit on the counts, or who the members are.
-/

namespace Oxo.Foundation.CountTable

variable {κ : Type} [BEq κ] [Hashable κ]

/-- One more member with this key. -/
def raise (table : Std.HashMap κ UInt64) (key : κ) : Std.HashMap κ UInt64 :=
  table.insert key (table.getD key 0 + 1)

/-- One member less with this key. The last one takes the entry along. -/
def lower (table : Std.HashMap κ UInt64) (key : κ) : Std.HashMap κ UInt64 :=
  match table[key]? with
  | some count => if 1 < count then table.insert key (count - 1) else table.erase key
  | none => table

/-- Every key with members is stored with their number, and no other key is stored. -/
def Counts (table : Std.HashMap κ UInt64) (members : List κ) : Prop :=
  ∀ key, table[key]?.map UInt64.toNat =
    if members.count key = 0 then none else some (members.count key)

variable [LawfulBEq κ] [LawfulHashable κ] {table : Std.HashMap κ UInt64} {members : List κ}

theorem raise_other {key other : κ} (different : other ≠ key) :
    (raise table key)[other]? = table[other]? := by
  have unequal : (key == other) = false := by simpa using different.symm
  simp [raise, Std.HashMap.getElem?_insert, unequal]

theorem lower_other {key other : κ} (different : other ≠ key) :
    (lower table key)[other]? = table[other]? := by
  have unequal : (key == other) = false := by simpa using different.symm
  unfold lower
  split
  · split
    · simp [Std.HashMap.getElem?_insert, unequal]
    · simp [Std.HashMap.getElem?_erase, unequal]
  · rfl

theorem counts_empty : Counts (∅ : Std.HashMap κ UInt64) [] := by
  intro key
  simp

theorem Counts.getD (counts : Counts table members) (key : κ) :
    (table.getD key 0).toNat = members.count key := by
  have stored := counts key
  rw [Std.HashMap.getD_eq_getD_getElem?]
  cases found : table[key]? with
  | none =>
      rw [found] at stored
      by_cases absent : members.count key = 0
      · simp [absent]
      · simp [absent] at stored
  | some count =>
      rw [found] at stored
      by_cases absent : members.count key = 0
      · simp [absent] at stored
      · simpa [absent] using stored

omit [LawfulBEq κ] [LawfulHashable κ] in
theorem Counts.stored (counts : Counts table members) {key : κ} {count : UInt64}
    (found : table[key]? = some count) :
    count.toNat = members.count key ∧ 0 < members.count key := by
  have stored := counts key
  rw [found] at stored
  by_cases absent : members.count key = 0
  · simp [absent] at stored
  · simp only [Option.map_some, absent, if_false, Option.some.injEq] at stored
    exact ⟨stored, Nat.pos_of_ne_zero absent⟩

theorem Counts.raise (counts : Counts table members) {key : κ}
    (room : members.count key + 1 < 2 ^ 64) : Counts (raise table key) (key :: members) := by
  intro other
  by_cases same : other = key
  · subst same
    have before := counts.getD other
    have after : (table.getD other 0 + 1).toNat = members.count other + 1 := by
      rw [UInt64.toNat_add, before]
      exact Nat.mod_eq_of_lt room
    simp [CountTable.raise, after]
  · rw [raise_other same, counts other, List.count_cons_of_ne (Ne.symm same)]

theorem Counts.lower (counts : Counts table members) {key : κ} (member : key ∈ members) :
    Counts (lower table key) (members.erase key) := by
  intro other
  by_cases same : other = key
  · subst same
    have positive : 0 < members.count other := List.count_pos_iff.mpr member
    have stored := counts other
    rw [if_neg (Nat.ne_of_gt positive)] at stored
    obtain ⟨count, found, exactly⟩ := Option.map_eq_some_iff.mp stored
    rw [List.count_erase_self]
    by_cases several : 1 < count
    · have more : (1 : UInt64).toNat < count.toNat := UInt64.lt_iff_toNat_lt.mp several
      rw [UInt64.toNat_one] at more
      have remaining : (count - 1).toNat = members.count other - 1 := by
        have positive : (1 : UInt64) ≤ count := UInt64.le_iff_toNat_le.mpr (Nat.le_of_lt more)
        rw [UInt64.toNat_sub_of_le _ _ positive, exactly]
        rfl
      have left : members.count other - 1 ≠ 0 := by omega
      simp [CountTable.lower, found, several, remaining, left]
    · have last : ¬ 1 < count.toNat := fun more => several (UInt64.lt_iff_toNat_lt.mpr more)
      have none_left : members.count other - 1 = 0 := by omega
      simp [CountTable.lower, found, several, none_left]
  · rw [lower_other same, counts other, List.count_erase_of_ne same]

/-- A table that stores no empty count has no more entries than there are members. -/
theorem Counts.size_le (counts : Counts table members) : table.size ≤ members.length := by
  have distinct : table.keys.Nodup := by
    have apart := Std.HashMap.distinct_keys (m := table)
    exact apart.imp fun different => by simpa using different
  have included : ∀ key ∈ table.keys, key ∈ members := by
    intro key stored
    rw [Std.HashMap.mem_keys, Std.HashMap.mem_iff_isSome_getElem?] at stored
    obtain ⟨count, found⟩ := Option.isSome_iff_exists.mp stored
    exact List.count_pos_iff.mp (counts.stored found).2
  rw [← Std.HashMap.length_keys]
  exact (distinct.subperm included).length_le

end Oxo.Foundation.CountTable
