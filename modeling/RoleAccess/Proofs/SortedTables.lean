import RoleAccess.Value.Canonical
set_option autoImplicit false

/-! # Sorted tables

A table that is built by writing has its keys in strictly increasing order, so it is told by
its look-ups alone (`Table.Sorted.ext`). The members of an object are sorted before they are
written out, which keeps the look-ups of any table; and for tables without repeated keys the
sorted members are told by the look-ups as well.
-/

namespace RoleAccess

namespace Table

variable {α β : Type}

/-- The keys are in strictly increasing order. -/
def Sorted (table : Table α) : Prop := table.Pairwise fun a b => a.1 < b.1

@[simp] theorem sorted_nil : Sorted ([] : Table α) := List.Pairwise.nil

theorem sorted_cons (entry : Text × α) (rest : Table α) :
    Sorted (entry :: rest) ↔ (∀ other ∈ rest, entry.1 < other.1) ∧ Sorted rest :=
  List.pairwise_cons

/-! ## Look-ups and entries -/

theorem mem_of_find? (table : Table α) (key : Text) (value : α)
    (found : table.find? key = some value) : (key, value) ∈ table := by
  induction table with
  | nil => cases found
  | cons entry rest ih =>
      obtain ⟨k, v⟩ := entry
      by_cases hk : k = key
      · rw [find?, if_pos hk] at found
        rw [hk, Option.some.inj found]
        exact List.mem_cons_self
      · rw [find?, if_neg hk] at found
        exact List.mem_cons_of_mem _ (ih found)

theorem find?_eq_none_iff (table : Table α) (key : Text) :
    table.find? key = none ↔ ∀ entry ∈ table, entry.1 ≠ key := by
  induction table with
  | nil => simp
  | cons entry rest ih =>
      obtain ⟨k, v⟩ := entry
      by_cases hk : k = key
      · simp [find?, hk]
      · simp [find?, hk, ih]

/-- There is a value under the keys and under nothing else. -/
theorem isSome_find?_iff (table : Table α) (key : Text) :
    (table.find? key).isSome ↔ key ∈ table.keys := by
  rw [← Option.ne_none_iff_isSome, ne_eq, find?_eq_none_iff]
  simp [keys]

/-- A look-up sees nothing but the entries of its key. -/
theorem find?_eq_head?_filter (table : Table α) (key : Text) :
    table.find? key = (table.filter (·.1 = key)).head?.map Prod.snd := by
  induction table with
  | nil => rfl
  | cons entry rest ih =>
      obtain ⟨k, v⟩ := entry
      by_cases hk : k = key
      · simp [find?, hk]
      · simpa [find?, hk] using ih

/-- If no key is repeated, each entry is found under its key. -/
theorem find?_of_mem (table : Table α) (distinct : table.keys.Nodup) (key : Text) (value : α)
    (mem : (key, value) ∈ table) : table.find? key = some value := by
  induction table with
  | nil => cases mem
  | cons entry rest ih =>
      obtain ⟨k, v⟩ := entry
      obtain ⟨fresh, distinct⟩ := List.nodup_cons.mp distinct
      obtain same | mem := List.mem_cons.mp mem
      · cases same
        rw [find?, if_pos rfl]
      · have hk : k ≠ key := by
          intro same
          have repeated : key ∈ keys rest := List.mem_map.mpr ⟨(key, value), mem, rfl⟩
          exact fresh (same ▸ repeated)
        rw [find?, if_neg hk, ih distinct mem]

theorem Sorted.distinct {table : Table α} (sorted : table.Sorted) : table.keys.Nodup := by
  refine List.Pairwise.map Prod.fst (fun a b before same => ?_) sorted
  rw [same] at before
  exact Text.lt_irrefl _ before

/-! ## Tables with the same look-ups -/

/-- Tables without repeated keys that agree on every look-up have the same entries. -/
theorem perm_of_find? (table other : Table α) (distinct : table.keys.Nodup)
    (distinct' : other.keys.Nodup) (same : ∀ key, table.find? key = other.find? key) :
    table.Perm other := by
  have nodup {entries : Table α} (keys : entries.keys.Nodup) : entries.Nodup :=
    List.Pairwise.of_map Prod.fst (fun _ _ hne h => hne (congrArg Prod.fst h)) keys
  refine (List.perm_ext_iff_of_nodup (nodup distinct) (nodup distinct')).mpr ?_
  rintro ⟨key, value⟩
  constructor
  · intro mem
    exact mem_of_find? _ _ _ (same key ▸ find?_of_mem _ distinct _ _ mem)
  · intro mem
    exact mem_of_find? _ _ _ (same key ▸ find?_of_mem _ distinct' _ _ mem)

/-- Sorted tables that agree on every look-up are the same. -/
theorem Sorted.ext {table other : Table α} (sorted : table.Sorted) (sorted' : other.Sorted)
    (same : ∀ key, table.find? key = other.find? key) : table = other := by
  have perm := perm_of_find? table other sorted.distinct sorted'.distinct same
  refine perm.eq_of_pairwise (fun a b _ _ before after => ?_) sorted sorted'
  exact absurd (Text.lt_trans before after) (Text.lt_irrefl _)

/-! ## Sorted tables are kept by writes -/

theorem mem_replace (table : Table α) (key : Text) (value : α) (entry : Text × α)
    (mem : entry ∈ table.replace key value) : entry = (key, value) ∨ entry ∈ table := by
  induction table with
  | nil => cases mem
  | cons first rest ih =>
      obtain ⟨k, v⟩ := first
      rw [replace] at mem
      split at mem
      · next hk =>
          obtain rfl | mem := List.mem_cons.mp mem
          · exact Or.inl (by rw [hk])
          · exact Or.inr (List.mem_cons_of_mem _ mem)
      · obtain rfl | mem := List.mem_cons.mp mem
        · exact Or.inr List.mem_cons_self
        · exact (ih mem).imp_right (List.mem_cons_of_mem _)

theorem mem_place (table : Table α) (key : Text) (value : α) (entry : Text × α)
    (mem : entry ∈ table.place key value) : entry = (key, value) ∨ entry ∈ table := by
  induction table with
  | nil => exact Or.inl (List.mem_singleton.mp mem)
  | cons first rest ih =>
      obtain ⟨k, v⟩ := first
      rw [place] at mem
      split at mem
      · exact List.mem_cons.mp mem
      · obtain rfl | mem := List.mem_cons.mp mem
        · exact Or.inr List.mem_cons_self
        · exact (ih mem).imp_right (List.mem_cons_of_mem _)

theorem Sorted.replace {table : Table α} (sorted : table.Sorted) (key : Text) (value : α) :
    (table.replace key value).Sorted := by
  have keys : (table.replace key value).keys = table.keys := by
    clear sorted
    induction table with
    | nil => rfl
    | cons entry rest ih =>
        rw [Table.replace]
        split
        · rfl
        · exact congrArg (entry.1 :: ·) ih
  have pairwise : (table.replace key value).keys.Pairwise (· < ·) :=
    keys ▸ List.pairwise_map.mpr sorted
  exact List.pairwise_map.mp pairwise

theorem Sorted.place {table : Table α} (sorted : table.Sorted) (key : Text) (value : α)
    (absent : table.find? key = none) : (table.place key value).Sorted := by
  induction table with
  | nil => exact List.pairwise_singleton _ _
  | cons entry rest ih =>
      obtain ⟨k, v⟩ := entry
      obtain ⟨first, sorted⟩ := (sorted_cons _ _).mp sorted
      obtain ⟨hne, others⟩ := List.forall_mem_cons.mp ((find?_eq_none_iff _ _).mp absent)
      rw [Table.place]
      split
      · next before =>
          refine (sorted_cons _ _).mpr ⟨fun other mem => ?_, (sorted_cons _ _).mpr ⟨first, sorted⟩⟩
          obtain rfl | mem := List.mem_cons.mp mem
          · exact before
          · exact Text.lt_trans before (first other mem)
      · next after =>
          -- the new key comes after the first one, and the others did so already
          have later : k < key := Text.lt_of_le_of_ne (Text.not_lt.mp after) hne
          refine (sorted_cons _ _).mpr ⟨fun other mem => ?_,
            ih sorted ((find?_eq_none_iff _ _).mpr others)⟩
          obtain rfl | mem := mem_place rest key value other mem
          · exact later
          · exact first other mem

theorem Sorted.upsert {table : Table α} (sorted : table.Sorted) (key : Text)
    (f : Option α → α) : (table.upsert key f).Sorted := by
  unfold Table.upsert
  split
  · exact sorted.replace key _
  · next absent => exact sorted.place key _ absent

theorem mem_upsert (table : Table α) (key : Text) (f : Option α → α) (entry : Text × α)
    (mem : entry ∈ table.upsert key f) :
    entry = (key, f (table.find? key)) ∨ entry ∈ table := by
  unfold upsert at mem
  split at mem
  · next found => exact found ▸ mem_replace table key _ entry mem
  · next absent => exact absent ▸ mem_place table key _ entry mem

end Table

namespace Canonical

/-! ## Sorted members -/

section Members

variable {α β : Type} (members : List (Text × α))

theorem le_trans_name (a b c : Text × α) (first : decide (a.1 ≤ b.1) = true)
    (second : decide (b.1 ≤ c.1) = true) : decide (a.1 ≤ c.1) = true :=
  decide_eq_true (Text.le_trans (of_decide_eq_true first) (of_decide_eq_true second))

theorem le_total_name (a b : Text × α) : (decide (a.1 ≤ b.1) || decide (b.1 ≤ a.1)) = true := by
  rw [Bool.or_eq_true]
  exact (Text.le_total a.1 b.1).imp decide_eq_true decide_eq_true

theorem sortMembers_perm : (sortMembers members).Perm members := List.mergeSort_perm _ _

theorem pairwise_sortMembers : (sortMembers members).Pairwise fun a b => a.1 ≤ b.1 :=
  (List.pairwise_mergeSort le_trans_name le_total_name members).imp of_decide_eq_true

theorem mapValues_sortMembers (f : α → β) :
    Table.mapValues f (sortMembers members) = sortMembers (Table.mapValues f members) :=
  List.map_mergeSort fun _ _ _ _ => rfl

theorem sortMembers_sortMembers : sortMembers (sortMembers members) = sortMembers members :=
  List.mergeSort_of_pairwise
    ((pairwise_sortMembers members).imp fun before => decide_eq_true before)

/-- Sorting keeps the order of the members of one name. -/
theorem filter_sortMembers (name : Text) :
    (sortMembers members).filter (·.1 = name) = members.filter (·.1 = name) := by
  have alike : (members.filter (·.1 = name)).Pairwise fun a b => decide (a.1 ≤ b.1) = true := by
    refine List.pairwise_of_forall_mem_list fun a memA b memB => ?_
    have named (c : Text × α) (mem : c ∈ members.filter (·.1 = name)) : c.1 = name :=
      of_decide_eq_true (List.mem_filter.mp mem).2
    rw [named a memA, named b memB]
    exact decide_eq_true (Text.le_refl name)
  have kept : (members.filter (·.1 = name)).Sublist (sortMembers members) :=
    List.sublist_mergeSort le_trans_name le_total_name alike List.filter_sublist
  have filtered := kept.filter (·.1 = name)
  rw [List.filter_filter] at filtered
  simp only [Bool.and_self] at filtered
  refine (filtered.eq_of_length ?_).symm
  exact ((sortMembers_perm members).filter _).length_eq.symm

/-- The first of several members of one name stays first. -/
theorem find?_sortMembers (name : Text) :
    Table.find? name (sortMembers members) = Table.find? name members := by
  rw [Table.find?_eq_head?_filter, Table.find?_eq_head?_filter, filter_sortMembers]

/-- Members without repeated names are sorted alike if they have the same look-ups. -/
theorem sortMembers_congr (members others : List (Text × α))
    (distinct : (Table.keys members).Nodup) (distinct' : (Table.keys others).Nodup)
    (same : ∀ name, Table.find? name members = Table.find? name others) :
    sortMembers members = sortMembers others := by
  have perm := Table.perm_of_find? members others distinct distinct' same
  refine List.Perm.eq_of_pairwise (fun a b memA memB before after => ?_)
    (pairwise_sortMembers members) (pairwise_sortMembers others)
    ((sortMembers_perm members).trans (perm.trans (sortMembers_perm others).symm))
  -- two members of one name are both found under it
  obtain ⟨name, value⟩ := a
  obtain ⟨name', value'⟩ := b
  obtain rfl : name = name' := Text.le_antisymm before after
  have found := Table.find?_of_mem members distinct name value
    ((sortMembers_perm members).mem_iff.mp memA)
  have found' := Table.find?_of_mem others distinct' name value'
    ((sortMembers_perm others).mem_iff.mp memB)
  rw [same, found'] at found
  rw [Option.some.inj found]

end Members

end Canonical

end RoleAccess
