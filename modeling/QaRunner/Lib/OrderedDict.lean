import QaRunner.Lib.KeyedTable
import Mathlib.Data.List.Infix

/-! Dictionaries in insertion order, with the moves that keep the least recently used key first. -/

/-- Pairs of distinct keys, the first inserted first. -/
abbrev OrderedDict (κ α : Type) := KeyedTable (Prod.fst : κ × α → κ)

namespace OrderedDict
variable {κ α : Type} [DecidableEq κ] {d : OrderedDict κ α} {j k : κ} {a b : α} {p : κ × α}

def empty : OrderedDict κ α := ⟨[], List.nodup_nil⟩

def lookup (d : OrderedDict κ α) (k : κ) : Option α := (d.get k).map Prod.snd

def size (d : OrderedDict κ α) : ℕ := d.rows.length

/-- A key that is there keeps its place. -/
def put (d : OrderedDict κ α) (k : κ) (a : α) : OrderedDict κ α :=
  d.upsert (k, a) (fun p => (p.1, a)) fun _ => rfl

def pop (d : OrderedDict κ α) (k : κ) : OrderedDict κ α where
  rows := d.rows.filter (·.1 ≠ k)
  primary := d.primary.sublist (List.filter_sublist.map _)

/-- The key becomes the last one. -/
def moveToEnd (d : OrderedDict κ α) (k : κ) : OrderedDict κ α where
  rows := d.rows.filter (·.1 ≠ k) ++ d.rows.filter (·.1 = k)
  primary := by
    have hperm := List.filter_append_perm (fun p : κ × α => decide (p.1 ≠ k)) d.rows
    simp only [decide_not, Bool.not_not] at hperm ⊢
    exact (hperm.map Prod.fst).nodup_iff.mpr d.primary

/-- The first pair is dropped. -/
def popFirst (d : OrderedDict κ α) : OrderedDict κ α where
  rows := d.rows.tail
  primary := d.primary.sublist ((List.tail_sublist _).map _)

/-- The dictionary of a list by the key of each value, where the last one of a key counts. -/
def ofList (key : α → κ) (as : List α) : OrderedDict κ α :=
  as.foldl (fun d a => d.put (key a) a) empty

@[simp] theorem lookup_empty : (empty : OrderedDict κ α).lookup k = none := rfl

theorem lookup_eq_some : d.lookup k = some a ↔ (k, a) ∈ d.rows := by
  unfold lookup
  rw [Option.map_eq_some_iff]
  constructor
  · rintro ⟨p, hp, rfl⟩
    rw [← KeyedTable.key_of_get hp]
    exact KeyedTable.mem_of_get hp
  · intro h
    exact ⟨(k, a), KeyedTable.get_of_mem h, rfl⟩

theorem lookup_eq_none : d.lookup k = none ↔ ∀ a, (k, a) ∉ d.rows := by
  rw [Option.eq_none_iff_forall_not_mem]
  exact forall_congr' fun a => not_congr lookup_eq_some

/-- Dictionaries with the same pairs answer alike. -/
theorem lookup_congr {e : OrderedDict κ α} (h : ∀ a, (k, a) ∈ d.rows ↔ (k, a) ∈ e.rows) :
    d.lookup k = e.lookup k := by
  apply Option.ext
  intro a
  rw [lookup_eq_some, lookup_eq_some, h]

@[simp] theorem lookup_put_self : (d.put k a).lookup k = some a := by
  have hget : (KeyedTable.upsert d (k, a) (fun p => (p.1, a)) fun _ => rfl).get k =
      some ((d.get k).elim (k, a) fun p => (p.1, a)) := KeyedTable.get_upsert_self _
  unfold lookup put
  rw [hget]
  cases d.get k <;> rfl

theorem lookup_put_of_ne (h : j ≠ k) : (d.put k a).lookup j = d.lookup j := by
  unfold lookup put
  rw [KeyedTable.get_upsert_of_ne _ h]

@[simp] theorem lookup_pop_self : (d.pop k).lookup k = none := by
  rw [lookup_eq_none]
  intro a hmem
  simpa using (List.mem_filter.mp hmem).2

theorem lookup_pop_of_ne (h : j ≠ k) : (d.pop k).lookup j = d.lookup j := by
  apply lookup_congr
  intro a
  rw [pop, List.mem_filter]
  simp [h]

@[simp] theorem lookup_moveToEnd : (d.moveToEnd k).lookup j = d.lookup j := by
  apply lookup_congr
  intro a
  rw [moveToEnd, List.mem_append, List.mem_filter, List.mem_filter]
  by_cases h : j = k <;> simp [h]

/-- Dropping the first pair forgets its key and no other. -/
theorem lookup_popFirst : d.popFirst.lookup k =
    if d.rows.head?.map Prod.fst = some k then none else d.lookup k := by
  cases hrows : d.rows with
  | nil =>
    apply lookup_congr
    simp [popFirst, hrows]
  | cons p ps =>
    have hnodup := d.primary
    rw [hrows, List.map_cons, List.nodup_cons] at hnodup
    simp only [List.head?_cons, Option.map_some, Option.some_inj]
    split
    · next hk =>
      subst hk
      rw [lookup_eq_none]
      intro a hmem
      have hrest : (p.1, a) ∈ ps := by simpa only [popFirst, hrows, List.tail_cons] using hmem
      exact hnodup.1 (List.mem_map.mpr ⟨_, hrest, rfl⟩)
    · next hk =>
      apply lookup_congr
      intro a
      have hne : (k, a) ≠ p := fun h => hk (congrArg Prod.fst h).symm
      simp only [popFirst, hrows, List.tail_cons, List.mem_cons, hne, false_or]

/-- A key has the last value that carries it. -/
theorem lookup_ofList {key : α → κ} {as : List α} :
    (ofList key as).lookup k = (as.filter (key · = k)).getLast? := by
  induction as using List.reverseRecOn with
  | nil => rfl
  | append_singleton as a ih =>
    have hput : ofList key (as ++ [a]) = (ofList key as).put (key a) a := by
      rw [ofList, List.foldl_append]
      rfl
    rw [hput, List.filter_append]
    by_cases h : key a = k
    · subst h
      simp
    · rw [lookup_put_of_ne (Ne.symm h), ih]
      simp [h]

theorem mem_rows_ofList {key : α → κ} {as : List α} :
    p ∈ (ofList key as).rows ↔ (as.filter (key · = p.1)).getLast? = some p.2 := by
  rw [← lookup_ofList, lookup_eq_some]

theorem key_of_mem_ofList {key : α → κ} {as : List α} (h : p ∈ (ofList key as).rows) :
    key p.2 = p.1 := by
  have hmem := List.mem_of_getLast? (mem_rows_ofList.mp h)
  simpa using (List.mem_filter.mp hmem).2

end OrderedDict
