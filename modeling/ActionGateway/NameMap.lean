import Std.Data.TreeMap

/-!
# Maps from names

Payloads, registries, error members and change reports are all finite maps from names to
something, and wherever one is shown its names stand in ascending order. A `NameMap` is such a map:
its entries in strictly ascending order of their names, so that two maps with the same look-ups are
the same map. Names are compared as texts, code point by code point, which is also the order of
their UTF-8 forms.
-/

namespace ActionGateway

/-- The entries stand in strictly ascending order of their names. -/
def Ascending {α : Type} (entries : List (String × α)) : Prop :=
  entries.Pairwise fun a b => a.1 < b.1

/-! ## Entry lists

The operations on the lists of entries, each with the proof that it keeps the order. -/

namespace Entries

variable {α : Type}

/-- The entry put in its place; an entry of the same name gives way to it. -/
def insert (name : String) (value : α) : List (String × α) → List (String × α)
  | [] => [(name, value)]
  | (other, old) :: rest =>
    if name < other then (name, value) :: (other, old) :: rest
    else if name = other then (name, value) :: rest
    else (other, old) :: insert name value rest

/-- The entries without those of a name. -/
def erase (name : String) (entries : List (String × α)) : List (String × α) :=
  entries.filter fun entry => entry.1 ≠ name

/-- The value of the first entry of a name. -/
def find? (name : String) : List (String × α) → Option α
  | [] => none
  | (other, value) :: rest => if other = name then some value else find? name rest

/-- An entry of the new list is the one put in or was there before. -/
theorem mem_insert {name : String} {value : α} {entries : List (String × α)} {e : String × α}
    (h : e ∈ insert name value entries) : e = (name, value) ∨ e ∈ entries := by
  induction entries with
  | nil => simp [insert] at h; exact .inl h
  | cons head rest ih =>
    obtain ⟨other, old⟩ := head
    simp only [insert] at h
    split at h
    · simpa using h
    · split at h
      · rcases List.mem_cons.mp h with h | h
        · exact .inl h
        · exact .inr (List.mem_cons_of_mem _ h)
      · rcases List.mem_cons.mp h with h | h
        · exact .inr (h ▸ List.mem_cons_self)
        · exact (ih h).imp id (List.mem_cons_of_mem _)

/-- A text that is neither below nor equal to another is above it. -/
theorem lt_of_not_lt_of_ne {a b : String} (h : ¬ a < b) (hne : a ≠ b) : b < a := by
  by_cases hba : b < a
  · exact hba
  · exact absurd (String.le_antisymm (String.not_lt.mp hba) (String.not_lt.mp h)) hne

/-- **Insertion keeps the order.** -/
theorem ascending_insert (name : String) (value : α) {entries : List (String × α)}
    (h : Ascending entries) : Ascending (insert name value entries) := by
  induction entries with
  | nil => simp [insert, Ascending]
  | cons head rest ih =>
    obtain ⟨other, old⟩ := head
    obtain ⟨hhead, hrest⟩ := List.pairwise_cons.mp h
    simp only [insert]
    split
    next hlt =>
      refine List.pairwise_cons.mpr ⟨fun e he => ?_, h⟩
      rcases List.mem_cons.mp he with rfl | he
      · exact hlt
      · exact String.lt_trans hlt (hhead e he)
    next hlt =>
      split
      next heq =>
        subst heq
        exact List.pairwise_cons.mpr ⟨hhead, hrest⟩
      next hne =>
        refine List.pairwise_cons.mpr ⟨fun e he => ?_, ih hrest⟩
        rcases mem_insert he with rfl | he
        · exact lt_of_not_lt_of_ne hlt hne
        · exact hhead e he

/-- Taking entries out keeps the order of the others. -/
theorem ascending_erase (name : String) {entries : List (String × α)} (h : Ascending entries) :
    Ascending (erase name entries) :=
  h.sublist List.filter_sublist

/-- The order is one of the names, so the values may be replaced at will. -/
theorem ascending_map {β : Type} (f : String → α → β) {entries : List (String × α)}
    (h : Ascending entries) : Ascending (entries.map fun e => (e.1, f e.1 e.2)) :=
  List.pairwise_map.mpr h

/-- The comparison by which trees are ordered is the order of the texts. -/
theorem compare_eq_lt_iff {a b : String} : compare a b = .lt ↔ a < b :=
  compareOfLessAndEq_eq_lt

/-- The last value of each name. A tree keeps the sorting of many pairs from costing the square of
their number. -/
def lastValues (pairs : List (String × α)) : Std.TreeMap String α :=
  pairs.foldl (fun values pair => values.insert pair.1 pair.2) ∅

/-- Pairs in any order, sorted by name; of pairs with one name the last counts. -/
def sort (pairs : List (String × α)) : List (String × α) :=
  (lastValues pairs).toList

/-- What comes out of the tree is ascending. -/
theorem ascending_sort (pairs : List (String × α)) : Ascending (sort pairs) :=
  (lastValues pairs).ordered_keys_toList.imp compare_eq_lt_iff.mp

/-- In an ascending list the entry put in its place leaves all those of other names. -/
theorem mem_insert_iff (name : String) (value : α) {entries : List (String × α)}
    (h : Ascending entries) {e : String × α} :
    e ∈ insert name value entries ↔ e = (name, value) ∨ e.1 ≠ name ∧ e ∈ entries := by
  induction entries with
  | nil => simp [insert]
  | cons head rest ih =>
    obtain ⟨other, old⟩ := head
    obtain ⟨hhead, hrest⟩ := List.pairwise_cons.mp h
    have above {bound : String} (hbound : bound < other ∨ bound = other) (he : e ∈ rest) :
        e.1 ≠ bound := by
      rintro rfl
      rcases hbound with hlt | heq
      · exact String.lt_irrefl _ (String.lt_trans hlt (hhead e he))
      · exact String.lt_irrefl _ (heq ▸ hhead e he)
    simp only [insert]
    split
    next hlt =>
      have hne : e = (other, old) → e.1 ≠ name := by
        rintro rfl rfl
        exact String.lt_irrefl _ hlt
      have := above (.inl hlt)
      simp only [List.mem_cons]
      grind
    next =>
      split
      next heq =>
        have := above (.inr heq)
        simp only [List.mem_cons]
        grind
      next hne =>
        simp only [List.mem_cons, ih hrest]
        grind

/-- Ascending lists with the same entries are equal: there is only one way to put them in order. -/
theorem eq_of_mem_iff {entries others : List (String × α)} (h : Ascending entries)
    (h' : Ascending others) (hmem : ∀ e, e ∈ entries ↔ e ∈ others) : entries = others := by
  have nodup {l : List (String × α)} (hl : Ascending l) : l.Nodup :=
    hl.imp fun {a b} hlt heq => by
      subst heq
      exact String.lt_irrefl _ hlt
  exact List.Perm.eq_of_pairwise
    (fun _ _ _ _ hlt hgt => absurd (String.lt_trans hlt hgt) (String.lt_irrefl _)) h h'
    ((List.perm_ext_iff_of_nodup (nodup h) (nodup h')).mpr hmem)

/-- No pairs give no entries. -/
theorem sort_nil : sort ([] : List (String × α)) = [] :=
  rfl

/-- **Sorting puts one pair after the other in its place.** With `sort_nil` this makes sorting a
fold of `insert`, and nothing needs to be known of trees beyond it. -/
theorem sort_concat (pairs : List (String × α)) (name : String) (value : α) :
    sort (pairs ++ [(name, value)]) = insert name value (sort pairs) := by
  have hsort := ascending_sort pairs
  refine eq_of_mem_iff (ascending_sort _) (ascending_insert name value hsort) fun e => ?_
  rw [mem_insert_iff name value hsort]
  obtain ⟨other, old⟩ := e
  simp only [sort, lastValues, List.foldl_append, List.foldl_cons, List.foldl_nil,
    Std.TreeMap.mem_toList_iff_getElem?_eq_some, Std.TreeMap.getElem?_insert,
    Std.LawfulEqCmp.compare_eq_iff_eq]
  by_cases heq : name = other
  · simp [heq, eq_comm]
  · simp [heq, Ne.symm heq]

end Entries

/-! ## Maps

A map carries the proof that its entries ascend, so that equality of maps is equality of their
entries, and no result on maps has to ask for the order. -/

/-- A finite map from names. -/
structure NameMap (α : Type) where
  /-- the entries, one for each name -/
  entries : List (String × α)
  ascending : Ascending entries

namespace NameMap

variable {α β : Type}

instance [DecidableEq α] : DecidableEq (NameMap α) := fun a b =>
  if h : a.entries = b.entries then .isTrue (by cases a; cases b; cases h; rfl)
  else .isFalse fun hab => h (hab ▸ rfl)

/-- The map without entries. -/
def empty : NameMap α :=
  ⟨[], List.Pairwise.nil⟩

instance : EmptyCollection (NameMap α) := ⟨empty⟩

instance : Inhabited (NameMap α) := ⟨empty⟩

/-- The value that a name stands for, if it stands for one. -/
def find? (m : NameMap α) (name : String) : Option α :=
  Entries.find? name m.entries

/-- Whether a name stands for something. -/
def contains (m : NameMap α) (name : String) : Bool :=
  (m.find? name).isSome

/-- The map with `name` standing for `value`, whatever it stood for before. -/
def insert (m : NameMap α) (name : String) (value : α) : NameMap α :=
  ⟨Entries.insert name value m.entries, Entries.ascending_insert name value m.ascending⟩

/-- The map in which `name` stands for nothing. -/
def erase (m : NameMap α) (name : String) : NameMap α :=
  ⟨Entries.erase name m.entries, Entries.ascending_erase name m.ascending⟩

/-- The map of a list of pairs, in which the last pair of a name counts. -/
def ofList (pairs : List (String × α)) : NameMap α :=
  ⟨Entries.sort pairs, Entries.ascending_sort pairs⟩

/-- The entries in ascending order of the names. -/
def toList (m : NameMap α) : List (String × α) :=
  m.entries

/-- The names in ascending order. -/
def names (m : NameMap α) : List String :=
  m.entries.map (·.1)

/-- How many names stand for something. -/
def size (m : NameMap α) : Nat :=
  m.entries.length

/-- Whether no name stands for anything. -/
def isEmpty (m : NameMap α) : Bool :=
  m.entries.isEmpty

/-- The map with every value replaced. -/
def map (f : α → β) (m : NameMap α) : NameMap β :=
  ⟨m.entries.map fun e => (e.1, f e.2), Entries.ascending_map (fun _ => f) m.ascending⟩

/-- Maps with equal entries are equal. -/
@[ext] theorem ext_entries {m n : NameMap α} (h : m.entries = n.entries) : m = n := by
  cases m; cases n; cases h; rfl

end NameMap

end ActionGateway
