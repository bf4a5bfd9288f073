import ActionGateway.NameMap

/-!
# Look-ups in name maps

A map from names is known by its **look-ups**: each operation is described by what can be found
after it, and two maps in which the same can be found are one map (`NameMap.ext_find?`). The list
lemmas come first and hold of any list of entries unless they ask for ascending names.

A map is a list of entries that is kept ascending by name, so there is one list for each map. The
proofs about lists go by induction on the entries and ask of the first one whether it has the name.
-/

namespace ActionGateway

instance {α : Type} (entries : List (String × α)) : Decidable (Ascending entries) :=
  inferInstanceAs (Decidable (entries.Pairwise _))

namespace Entries

variable {α β : Type}

/-! ## Entries

`find?` gives the value of the first entry of a name. In a list that is not ascending there may be
others of the same name after it. -/

@[simp] theorem find?_nil (name : String) : find? name ([] : List (String × α)) = none := rfl

theorem find?_cons_self (name : String) (value : α) (rest : List (String × α)) :
    find? name ((name, value) :: rest) = some value := by
  rw [find?, if_pos rfl]

theorem find?_cons_ne {name other : String} (h : other ≠ name) (value : α)
    (rest : List (String × α)) : find? name ((other, value) :: rest) = find? name rest := by
  rw [find?, if_neg h]

/-- An entry that is found stands in the list. -/
theorem mem_of_find?_eq_some {name : String} {value : α} {entries : List (String × α)}
    (h : find? name entries = some value) : (name, value) ∈ entries := by
  induction entries with
  | nil => cases h
  | cons head rest ih =>
    obtain ⟨other, old⟩ := head
    by_cases heq : other = name
    · subst heq
      rw [find?_cons_self] at h
      obtain rfl := Option.some.inj h
      exact List.mem_cons_self
    · rw [find?_cons_ne heq] at h
      exact List.mem_cons_of_mem _ (ih h)

/-- Nothing is found under a name exactly when no entry has it. -/
theorem find?_eq_none_iff {name : String} {entries : List (String × α)} :
    find? name entries = none ↔ ∀ value, (name, value) ∉ entries := by
  induction entries with
  | nil => simp
  | cons head rest ih =>
    obtain ⟨other, old⟩ := head
    by_cases heq : other = name
    · subst heq
      rw [find?_cons_self]
      simp only [reduceCtorEq, false_iff]
      exact fun h => h old List.mem_cons_self
    · rw [find?_cons_ne heq, ih]
      simp [Ne.symm heq]

/-- Something is found under a name exactly when an entry has it. -/
theorem isSome_find?_iff {name : String} {entries : List (String × α)} :
    (find? name entries).isSome = true ↔ ∃ value, (name, value) ∈ entries := by
  rw [← Option.ne_none_iff_isSome, Ne, find?_eq_none_iff]
  simp

/-- The first list is looked through before the second. -/
theorem find?_append (name : String) (front back : List (String × α)) :
    find? name (front ++ back) = (find? name front).or (find? name back) := by
  induction front with
  | nil => rfl
  | cons head rest ih =>
    obtain ⟨other, old⟩ := head
    by_cases heq : other = name
    · subst heq
      rw [List.cons_append, find?_cons_self, find?_cons_self, Option.some_or]
    · rw [List.cons_append, find?_cons_ne heq, find?_cons_ne heq, ih]

/-- What is found is the value of the first entry of the name. -/
theorem find?_eq_some_iff_append {name : String} {value : α} {entries : List (String × α)} :
    find? name entries = some value ↔
      ∃ front back, entries = front ++ (name, value) :: back ∧ ∀ e ∈ front, e.1 ≠ name := by
  constructor
  · intro h
    induction entries with
    | nil => cases h
    | cons head rest ih =>
      obtain ⟨other, old⟩ := head
      by_cases heq : other = name
      · subst heq
        rw [find?_cons_self] at h
        obtain rfl := Option.some.inj h
        exact ⟨[], rest, rfl, fun e he => nomatch he⟩
      · rw [find?_cons_ne heq] at h
        obtain ⟨front, back, rfl, hfront⟩ := ih h
        refine ⟨(other, old) :: front, back, rfl, fun e he => ?_⟩
        rcases List.mem_cons.mp he with rfl | he
        · exact heq
        · exact hfront e he
  · rintro ⟨front, back, rfl, hfront⟩
    have hnone : find? name front = none :=
      find?_eq_none_iff.mpr fun value hmem => hfront _ hmem rfl
    rw [find?_append, hnone, Option.none_or, find?_cons_self]

/-! ## Operations

For each operation on lists, what can be found after it, by whether the name asked for is the one
that is changed. None of these lemmas asks for an ascending list. -/

/-- **Insertion changes what is found under one name.** -/
theorem find?_insert (name other : String) (value : α) (entries : List (String × α)) :
    find? other (insert name value entries) =
      if name = other then some value else find? other entries := by
  induction entries with
  | nil => rfl
  | cons head rest ih =>
    obtain ⟨first, old⟩ := head
    simp only [insert]
    split
    · rfl
    · split
      next heq =>
        subst heq
        by_cases hother : name = other
        · rw [if_pos hother, find?, if_pos hother]
        · rw [if_neg hother, find?_cons_ne hother, find?_cons_ne hother]
      next hne =>
        by_cases hfirst : first = other
        · subst hfirst
          rw [find?_cons_self, find?_cons_self, if_neg hne]
        · rw [find?_cons_ne hfirst, find?_cons_ne hfirst, ih]

/-- So does removal. -/
theorem find?_erase (name other : String) (entries : List (String × α)) :
    find? other (erase name entries) = if name = other then none else find? other entries := by
  induction entries with
  | nil => simp [erase]
  | cons head rest ih =>
    obtain ⟨first, old⟩ := head
    by_cases heq : first = name
    · subst heq
      have herase : erase first ((first, old) :: rest) = erase first rest := by simp [erase]
      rw [herase, ih]
      by_cases hother : first = other
      · rw [if_pos hother, if_pos hother]
      · rw [if_neg hother, if_neg hother, find?_cons_ne hother]
    · have herase : erase name ((first, old) :: rest) = (first, old) :: erase name rest := by
        simp [erase, heq]
      rw [herase]
      by_cases hother : first = other
      · subst hother
        rw [find?_cons_self, find?_cons_self, if_neg (Ne.symm heq)]
      · rw [find?_cons_ne hother, find?_cons_ne hother, ih]

/-- What stands for a name in a list whose values were replaced. -/
theorem find?_map {β : Type} (f : α → β) (name : String) (entries : List (String × α)) :
    find? name (entries.map fun e => (e.1, f e.2)) = (find? name entries).map f := by
  induction entries with
  | nil => rfl
  | cons head rest ih =>
    obtain ⟨other, value⟩ := head
    by_cases h : other = name
    · subst h
      rw [List.map_cons, find?_cons_self, find?_cons_self, Option.map_some]
    · rw [List.map_cons, find?_cons_ne h, find?_cons_ne h, ih]

/-- Of pairs that are sorted the last one of a name is found. -/
theorem find?_sort (name : String) (pairs : List (String × α)) :
    find? name (sort pairs) = find? name pairs.reverse := by
  -- on the pairs in reverse, since sorting takes them one after the other
  obtain ⟨reversed, rfl⟩ : ∃ l : List (String × α), pairs = l.reverse :=
    ⟨pairs.reverse, (List.reverse_reverse pairs).symm⟩
  rw [List.reverse_reverse]
  induction reversed with
  | nil => rfl
  | cons head rest ih =>
    obtain ⟨last, value⟩ := head
    rw [List.reverse_cons, sort_concat, find?_insert, ih]
    rfl

/-! ## Ascending lists

Where names ascend each comes once, so an entry that stands in the list is the one that is found.
With it a list is known by its entries, and two ascending lists with the same ones are equal. -/

/-- In an ascending list every entry is found. -/
theorem find?_eq_some_iff {name : String} {value : α} {entries : List (String × α)}
    (h : Ascending entries) : find? name entries = some value ↔ (name, value) ∈ entries := by
  refine ⟨mem_of_find?_eq_some, fun hmem => ?_⟩
  induction entries with
  | nil => cases hmem
  | cons head rest ih =>
    obtain ⟨other, old⟩ := head
    obtain ⟨hhead, hrest⟩ := List.pairwise_cons.mp h
    rcases List.mem_cons.mp hmem with heq | hmem
    · obtain ⟨rfl, rfl⟩ := Prod.mk.inj heq
      exact find?_cons_self _ _ _
    · have hne : other ≠ name := fun heq =>
        String.lt_irrefl _ (heq ▸ hhead (name, value) hmem)
      rw [find?_cons_ne hne, ih hrest hmem]

/-- An ascending list holds each name once. -/
theorem nodup_names_of_ascending {entries : List (String × α)} (h : Ascending entries) :
    (entries.map Prod.fst).Nodup := by
  refine List.pairwise_map.mpr (h.imp fun hlt heq => ?_)
  rw [heq] at hlt
  exact String.lt_irrefl _ hlt

/-- An entry put in the place of another leaves their number as it is. -/
theorem length_insert_of_isSome {name : String} {value : α} {entries : List (String × α)}
    (h : Ascending entries) (hfind : (find? name entries).isSome = true) :
    (insert name value entries).length = entries.length := by
  induction entries with
  | nil => cases hfind
  | cons head rest ih =>
    obtain ⟨other, old⟩ := head
    obtain ⟨hhead, hrest⟩ := List.pairwise_cons.mp h
    simp only [insert]
    split
    next hlt =>
      obtain ⟨held, hmem⟩ := isSome_find?_iff.mp hfind
      rcases List.mem_cons.mp hmem with heq | hmem
      · obtain ⟨rfl, -⟩ := Prod.mk.inj heq
        exact absurd hlt (String.lt_irrefl _)
      · -- the entry of the name would stand after one that is above it
        exact absurd (String.lt_trans hlt (hhead _ hmem)) (String.lt_irrefl _)
    next hlt =>
      split
      next => rfl
      next hne =>
        rw [find?_cons_ne (Ne.symm hne)] at hfind
        rw [List.length_cons, List.length_cons, ih hrest hfind]

/-- Where each name comes once, every pair is found. -/
theorem find?_eq_some_of_nodup {name : String} {value : α} {pairs : List (String × α)}
    (h : (pairs.map Prod.fst).Nodup) (hmem : (name, value) ∈ pairs) :
    find? name pairs = some value := by
  induction pairs with
  | nil => cases hmem
  | cons head rest ih =>
    obtain ⟨other, old⟩ := head
    obtain ⟨hhead, hrest⟩ := List.nodup_cons.mp h
    rcases List.mem_cons.mp hmem with heq | hmem
    · obtain ⟨rfl, rfl⟩ := Prod.mk.inj heq
      exact find?_cons_self _ _ _
    · have hne : other ≠ name := by
        rintro rfl
        exact hhead (List.mem_map.mpr ⟨(other, value), hmem, rfl⟩)
      rw [find?_cons_ne hne, ih hrest hmem]

/-- There it makes no difference from which end they are looked through. -/
theorem find?_reverse_of_nodup {name : String} {value : α} {pairs : List (String × α)}
    (h : (pairs.map Prod.fst).Nodup) (hmem : (name, value) ∈ pairs) :
    find? name pairs.reverse = some value := by
  have hreverse : (pairs.reverse.map Prod.fst).Nodup := by
    rw [List.map_reverse]
    exact (List.reverse_perm _).nodup_iff.mpr h
  exact find?_eq_some_of_nodup hreverse (List.mem_reverse.mpr hmem)

/-! ## Sorting

Sorting inserts the pairs one after the other, so of pairs of one name the last one stays. If no
name comes twice, the same pairs are there before and after. -/

/-- Sorting adds no pair. -/
theorem mem_of_mem_sort {pairs : List (String × α)} {pair : String × α} (h : pair ∈ sort pairs) :
    pair ∈ pairs := by
  have hfind := (find?_eq_some_iff (ascending_sort pairs)).mpr h
  rw [find?_sort] at hfind
  exact List.mem_reverse.mp (mem_of_find?_eq_some hfind)

/-- A pair is not lost in sorting if no pair of its name comes after it. -/
theorem mem_sort_append {front back : List (String × α)} (h : (back.map Prod.fst).Nodup)
    {pair : String × α} (hmem : pair ∈ back) : pair ∈ sort (front ++ back) := by
  obtain ⟨name, value⟩ := pair
  rw [← find?_eq_some_iff (ascending_sort _), find?_sort, List.reverse_append, find?_append,
    find?_reverse_of_nodup h hmem, Option.some_or]

/-- Pairs of different names are sorted without loss. -/
theorem mem_sort_iff {pairs : List (String × α)} (h : (pairs.map Prod.fst).Nodup)
    (pair : String × α) : pair ∈ sort pairs ↔ pair ∈ pairs := by
  refine ⟨mem_of_mem_sort, fun hmem => ?_⟩
  rw [← List.nil_append pairs]
  exact mem_sort_append h hmem

/-- Entries that are in order stay as they are. -/
theorem sort_of_ascending {entries : List (String × α)} (h : Ascending entries) :
    sort entries = entries :=
  eq_of_mem_iff (ascending_sort entries) h (mem_sort_iff (nodup_names_of_ascending h))

/-- Values may be replaced before the pairs are sorted or after it. -/
theorem sort_map (f : α → β) (pairs : List (String × α)) :
    sort (pairs.map fun e => (e.1, f e.2)) = (sort pairs).map fun e => (e.1, f e.2) := by
  have hmap : Ascending ((sort pairs).map fun e => (e.1, f e.2)) :=
    ascending_map (fun _ => f) (ascending_sort pairs)
  refine eq_of_mem_iff (ascending_sort _) hmap fun e => ?_
  obtain ⟨name, value⟩ := e
  rw [← find?_eq_some_iff (ascending_sort _), ← find?_eq_some_iff hmap, find?_sort, find?_map,
    find?_sort, ← List.map_reverse, find?_map]

end Entries

namespace NameMap

variable {α β : Type}

/-! ## Maps

The lemmas about lists as lemmas about maps. The first ones are used by `simp`, so that a look-up in
a map that was built step by step is reduced to comparisons of names. -/

/-- Nothing is found in the empty map. -/
@[simp] theorem find?_empty (name : String) : (empty : NameMap α).find? name = none := rfl

@[simp] theorem find?_insert (m : NameMap α) (name other : String) (value : α) :
    (m.insert name value).find? other = if name = other then some value else m.find? other :=
  Entries.find?_insert name other value m.entries

@[simp] theorem find?_erase (m : NameMap α) (name other : String) :
    (m.erase name).find? other = if name = other then none else m.find? other :=
  Entries.find?_erase name other m.entries

/-- Of a list of pairs the last one of a name is found. -/
theorem find?_ofList (pairs : List (String × α)) (name : String) :
    (ofList pairs).find? name = Entries.find? name pairs.reverse :=
  Entries.find?_sort name pairs

/-- **Maps with the same look-ups are equal.** Results on maps are therefore proved by look-ups, and
the lists of entries stay out of them. -/
theorem ext_find? {m n : NameMap α} (h : ∀ name, m.find? name = n.find? name) : m = n := by
  refine ext_entries (Entries.eq_of_mem_iff m.ascending n.ascending fun e => ?_)
  obtain ⟨name, value⟩ := e
  rw [← Entries.find?_eq_some_iff m.ascending, ← Entries.find?_eq_some_iff n.ascending]
  exact iff_of_eq (congrArg (· = some value) (h name))

/-- A map is empty when it has no entry. -/
theorem isEmpty_iff {m : NameMap α} : m.isEmpty = true ↔ m = .empty := by
  refine ⟨fun h => ext_entries (List.isEmpty_iff.mp h), ?_⟩
  rintro rfl
  rfl

/-- A map into which something was put is not empty. -/
theorem isEmpty_insert (m : NameMap α) (name : String) (value : α) :
    (m.insert name value).isEmpty = false := by
  obtain ⟨entries, ascending⟩ := m
  cases entries with
  | nil => rfl
  | cons head rest =>
    obtain ⟨other, old⟩ := head
    simp only [isEmpty, insert, Entries.insert]
    split
    · rfl
    · split <;> rfl

/-- A map that is not empty and has no other name than one holds a single entry. -/
theorem exists_eq_insert_empty {m : NameMap α} {name : String} (h : m.isEmpty = false)
    (honly : ∀ other, other ≠ name → m.find? other = none) :
    ∃ value, m = NameMap.empty.insert name value := by
  rcases hfind : m.find? name with _ | value
  · have hempty : m = .empty := by
      refine ext_find? fun other => ?_
      by_cases hname : other = name
      · rw [hname, hfind, find?_empty]
      · rw [honly other hname, find?_empty]
    rw [isEmpty_iff.mpr hempty] at h
    cases h
  · refine ⟨value, ext_find? fun other => ?_⟩
    by_cases hname : name = other
    · rw [find?_insert, if_pos hname, ← hname, hfind]
    · rw [find?_insert, if_neg hname, honly other (Ne.symm hname), find?_empty]

/-- A value put in the place of another leaves the size as it is. -/
theorem size_insert_of_isSome {m : NameMap α} {name : String}
    (h : (m.find? name).isSome = true) (value : α) : (m.insert name value).size = m.size :=
  Entries.length_insert_of_isSome m.ascending h

/-- What stands for a name in a map whose values were replaced. -/
@[simp] theorem find?_map (f : α → β) (m : NameMap α) (name : String) :
    (m.map f).find? name = (m.find? name).map f :=
  Entries.find?_map f name m.entries

end NameMap

end ActionGateway
