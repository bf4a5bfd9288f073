import ActionGateway.Form.Params
import ActionGateway.Proofs.NameMap

/-!
# What form parameters fold into

The **values of a name** (`Params.valuesOf`) are those of its pairs, in their order. All that the
parameters are asked for comes down to them: the first value of a name, the different names, the
groups, and the payload (`Params.find?_toPayload`), in which a name stands exactly when one of the
pairs has it.

The groups are made in one pass, and an index from names to slots says where the values of a name
are collected. `Grouping.Holds` is the invariant of that pass: what the groups and the index hold
after some of the pairs. One pair preserves it (`Grouping.Holds.add`), and so do all of them.
-/

namespace ActionGateway

namespace Params

/-! ## Values

The values of a name are defined by a filter, without groups or an index, so that they can be
compared with what the pass makes of the pairs. -/

/-- The values of a name, in their order. -/
def valuesOf (params : Params) (name : String) : List String :=
  (params.filter fun pair => pair.1 = name).map (·.2)

@[simp] theorem valuesOf_nil (name : String) : valuesOf [] name = [] := rfl

/-- The first pair has the name, so its value is the first. -/
theorem valuesOf_cons_self (name value : String) (rest : Params) :
    valuesOf ((name, value) :: rest) name = value :: valuesOf rest name := by
  simp [valuesOf]

/-- A pair of another name adds nothing. -/
theorem valuesOf_cons_ne {name other : String} (h : other ≠ name) (value : String)
    (rest : Params) : valuesOf ((other, value) :: rest) name = valuesOf rest name := by
  simp [valuesOf, h]

/-- Values of more pairs come after those before. -/
theorem valuesOf_append (params others : Params) (name : String) :
    valuesOf (params ++ others) name = params.valuesOf name ++ valuesOf others name := by
  rw [valuesOf, List.filter_append, List.map_append, valuesOf, valuesOf]

/-- The values of a name of which all the pairs are. -/
theorem valuesOf_map (name other : String) (values : List String) :
    valuesOf (values.map fun value => (other, value)) name =
      if other = name then values else [] := by
  induction values with
  | nil => split <;> rfl
  | cons value rest ih =>
    by_cases h : other = name
    · subst h
      rw [if_pos rfl] at ih ⊢
      rw [List.map_cons, valuesOf_cons_self, ih]
    · rw [if_neg h] at ih ⊢
      rw [List.map_cons, valuesOf_cons_ne h, ih]

/-- A value of a name is one of a pair. -/
theorem mem_valuesOf_iff {params : Params} {name value : String} :
    value ∈ params.valuesOf name ↔ (name, value) ∈ params := by
  simp [valuesOf]

/-- The first value of a name is the first of its values. -/
theorem first?_eq_head? (params : Params) (name : String) :
    params.first? name = (params.valuesOf name).head? := by
  induction params with
  | nil => rfl
  | cons pair rest ih =>
    obtain ⟨other, value⟩ := pair
    by_cases h : other = name
    · subst h
      rw [valuesOf_cons_self, first?, Entries.find?_cons_self, List.head?_cons]
    · rw [valuesOf_cons_ne h, first?, Entries.find?_cons_ne h, ← ih, first?]

/-! ## Names

Names are compared with `List.eraseDups`, which keeps the first of each. Its equation for one more
name at the end is what a pass from the front needs. -/

/-- The name that all the pairs share. -/
theorem onlyName?_eq_some_iff {params : Params} {name : String} :
    params.onlyName? = some name ↔ params ≠ [] ∧ ∀ pair ∈ params, pair.1 = name := by
  cases params with
  | nil => simp [onlyName?]
  | cons pair rest =>
    obtain ⟨first, value⟩ := pair
    rw [onlyName?, Option.ite_none_right_eq_some, Option.some.injEq, List.all_eq_true]
    constructor
    · rintro ⟨hrest, rfl⟩
      refine ⟨List.cons_ne_nil _ _, List.forall_mem_cons.mpr ⟨rfl, fun pair hpair => ?_⟩⟩
      exact of_decide_eq_true (hrest pair hpair)
    · rintro ⟨-, hall⟩
      obtain ⟨rfl, hrest⟩ := List.forall_mem_cons.mp hall
      exact ⟨fun pair hpair => decide_eq_true (hrest pair hpair), rfl⟩

/-- The name of one more pair is a different one if none of the pairs before has it. -/
theorem eraseDups_concat (names : List String) (name : String) :
    (names ++ [name]).eraseDups =
      if name ∈ names then names.eraseDups else names.eraseDups ++ [name] := by
  rw [List.eraseDups_append]
  by_cases h : name ∈ names
  · rw [if_pos h, List.removeAll, List.filter_cons_of_neg (by simpa using h), List.filter_nil,
      List.eraseDups_nil, List.append_nil]
  · rw [if_neg h, List.removeAll, List.filter_cons_of_pos (by simpa using h), List.filter_nil,
      List.eraseDups_cons, List.filter_nil, List.eraseDups_nil]

end Params

/-! ## Groups

While the pass goes on, each group has its values in reverse, since a value is put before those that
are there. The invariant says so of each group, and of the index that it points to the group of its
name. -/

namespace Grouping

open Params (valuesOf)

/-- What a grouping holds: a group for each of the names, in their order, with its values among the
pairs; and for each of the names the slot of its group. -/
structure Holds (grouping : Grouping) (names : List String) (params : Params) : Prop where
  /-- the groups stand in the order of the names, with the values in reverse -/
  groups : grouping.groups.toList = names.map fun name => (name, (params.valuesOf name).reverse)
  /-- the index has a slot for a name exactly if the name stands there -/
  slots : ∀ (name : String) (slot : Nat),
    grouping.slots[name]? = some slot ↔ names[slot]? = some name

variable {grouping : Grouping} {names : List String} {params : Params} {name : String}

/-- There are as many groups as names. -/
theorem Holds.size_groups (h : grouping.Holds names params) :
    grouping.groups.size = names.length := by
  rw [← Array.length_toList, h.groups, List.length_map]

/-- A name has a slot if it is one of the names. -/
theorem Holds.isSome_slot_iff (h : grouping.Holds names params) :
    (grouping.slots[name]?).isSome = true ↔ name ∈ names := by
  rw [Option.isSome_iff_exists, List.mem_iff_getElem?]
  exact exists_congr fun slot => h.slots name slot

/-- The names are different, since each has one slot. -/
theorem Holds.nodup (h : grouping.Holds names params) : names.Nodup := by
  refine List.pairwise_iff_getElem.mpr fun i j hi hj hlt heq => ?_
  have hfirst := (h.slots _ i).mpr (List.getElem?_eq_getElem hi)
  have hsecond := (h.slots _ j).mpr (List.getElem?_eq_getElem hj)
  rw [heq, hsecond, Option.some.injEq] at hfirst
  exact Nat.ne_of_gt hlt hfirst

/-- Before the first pair there is nothing. -/
theorem holds_empty : Grouping.empty.Holds [] [] :=
  ⟨rfl, fun _ _ => by simp [Grouping.empty]⟩

/-- **Every name gets a slot**, and a name that is new gets it behind the others. -/
theorem Holds.slotFor (h : grouping.Holds names params) (hnew : name ∉ names →
    params.valuesOf name = []) :
    ∃ names', names' = (if name ∈ names then names else names ++ [name]) ∧
      names'[(grouping.slotFor name).1]? = some name ∧
      (grouping.slotFor name).2.Holds names' params := by
  refine ⟨_, rfl, ?_⟩
  rw [Grouping.slotFor]
  cases hslot : grouping.slots[name]? with
  | some slot =>
    have hmem : name ∈ names := h.isSome_slot_iff.mp (by rw [hslot]; rfl)
    rw [if_pos hmem]
    exact ⟨(h.slots name slot).mp hslot, h⟩
  | none =>
    have hmem : name ∉ names := fun hmem => by
      have hsome := h.isSome_slot_iff.mpr hmem
      rw [hslot] at hsome
      cases hsome
    rw [if_neg hmem, h.size_groups]
    refine ⟨List.getElem?_concat_length, ?_, fun other slot => ?_⟩
    · rw [Array.toList_push, h.groups, List.map_append, List.map_singleton, hnew hmem]
      rfl
    · rw [Std.HashMap.getElem?_insert]
      by_cases heq : name = other
      · subst heq
        rw [if_pos (beq_self_eq_true name), Option.some.injEq]
        constructor
        · rintro rfl
          exact List.getElem?_concat_length
        · intro hget
          refine Decidable.byContradiction fun hne => hmem ?_
          rcases Nat.lt_or_ge slot names.length with hlt | hge
          · rw [List.getElem?_append_left hlt] at hget
            exact List.mem_of_getElem? hget
          · rw [List.getElem?_eq_none (by simp; omega)] at hget
            cases hget
      · rw [if_neg (by simpa using heq), h.slots other slot]
        -- a slot of another name is one of those that there were
        rcases Nat.lt_or_ge slot names.length with hlt | hge
        · rw [List.getElem?_append_left hlt]
        · rw [List.getElem?_eq_none hge, List.getElem?_append_right hge,
            List.getElem?_singleton]
          split <;> simp [heq]

/-- The value of one more pair goes to the group in the slot of its name, and to no other. -/
theorem Holds.push {slot : Nat} (h : grouping.Holds names params)
    (hslot : names[slot]? = some name) (value : String) :
    Holds ⟨grouping.slots, grouping.groups.modify slot fun group => (group.1, value :: group.2)⟩
      names (params ++ [(name, value)]) := by
  refine ⟨List.ext_getElem? fun i => ?_, h.slots⟩
  rw [Array.toList_modify, h.groups, List.getElem?_modify, List.getElem?_map, List.getElem?_map]
  cases hi : names[i]? with
  | none => rfl
  | some other =>
    by_cases heq : slot = i
    · subst heq
      obtain rfl : name = other := Option.some.inj (hslot.symm.trans hi)
      simp [valuesOf]
    · have hne : name ≠ other := by
        rintro rfl
        have hsame := ((h.slots name slot).mpr hslot).symm.trans ((h.slots name i).mpr hi)
        exact heq (Option.some.inj hsame)
      simp [valuesOf, heq, hne]

/-- A name that is none of those of the pairs has no values. -/
theorem valuesOf_eq_nil_of_not_mem (h : name ∉ (params.map Prod.fst).eraseDups) :
    params.valuesOf name = [] := by
  rw [List.mem_eraseDups] at h
  refine List.eq_nil_iff_forall_not_mem.mpr fun value hvalue => h ?_
  exact List.mem_map_of_mem (Params.mem_valuesOf_iff.mp hvalue)

/-- **One pair** leaves a grouping of the pairs so far and of it. -/
theorem Holds.add (h : grouping.Holds (params.map Prod.fst).eraseDups params)
    (pair : String × String) :
    (grouping.add pair).Holds ((params ++ [pair]).map Prod.fst).eraseDups (params ++ [pair]) := by
  obtain ⟨name, value⟩ := pair
  obtain ⟨names, hnames, hslot, hholds⟩ := h.slotFor valuesOf_eq_nil_of_not_mem
  rw [List.map_append, List.map_singleton, Params.eraseDups_concat]
  simp only [List.mem_eraseDups] at hnames
  rw [← hnames]
  exact hholds.push hslot value

/-- **All pairs**, one after the other. -/
theorem Holds.foldl_add (h : grouping.Holds (params.map Prod.fst).eraseDups params)
    (rest : Params) :
    (rest.foldl Grouping.add grouping).Holds ((params ++ rest).map Prod.fst).eraseDups
      (params ++ rest) := by
  -- the pairs so far grow with each turn, and the invariant with them
  induction rest generalizing grouping params with
  | nil => rwa [List.append_nil]
  | cons pair rest ih =>
    rw [List.foldl_cons, List.append_cons]
    exact ih (h.add pair)

end Grouping

namespace Params

/-- The invariant after all pairs, with nothing before the first. -/
theorem holds_grouping (params : Params) :
    params.grouping.Holds (params.map Prod.fst).eraseDups params := by
  have hempty : Grouping.empty.Holds (([] : Params).map Prod.fst).eraseDups [] :=
    Grouping.holds_empty
  exact hempty.foldl_add params

/-- **Each name is grouped with its values**, the names in the order in which they first come. The
slots do not show any more. -/
theorem groups_eq (params : Params) :
    params.groups =
      (params.map Prod.fst).eraseDups.map fun name => (name, params.valuesOf name) := by
  rw [groups, (holds_grouping params).groups, List.map_map]
  simp [Function.comp_def]

/-- **The names are the different ones among those of the pairs**, in the order in which they first
come. -/
theorem names_eq (params : Params) : params.names = (params.map Prod.fst).eraseDups := by
  rw [names, groups_eq, List.map_map]
  exact List.map_id _

/-- The names are those of the pairs. -/
theorem mem_names_iff {name : String} {params : Params} :
    name ∈ params.names ↔ ∃ value, (name, value) ∈ params := by
  simp [names_eq]

/-- Each name is listed once. -/
theorem nodup_names (params : Params) : params.names.Nodup := by
  rw [names_eq]
  exact (holds_grouping params).nodup

/-! ## The payload

The groups are sorted by name into a payload. Their names are different, so none is lost, and what a
name stands for is made of its values: a text of one, and a list of more. -/

/-- The pairs of which the payload is made have different names. -/
theorem nodup_folded (params : Params) :
    ((params.groups.map fun group => (group.1, ofValues group.2)).map Prod.fst).Nodup := by
  have hnames := nodup_names params
  rw [names] at hnames
  simpa [Function.comp_def] using hnames

/-- **The payload has a field for each name, made of the values of the name.** This is all that the
rest of the project has to know of folding. -/
theorem find?_toPayload (params : Params) (name : String) :
    params.toPayload.find? name =
      if params.valuesOf name = [] then none else some (ofValues (params.valuesOf name)) := by
  have hmem (value : FieldValue) :
      params.toPayload.find? name = some value ↔
        name ∈ params.names ∧ ofValues (params.valuesOf name) = value := by
    rw [NameMap.find?, Entries.find?_eq_some_iff params.toPayload.ascending, toPayload,
      NameMap.ofList, Entries.mem_sort_iff (nodup_folded params), groups_eq, List.map_map,
      List.mem_map, names_eq]
    constructor
    · rintro ⟨other, hother, heq⟩
      obtain ⟨rfl, hvalue⟩ := Prod.mk.inj heq
      exact ⟨hother, hvalue⟩
    · rintro ⟨hname, rfl⟩
      exact ⟨name, hname, rfl⟩
  have hnames : name ∈ params.names ↔ params.valuesOf name ≠ [] := by
    rw [mem_names_iff, Ne, List.eq_nil_iff_forall_not_mem]
    simp [mem_valuesOf_iff]
  by_cases h : params.valuesOf name = []
  · rw [if_pos h, Option.eq_none_iff_forall_ne_some]
    intro value hfind
    exact hnames.mp ((hmem value).mp hfind).1 h
  · rw [if_neg h]
    exact (hmem _).mpr ⟨hnames.mpr h, rfl⟩

/-- The payload has a field exactly when the parameters have a first value for it. -/
theorem contains_toPayload (params : Params) (name : String) :
    params.toPayload.contains name = (params.first? name).isSome := by
  rw [NameMap.contains, find?_toPayload, first?_eq_head?]
  cases params.valuesOf name with
  | nil => rfl
  | cons value values => rfl

/-- The payload of a single pair. -/
theorem toPayload_singleton (name value : String) :
    toPayload [(name, value)] = NameMap.empty.insert name (.text value) := by
  refine NameMap.ext_find? fun other => ?_
  rw [find?_toPayload, NameMap.find?_insert, NameMap.find?_empty]
  by_cases h : name = other
  · subst h
    rw [valuesOf_cons_self, if_pos rfl]
    rfl
  · rw [valuesOf_cons_ne h, if_neg h]
    rfl

end Params

end ActionGateway
