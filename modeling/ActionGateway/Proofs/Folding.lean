import Mathlib.Algebra.BigOperators.Group.List.Lemmas
import Mathlib.Algebra.GroupWithZero.Nat
import ActionGateway.Proofs.Params

/-!
# Folding loses nothing but the order between names

Parameters are read in four ways: for the first value of a name, for the names, for the one name
they share, and for the payload. The first and the third scan the pairs, the others go by the
groups, which are made in one pass with an index of slots (`Grouping.Holds` in
`ActionGateway.Proofs.Params`). All four see the same values of each name
(`Params.FoldContract`), and every pair is in the payload once. So the payload tells parameters
apart exactly when the values of some name do.

The order between pairs of different names is what a payload loses: it is a map, and its names are
sorted. Within one name the order stays, as the order of a list.
-/

namespace ActionGateway

/-- The texts that a field holds which was folded from pairs. -/
def FieldValue.texts : FieldValue → List String
  | .text value => [value]
  | .list items => items
  | _ => []

namespace Params

variable {params : Params}

/-- What a field is made of can be read from it, whether it is one text or a list. -/
theorem texts_ofValues (values : List String) : (ofValues values).texts = values := by
  match values with
  | [] => rfl
  | [value] => rfl
  | first :: second :: rest => rfl

/-- **The payload keeps the values of each name** in their order, whether it keeps one text or a
list. -/
theorem texts_find?_toPayload (params : Params) (name : String) :
    ((params.toPayload.find? name).map FieldValue.texts).getD [] = params.valuesOf name := by
  rw [find?_toPayload]
  split
  next h => exact h.symm
  next => exact texts_ofValues _

/-- Equal payloads come from equal values of each name, whatever stood between them. -/
theorem toPayload_eq_iff {others : Params} :
    params.toPayload = others.toPayload ↔ ∀ name, params.valuesOf name = others.valuesOf name := by
  constructor
  · intro h name
    rw [← texts_find?_toPayload, h, texts_find?_toPayload]
  · intro h
    refine NameMap.ext_find? fun name => ?_
    rw [find?_toPayload, find?_toPayload, h]

/-- The name that all the pairs share is the only one. -/
theorem onlyName?_eq_some_iff_names {name : String} :
    params.onlyName? = some name ↔ params.names = [name] := by
  rw [onlyName?_eq_some_iff]
  constructor
  · rintro ⟨hparams, hall⟩
    have hnames : ∀ other ∈ params.names, other = name := by
      intro other hother
      obtain ⟨value, hpair⟩ := mem_names_iff.mp hother
      exact hall _ hpair
    obtain ⟨⟨first, value⟩, hpair⟩ := List.exists_mem_of_ne_nil _ hparams
    have hfirst : first ∈ params.names := mem_names_iff.mpr ⟨value, hpair⟩
    refine List.perm_singleton.mp ((List.perm_ext_iff_of_nodup (nodup_names params)
      (List.nodup_singleton name)).mpr fun other => ?_)
    rw [List.mem_singleton]
    refine ⟨hnames other, ?_⟩
    rintro rfl
    exact hnames first hfirst ▸ hfirst
  · intro hnames
    refine ⟨?_, fun pair hpair => ?_⟩
    · rintro rfl
      cases hnames
    · have hmem : pair.1 ∈ params.names := mem_names_iff.mpr ⟨pair.2, hpair⟩
      rw [hnames] at hmem
      exact List.mem_singleton.mp hmem

/-! ## Counting

Nothing is dropped and nothing comes twice: the numbers of values of the names add up to the number
of pairs. `List.sum_map_count_dedup_eq_length` counts the pairs by name; the rest carries it over
from the names to the fields of the payload. -/

/-- A name has as many values as there are pairs of that name. -/
theorem length_valuesOf (params : Params) (name : String) :
    (params.valuesOf name).length = (params.map Prod.fst).count name := by
  rw [valuesOf, List.length_map, List.count_eq_length_filter, List.filter_map, List.length_map]
  rfl

/-- The values of all names together are as many as the pairs. -/
theorem sum_length_valuesOf (params : Params) :
    (params.names.map fun name => (params.valuesOf name).length).sum = params.length := by
  -- the names stand in the order in which they first come, and `dedup` keeps the last of each
  have hperm : params.names.Perm (params.map Prod.fst).dedup := by
    refine (List.perm_ext_iff_of_nodup (nodup_names params) (List.nodup_dedup _)).mpr fun name => ?_
    rw [names_eq, List.mem_eraseDups, List.mem_dedup]
  simp only [length_valuesOf]
  rw [(hperm.map _).sum_eq, List.sum_map_count_dedup_eq_length, List.length_map]

/-- The fields of the payload are those of the groups, in another order. -/
theorem perm_toList_toPayload (params : Params) :
    params.toPayload.toList.Perm (params.names.map fun name =>
      (name, ofValues (params.valuesOf name))) := by
  -- the groups hold the values of the names, in the order of the names
  have hgroups : params.groups.map (fun group => (group.1, ofValues group.2)) =
      params.names.map fun name => (name, ofValues (params.valuesOf name)) := by
    rw [groups_eq, names_eq, List.map_map]
    rfl
  have hnodup := nodup_folded params
  rw [toPayload, hgroups]
  rw [hgroups] at hnodup
  exact (List.perm_ext_iff_of_nodup (Entries.nodup_names_of_ascending
    (Entries.ascending_sort _)).of_map hnodup.of_map).mpr (Entries.mem_sort_iff hnodup)

/-- **Every pair is in the payload once**: there are as many texts in it as there were pairs. -/
theorem sum_length_texts (params : Params) :
    (params.toPayload.toList.map fun field => field.2.texts.length).sum = params.length := by
  rw [((perm_toList_toPayload params).map _).sum_eq, List.map_map]
  simp only [Function.comp_def, texts_ofValues]
  exact sum_length_valuesOf params

/-! ## The index of slots

The pass over the pairs keeps an array of groups and an index that has the slot of each name. An
index that was wrong would drop a value without notice, so that it is never out of bounds is a part
of the contract. -/

/-- **The slot of a name is in bounds**, whatever pairs came before and whether it is new. -/
theorem slotFor_lt (params : Params) (name : String) :
    (params.grouping.slotFor name).1 < (params.grouping.slotFor name).2.groups.size := by
  have hnew : name ∉ (params.map Prod.fst).eraseDups → params.valuesOf name = [] :=
    Grouping.valuesOf_eq_nil_of_not_mem
  obtain ⟨names, -, hslot, hholds⟩ := (holds_grouping params).slotFor hnew
  rw [hholds.size_groups]
  exact (List.getElem?_eq_some_iff.mp hslot).1

/-! ## The contract -/

/-- What the four ways to read parameters have to do with the pairs and with each other.
`Params.valuesOf` is the reference: it filters the pairs by name, and every field says of one of the
ways what it makes of these values. -/
structure FoldContract (params : Params) : Prop where
  /-- the names are the different ones, in the order in which they first come -/
  names_eq : params.names = (params.map Prod.fst).eraseDups
  /-- a name that no pair has is no field -/
  find?_of_absent : ∀ name, (∀ value, (name, value) ∉ params) →
    params.toPayload.find? name = none
  /-- a name that came once is a text -/
  find?_of_once : ∀ name value, params.valuesOf name = [value] →
    params.toPayload.find? name = some (.text value)
  /-- a name that came more often is the list of its values, in their order -/
  find?_of_repeated : ∀ name, 2 ≤ (params.valuesOf name).length →
    params.toPayload.find? name = some (.list (params.valuesOf name))
  /-- the fields hold together as many values as there are pairs -/
  count : (params.toPayload.toList.map fun field => field.2.texts.length).sum = params.length
  /-- the name that all the pairs share is the only name -/
  onlyName?_iff : ∀ name, params.onlyName? = some name ↔ params.names = [name]
  /-- the first value of a name is the first of its values -/
  first?_eq : ∀ name, params.first? name = (params.valuesOf name).head?
  /-- the payload forgets nothing but how pairs of different names stood to each other -/
  toPayload_eq_iff : ∀ others : Params, params.toPayload = others.toPayload ↔
    ∀ name, params.valuesOf name = others.valuesOf name
  /-- the slot at which the value of a pair is put is that of a group -/
  slot_lt : ∀ front pair back, params = front ++ pair :: back →
    ((grouping front).slotFor pair.1).1 < ((grouping front).slotFor pair.1).2.groups.size

/-- **Folding loses nothing but the order between different names.** This holds of every list of
pairs, with whatever names and values. -/
theorem foldContract (params : Params) : FoldContract params := by
  constructor
  case names_eq => exact params.names_eq
  case find?_of_absent =>
    intro name habsent
    have hnil : params.valuesOf name = [] :=
      List.eq_nil_iff_forall_not_mem.mpr fun value hvalue =>
        habsent value (mem_valuesOf_iff.mp hvalue)
    rw [find?_toPayload, if_pos hnil]
  case find?_of_once =>
    intro name value honce
    rw [find?_toPayload, honce, if_neg (List.cons_ne_nil _ _)]
    rfl
  case find?_of_repeated =>
    intro name hrepeated
    rw [find?_toPayload]
    match hvalues : params.valuesOf name, hrepeated with
    | first :: second :: rest, _ => rw [if_neg (List.cons_ne_nil _ _)]; rfl
  case count => exact sum_length_texts params
  case onlyName?_iff => exact fun name => onlyName?_eq_some_iff_names
  case first?_eq => exact params.first?_eq_head?
  case toPayload_eq_iff => exact fun others => toPayload_eq_iff
  case slot_lt => exact fun front pair back _ => slotFor_lt front pair.1

end Params

end ActionGateway
