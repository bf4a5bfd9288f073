import ActionGateway.Proofs.EnvelopeContract
import ActionGateway.Proofs.Utf8

/-!
# Reports of changes

While it runs an action reports what it changes, one entity at a time and possibly the same one more
than once. The answer shows the types in order, and for each type its identifiers in order. It is
shown here that this is all that it shows: which pairs were reported.

A report **has** a pair if the set of the type holds the identifier. What one more report adds is
said by `ChangedEntities.has_add_iff`, and what a sequence of reports adds by
`ChangedEntities.has_addAll_iff`. A report is **tidy** if no type is listed without an identifier.
Tidy reports that have the same pairs are the same (`ChangedEntities.eq_of_has_iff`), and from the
empty one only tidy ones are reached (`ChangedEntities.Tidy.addAll`).

The main result is `Service.changes_are_reported`.
-/

namespace ActionGateway

/-! ## Names

A map keeps its entries in ascending order of their names, and a name stands in it once. So the list
of its names is sorted without anything being sorted. The order of texts is that of their
characters; that it is also the order of the bytes on the wire is a property of UTF-8
(`Utf8.encode_lt_encode`). -/

namespace NameMap

variable {α : Type}

/-- The names of a map are those that stand for something in it. -/
theorem mem_names_iff {m : NameMap α} {name : String} :
    name ∈ m.names ↔ ∃ value, m.find? name = some value := by
  rw [names, List.mem_map]
  constructor
  · rintro ⟨⟨_, value⟩, hmem, rfl⟩
    exact ⟨value, (Entries.find?_eq_some_iff m.ascending).mpr hmem⟩
  · rintro ⟨value, hfind⟩
    exact ⟨(name, value), Entries.mem_of_find?_eq_some hfind, rfl⟩

/-- The names ascend in the order of their bytes. -/
theorem pairwise_names (m : NameMap α) :
    m.names.Pairwise fun a b => Utf8.encode a < Utf8.encode b :=
  List.pairwise_map.mpr (m.ascending.imp Utf8.encode_lt_encode)

/-- A map without names holds nothing. -/
theorem names_ne_nil {m : NameMap α} (h : m.isEmpty = false) : m.names ≠ [] := by
  intro hnames
  rw [isEmpty, List.map_eq_nil_iff.mp hnames] at h
  cases h

end NameMap

namespace ChangedEntities

/-! ## What a report has

A report is a map from types to sets of identifiers, and a set is a map to nothing. To reason about
it as the set of the pairs that were reported, it takes two facts: what one report adds, and that
the set determines the report. The second one fails for reports that list a type without an
identifier, which is why `Tidy` is carried along. -/

/-- A report has an identifier under a type. -/
def Has (changed : ChangedEntities) (entityType id : String) : Prop :=
  ∃ ids, changed.find? entityType = some ids ∧ ids.find? id = some ()

/-- In a report no type is listed without an identifier. -/
def Tidy (changed : ChangedEntities) : Prop :=
  ∀ entityType ids, changed.find? entityType = some ids → ids.isEmpty = false

variable {changed other : ChangedEntities}

/-- At the beginning nothing has been reported. -/
theorem not_has_empty (entityType id : String) : ¬ Has .empty entityType id := by
  rintro ⟨ids, hfind, -⟩
  cases hfind

/-- **One more report adds its pair and nothing else.** The cases are those of the insertion:
another type, the same type with another identifier, or the pair itself, which may have been there.
-/
theorem has_add_iff {entityType id reportedType reported : String} :
    (changed.add reportedType reported).Has entityType id ↔
      changed.Has entityType id ∨ (entityType, id) = (reportedType, reported) := by
  rw [Has, Has, add, NameMap.find?_insert, Prod.mk.injEq]
  by_cases htype : reportedType = entityType
  · subst htype
    rw [if_pos rfl]
    by_cases hid : reported = id
    · subst hid
      simp
    · rcases hfind : changed.find? reportedType with _ | ids
      · simp [hid, Ne.symm hid]
      · simp [hid, Ne.symm hid]
  · simp [htype, Ne.symm htype]

/-- **A sequence of reports adds its pairs and nothing else.** By induction on the sequence, for any
report that it is added to. -/
theorem has_addAll_iff {entityType id : String} (changes : List (String × String)) :
    (changed.addAll changes).Has entityType id ↔
      changed.Has entityType id ∨ (entityType, id) ∈ changes := by
  induction changes generalizing changed with
  | nil => simp [addAll]
  | cons change rest ih =>
    have hrest : (changed.addAll (change :: rest)).Has entityType id ↔
        ((changed.add change.1 change.2).addAll rest).Has entityType id := Iff.rfl
    rw [hrest, ih, has_add_iff, List.mem_cons, or_assoc]

/-- One more report leaves no type without an identifier. -/
theorem Tidy.add (h : changed.Tidy) (reportedType reported : String) :
    (changed.add reportedType reported).Tidy := by
  intro entityType ids hfind
  rw [ChangedEntities.add, NameMap.find?_insert] at hfind
  split at hfind
  · -- under the reported type there is at least the identifier that was reported
    obtain rfl := Option.some.inj hfind
    exact NameMap.isEmpty_insert _ _ _
  · exact h entityType ids hfind

/-- From a tidy report only tidy ones are reached. -/
theorem Tidy.addAll (h : changed.Tidy) (changes : List (String × String)) :
    (changed.addAll changes).Tidy := by
  induction changes generalizing changed with
  | nil => exact h
  | cons change rest ih => exact ih (h.add change.1 change.2)

/-- The report at the beginning lists no type at all. -/
theorem tidy_empty : Tidy .empty := by
  intro entityType ids hfind
  cases hfind

/-- Under a type of a tidy report stands what any report has there that has the same pairs. -/
theorem find?_of_has_iff (h : changed.Tidy)
    (hhas : ∀ entityType id, changed.Has entityType id ↔ other.Has entityType id)
    {entityType : String} {ids : NameMap Unit} (hfind : changed.find? entityType = some ids) :
    other.find? entityType = some ids := by
  obtain ⟨id, hid⟩ := List.exists_mem_of_ne_nil _ (NameMap.names_ne_nil (h entityType ids hfind))
  obtain ⟨⟨⟩, hid⟩ := NameMap.mem_names_iff.mp hid
  obtain ⟨others, hother, -⟩ := (hhas entityType id).mp ⟨ids, hfind, hid⟩
  have hids (id : String) : others.find? id = some () ↔ ids.find? id = some () := by
    have hboth := hhas entityType id
    simp only [Has, hfind, hother, Option.some.injEq, exists_eq_left'] at hboth
    exact hboth.symm
  rw [hother, NameMap.ext_find? fun id => Option.ext fun _ => hids id]

/-- **Tidy reports that have the same pairs are the same.** Each type of one is a type of the other,
with the same identifiers, and maps that give the same for all names are equal. -/
theorem eq_of_has_iff (h : changed.Tidy) (hother : other.Tidy)
    (hhas : ∀ entityType id, changed.Has entityType id ↔ other.Has entityType id) :
    changed = other := by
  refine NameMap.ext_find? fun entityType => Option.ext fun ids => ?_
  exact ⟨find?_of_has_iff h hhas, find?_of_has_iff hother fun entityType id => (hhas _ id).symm⟩

/-- **The order and the repetition of the reports do not show.** Two sequences with the same members
lead to reports with the same pairs, and both are tidy. -/
theorem addAll_eq_of_mem_iff {changes changes' : List (String × String)}
    (h : ∀ change, change ∈ changes ↔ change ∈ changes') :
    ChangedEntities.addAll .empty changes = ChangedEntities.addAll .empty changes' := by
  refine eq_of_has_iff (tidy_empty.addAll changes) (tidy_empty.addAll changes') ?_
  intro entityType id
  rw [has_addAll_iff, has_addAll_iff, h]

/-! ## What is shown of a report

The answer shows lists, and nothing at all if there is nothing to show. `Shows` says what lists are
right for a sequence of reports without saying how they are made: the types and the identifiers are
those that were reported, each once and in order, and no type is there for nothing. Given the
sequence there is one such map of lists. -/

/-- Lists show a sequence of reports: the types that were reported in the order of their bytes, and
for each of them its identifiers, of which there are some, in that order. In no list does anything
come twice. -/
structure Shows (lists : NameMap (List String)) (changes : List (String × String)) : Prop where
  types_ascend : lists.names.Pairwise fun a b => Utf8.encode a < Utf8.encode b
  mem_types_iff : ∀ entityType, entityType ∈ lists.names ↔ ∃ id, (entityType, id) ∈ changes
  ids_ascend : ∀ entityType ids, lists.find? entityType = some ids →
    ids.Pairwise fun a b => Utf8.encode a < Utf8.encode b
  mem_ids_iff : ∀ entityType ids, lists.find? entityType = some ids →
    ∀ id, id ∈ ids ↔ (entityType, id) ∈ changes
  ids_ne_nil : ∀ entityType ids, lists.find? entityType = some ids → ids ≠ []

/-- **The lists show what was reported**: each entity once, under its type, and in ascending order.
-/
theorem shows_toLists (changes : List (String × String)) :
    Shows (ChangedEntities.addAll .empty changes).toLists changes := by
  have htidy : (ChangedEntities.addAll .empty changes).Tidy := tidy_empty.addAll changes
  have hhas (entityType id : String) :
      (ChangedEntities.addAll .empty changes).Has entityType id ↔ (entityType, id) ∈ changes := by
    rw [has_addAll_iff, or_iff_right (not_has_empty entityType id)]
  -- from here on only the pairs that the report has are used, and that it is tidy
  generalize ChangedEntities.addAll .empty changes = changed at htidy hhas ⊢
  have hlist {entityType : String} {ids : List String}
      (hfind : changed.toLists.find? entityType = some ids) :
      ∃ set, changed.find? entityType = some set ∧ set.names = ids := by
    rwa [toLists, NameMap.find?_map, Option.map_eq_some_iff] at hfind
  constructor
  case types_ascend => exact NameMap.pairwise_names _
  case mem_types_iff =>
    intro entityType
    rw [NameMap.mem_names_iff]
    constructor
    · rintro ⟨ids, hfind⟩
      obtain ⟨set, hset, -⟩ := hlist hfind
      obtain ⟨id, hid⟩ :=
        List.exists_mem_of_ne_nil _ (NameMap.names_ne_nil (htidy entityType set hset))
      obtain ⟨⟨⟩, hid⟩ := NameMap.mem_names_iff.mp hid
      exact ⟨id, (hhas entityType id).mp ⟨set, hset, hid⟩⟩
    · rintro ⟨id, hmem⟩
      obtain ⟨set, hset, -⟩ := (hhas entityType id).mpr hmem
      exact ⟨set.names, by rw [toLists, NameMap.find?_map, hset, Option.map_some]⟩
  case ids_ascend =>
    intro entityType ids hfind
    obtain ⟨set, -, rfl⟩ := hlist hfind
    exact NameMap.pairwise_names set
  case mem_ids_iff =>
    intro entityType ids hfind id
    obtain ⟨set, hset, rfl⟩ := hlist hfind
    rw [NameMap.mem_names_iff, ← hhas, Has]
    constructor
    · rintro ⟨⟨⟩, hid⟩
      exact ⟨set, hset, hid⟩
    · rintro ⟨other, hother, hid⟩
      obtain rfl := Option.some.inj (hset.symm.trans hother)
      exact ⟨(), hid⟩
  case ids_ne_nil =>
    intro entityType ids hfind
    obtain ⟨set, hset, rfl⟩ := hlist hfind
    exact NameMap.names_ne_nil (htidy entityType set hset)

/-- If anything is shown, it is what was reported. -/
theorem shows_of_shown_eq_some {changes : List (String × String)} {lists : NameMap (List String)}
    (h : shown changes = some lists) : Shows lists changes := by
  rw [shown] at h
  split at h
  · cases h
  · obtain rfl := Option.some.inj h
    exact shows_toLists changes

/-- What is shown, and whether anything is, depends on which pairs were reported. -/
theorem shown_eq_of_mem_iff {changes changes' : List (String × String)}
    (h : ∀ change, change ∈ changes ↔ change ∈ changes') : shown changes = shown changes' := by
  have hempty : changes.isEmpty = changes'.isEmpty := by
    rw [← isEmpty_addAll, ← isEmpty_addAll, addAll_eq_of_mem_iff h]
  rw [shown, shown, hempty, addAll_eq_of_mem_iff h]

end ChangedEntities

/-! ## Answers

The reports of an action reach the answer by one way only, and only if the action succeeds: an error
shows nothing of them. Two actions are compared by what they do for the invocations that really
happen, so nothing is asked of them elsewhere. -/

/-- Two outcomes that report the same, though maybe in another order or more than once. -/
structure Outcome.ReportAlike (outcome other : Outcome) : Prop where
  /-- what came of the two is the same -/
  result : outcome.result = other.result
  /-- and so are the pairs that were reported -/
  changes : ∀ change, change ∈ outcome.changes ↔ change ∈ other.changes

namespace Service

variable {service other : Service} {name : String} {version : ApiVersion} {caller : Identity}

/-- Outcomes that report alike give the same answer, also to failures. -/
theorem answer_of_reportAlike {outcome outcome' : Outcome} (h : outcome.ReportAlike outcome')
    (help : String) (action action' : Action) (version : ApiVersion) (caller : Identity)
    (payload : Payload) :
    answer help (invocation action version caller payload) outcome =
      answer help (invocation action' version caller payload) outcome' := by
  rcases hresult : outcome.result with error | result
  · rw [answer_of_error hresult, answer_of_error (h.result.symm.trans hresult)]
    rfl
  · rw [answer_of_ok hresult, answer_of_ok (h.result.symm.trans hresult),
      ChangedEntities.shown_eq_of_mem_iff h.changes]

/-- **Changes are reported completely and in order, and nothing else shows.**

* The answer to a call that ran an action with success shows what the action reported, and only if
  it reported nothing it does not show anything.
* Let two actions of one name take their input alike, and where one of them runs for a request, let
  the other one give the same result and report the same, in any order and any number of times. Then
  the request gets the same response from both. -/
theorem changes_are_reported (service : Service) (name : String) (version : ApiVersion)
    (caller : Identity) :
    (∀ (call : Call), ∀ invocation ∈ (service.call name version caller call).invocations,
      ∀ result, (service.perform invocation).value.result = .ok result →
        ((service.call name version caller call).value.envelope.changedEntities = none ↔
          (service.perform invocation).value.changes = []) ∧
        ∀ lists,
          (service.call name version caller call).value.envelope.changedEntities = some lists →
            ChangedEntities.Shows lists (service.perform invocation).value.changes) ∧
    (∀ (other : Service) (action action' : Action), service.config = other.config →
      service.registry.find? name = some action → other.registry.find? name = some action' →
      action.readOnly = action'.readOnly → ∀ (limit : Option Nat) (request : Request),
        (∀ invocation ∈ (service.respond limit name version caller request).invocations,
          (service.perform invocation).value.ReportAlike
            (other.perform { invocation with action := action' }).value) →
        (service.respond limit name version caller request).value =
          (other.respond limit name version caller request).value) := by
  refine ⟨?_, ?_⟩
  · intro call invocation hmem result hresult
    obtain ⟨action, payload, hfind, hpayload, rfl⟩ := ran_of_mem_call hmem
    rw [call_of_payload hfind hpayload, Traced.value_map, answer_of_ok hresult]
    exact ⟨ChangedEntities.shown_eq_none_iff, fun lists => ChangedEntities.shows_of_shown_eq_some⟩
  · intro other action action' hconfig hfind hfind' hreadOnly limit request h
    refine value_respond_congr hconfig hfind hfind' hreadOnly ?_
    intro call payload hread hpayload help
    -- the actions are compared where one of them runs, and here it does
    have hran : invocation action version caller payload ∈
        (service.respond limit name version caller request).invocations := by
      rw [respond, answerRequest_of_read hread, call_of_payload hfind hpayload]
      exact List.mem_singleton_self _
    exact answer_of_reportAlike (h _ hran) help action action' version caller payload

/-- An action that reports one entity twice, in the midst of others, and one that reports the same
entities sorted. -/
theorem changes_are_reported_sorted :
    let action (changes : List (String × String)) : Action :=
      ⟨"touch", false, none, .run fun _ _ => ⟨changes, .ok .null⟩⟩
    let service (changes : List (String × String)) : Service :=
      ⟨Registry.register .empty (action changes), .default⟩
    let mixed : List (String × String) :=
      [("package", "zeta"), ("group", "g1"), ("package", "alpha"), ("package", "zeta")]
    let sorted : List (String × String) :=
      [("group", "g1"), ("package", "alpha"), ("package", "zeta")]
    let request : Request := ⟨.post, ⟨"/api/action/touch", none⟩, [], []⟩
    (∃ lists,
        ((service mixed).call "touch" .v3 .anonymous
            (Call.new .post)).value.envelope.changedEntities = some lists ∧
          ChangedEntities.Shows lists mixed) ∧
      ((service mixed).respond none "touch" .v3 .anonymous request).value =
        ((service sorted).respond none "touch" .v3 .anonymous request).value := by
  intro action service mixed sorted request
  have hran : invocation (action mixed) .v3 .anonymous .empty ∈
      ((service mixed).call "touch" .v3 .anonymous (Call.new .post)).invocations :=
    List.mem_singleton_self _
  have hmixed (context : CallContext) (payload : Payload) :
      ((service mixed).perform ⟨action mixed, context, payload⟩).value.ReportAlike
        ((service sorted).perform ⟨action sorted, context, payload⟩).value :=
    ⟨rfl, fun change => show change ∈ mixed ↔ change ∈ sorted by grind⟩
  obtain ⟨hshown, hsame⟩ := changes_are_reported (service mixed) "touch" .v3 .anonymous
  obtain ⟨hnone, hlists⟩ := hshown (Call.new .post) _ hran .null rfl
  obtain ⟨lists, hsome⟩ := Option.ne_none_iff_exists'.mp fun h => nomatch hnone.mp h
  refine ⟨⟨lists, hsome, hlists lists hsome⟩, ?_⟩
  refine hsame (service sorted) (action mixed) (action sorted) rfl rfl rfl rfl none request ?_
  intro invocation hmem
  obtain ⟨call, -, hcall⟩ := ran_of_mem_answerRequest hmem
  obtain ⟨found, payload, hfind, -, rfl⟩ := ran_of_mem_call hcall
  obtain rfl := Option.some.inj (hfind.symm.trans (show _ = some (action mixed) from rfl))
  exact hmixed _ _

end Service

end ActionGateway
