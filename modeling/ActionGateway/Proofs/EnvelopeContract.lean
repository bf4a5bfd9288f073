import ActionGateway.Proofs.Serving

/-!
# The contract of envelopes

A client tells what came of its call by a few signs: the status, and which members the envelope
has. `EnvelopeContract` says how these signs hang together with each other and with what was run,
and `Service.envelopeContract_call` that every call keeps it. `Service.Answered` lists the ways in
which a call can be answered, and most of the contract is read off them. Beside it stand three
facts:

* no **failure** has status 200, whether the input was refused or the action failed;
* the **report** of changes is empty only when nothing was reported
  (`ChangedEntities.isEmpty_addAll`);
* the **members** of an envelope have different names, so that none is lost when they are sorted
  (`Envelope.toJson_eq_obj`).
-/

namespace ActionGateway

/-! ## Status

The table of the taxonomy has a status for each kind of error, and none of them is the one that
success is answered with. That a refusal has no such status either is `Refusal.status_ne_200`; both
are needed for the one sign that works in both directions. -/

/-- No kind of error counts as success. -/
theorem Taxonomy.status_ne_200 (kind : ErrorKind) : (Taxonomy.entry kind).status ≠ 200 := by
  cases kind <;> decide

/-! ## Changes

Reports are put into a name map one after the other, each under its kind, so that an entry may be
added to but is never taken away. An answer shows the map only if there is something in it. -/

namespace ChangedEntities

/-- What has been reported stays, whatever is reported later. -/
theorem isEmpty_addAll_of_not_isEmpty {changed : ChangedEntities} (h : changed.isEmpty = false)
    (changes : List (String × String)) : (changed.addAll changes).isEmpty = false := by
  -- the report changes with each of the changes, and what carries the induction is that no
  -- insertion leaves a map empty
  induction changes generalizing changed with
  | nil => exact h
  | cons change rest ih => exact ih (NameMap.isEmpty_insert _ _ _)

/-- **A report is empty only when nothing was reported.** No report takes an entity out again. -/
theorem isEmpty_addAll (changes : List (String × String)) :
    (ChangedEntities.addAll .empty changes).isEmpty = changes.isEmpty := by
  cases changes with
  | nil => rfl
  | cons change rest => exact isEmpty_addAll_of_not_isEmpty (NameMap.isEmpty_insert _ _ _) rest

/-- What an answer shows of a sequence of reports: nothing if there are none, and else the lists. -/
def shown (changes : List (String × String)) : Option (NameMap (List String)) :=
  if changes.isEmpty then none else some (ChangedEntities.addAll .empty changes).toLists

/-- Nothing is shown exactly if nothing was reported: an action that reports the same change twice
shows it, and one that reports none shows no empty list. -/
theorem shown_eq_none_iff {changes : List (String × String)} :
    shown changes = none ↔ changes = [] := by
  rw [shown]
  split
  case isTrue hempty => exact iff_of_true rfl (List.isEmpty_iff.mp hempty)
  case isFalse hempty => exact iff_of_false (fun h => nomatch h) (mt List.isEmpty_iff.mpr hempty)

end ChangedEntities

/-! ## Members

An envelope is written as an object whose members are sorted by name. Sorting keeps one member for
each name, so `Envelope.toJson` holds what is listed in `Envelope.members` only because the names of
the five members differ. -/

namespace Envelope

/-- The members that an envelope has, as JSON. -/
inductive Has (e : Envelope) : String → Json → Prop
  | help (address : String) (h : e.help = some address) : Has e "help" (.str address)
  | success : Has e "success" (.bool e.isSuccess)
  | result (value : Json) (h : e.result? = some value) : Has e "result" value
  | error (record : ErrorRecord) (h : e.error? = some record) : Has e "error" record.toJson
  | changedEntities (changed : NameMap (List String)) (h : e.changedEntities = some changed) :
    Has e "changed_entities" (changedJson changed)

/-- What is listed is what the envelope has. -/
theorem mem_members_iff (e : Envelope) (name : String) (value : Json) :
    (name, value) ∈ e.members ErrorRecord.toJson ↔ e.Has name value := by
  constructor
  · intro hmem
    simp only [members, List.mem_append, List.mem_cons, Option.mem_toList, Option.map_eq_some_iff,
      Prod.mk.injEq] at hmem
    -- the list is put together of four parts, and the third has one of two members
    rcases hmem with
      ⟨address, h, rfl, rfl⟩ | ⟨rfl, rfl⟩ | (⟨result, h, rfl, rfl⟩ | ⟨record, h, rfl, rfl⟩) |
        ⟨changed, h, rfl, rfl⟩
    · exact .help address h
    · exact .success
    · exact .result _ h
    · exact .error record h
    · exact .changedEntities changed h
  · intro hhas
    cases hhas with
    | help address h => simp [members, h]
    | success => simp [members]
    | result _ h => simp [members, h]
    | error record h => simp [members, h]
    | changedEntities changed h => simp [members, h]

/-- The members that are listed have different names. -/
theorem nodup_names_members (e : Envelope) :
    ((e.members ErrorRecord.toJson).map Prod.fst).Nodup := by
  obtain ⟨help, outcome, changed⟩ := e
  cases help <;> cases outcome <;> cases changed <;>
    simp [members, isSuccess, result?, error?]

/-- **As JSON an envelope is an object that holds what it has, each member once.** -/
theorem toJson_eq_obj (e : Envelope) :
    ∃ members, e.toJson = .obj members ∧ (members.map Prod.fst).Nodup ∧
      ∀ name value, (name, value) ∈ members ↔ e.Has name value := by
  refine ⟨Entries.sort (e.members ErrorRecord.toJson), rfl, ?_, fun name value => ?_⟩
  · exact Entries.nodup_names_of_ascending (Entries.ascending_sort _)
  · rw [Entries.mem_sort_iff (nodup_names_members e), mem_members_iff]

/-- Whether there is a result is a matter of the outcome alone. -/
theorem isSome_result?_iff (e : Envelope) : e.result?.isSome = true ↔ e.isSuccess = true := by
  obtain ⟨help, outcome, changed⟩ := e
  cases outcome <;> simp [result?, isSuccess]

/-- Whether there is an error is so as well: the flag, the result and the error cannot contradict
each other. -/
theorem error?_eq_none_iff (e : Envelope) : e.error? = none ↔ e.isSuccess = true := by
  obtain ⟨help, outcome, changed⟩ := e
  cases outcome <;> simp [error?, isSuccess]

end Envelope

/-! ## Answers

`Service.Served` lists the ways that a call can take, with what is checked on each.
`Service.Answered` adds to them whether what ran has failed or succeeded, and forgets what the input
was; for the signs of an answer no more has to be told apart. The cases of the lemmas below are its
constructors. -/

namespace Service

variable {service : Service} {name : String} {version : ApiVersion} {caller : Identity}
  {call : Call} {traced : Traced Answer}

/-- **The answer to an action that succeeded** shows what it reported. -/
theorem answer_of_ok {outcome : Outcome} {result : Json} (h : outcome.result = .ok result)
    (help : String) (action : Action) (version : ApiVersion) (caller : Identity)
    (payload : Payload) :
    answer help (invocation action version caller payload) outcome =
      ⟨200, ⟨some help, .ok result, ChangedEntities.shown outcome.changes⟩⟩ := by
  -- with a callback or without one, nothing has been reported before the action runs
  have hnew : (invocation action version caller payload).context.changedEntities = .empty := by
    simp only [invocation]
    split <;> rfl
  simp only [answer, h, CallContext.reportAll, hnew, ChangedEntities.isEmpty_addAll,
    ChangedEntities.shown]
  split <;> rfl

/-- The answer to an action that failed. -/
theorem answer_of_error {outcome : Outcome} {error : ActionError}
    (h : outcome.result = .error error) (help : String) (invocation : Invocation) :
    answer help invocation outcome =
      ⟨(Taxonomy.entry error.kind).status,
        .failure (some help) (Taxonomy.record error invocation.payload)⟩ := by
  simp only [answer, h]
  rfl

/-- How a call can be answered, and after which invocations. Other than in `Served`, what ran has
failed or succeeded. -/
inductive Answered (service : Service) (name : String) (version : ApiVersion) :
    List Invocation → Answer → Prop
  | unknown (hfind : service.registry.find? name = none) :
    Answered service name version [] (unknownAction name)
  | refused (action : Action) (refusal : Refusal)
    (hfind : service.registry.find? name = some action) :
    Answered service name version [] (refused (service.config.helpUrl version name) refusal)
  | failed (invocation : Invocation) (error : ActionError)
    (hfind : service.registry.find? name = some invocation.action)
    (hresult : (service.perform invocation).value.result = .error error) :
    Answered service name version [invocation]
      ⟨(Taxonomy.entry error.kind).status,
        .failure (some (service.config.helpUrl version name))
          (Taxonomy.record error invocation.payload)⟩
  | succeeded (invocation : Invocation) (result : Json) (changed : Option (NameMap (List String)))
    (hfind : service.registry.find? name = some invocation.action)
    (hresult : (service.perform invocation).value.result = .ok result)
    (hchanged : changed.isSome = true ↔ (service.perform invocation).value.changes ≠ []) :
    Answered service name version [invocation]
      ⟨200, ⟨some (service.config.helpUrl version name), .ok result, changed⟩⟩

/-- **Every call is answered in one of these ways.** The cases of `Served` are those of the code; an
action that ran has succeeded or failed, which makes one case two. -/
theorem Served.answered (h : Served service name version caller call traced) :
    Answered service name version traced.invocations traced.value := by
  cases h with
  | unknown hfind => exact .unknown hfind
  | refused action refusal hfind hpayload => exact .refused action refusal hfind
  | ran action payload hfind hpayload =>
    rw [Traced.value_map, Traced.invocations_map, invocations_perform]
    -- what ran has failed or succeeded, and `Answered` has a case for either
    rcases hresult :
        (service.perform (invocation action version caller payload)).value.result with
      error | result
    · rw [answer_of_error hresult]
      exact .failed _ error hfind hresult
    · rw [answer_of_ok hresult]
      refine .succeeded _ result _ hfind hresult ?_
      exact Option.isSome_iff_ne_none.trans (not_congr ChangedEntities.shown_eq_none_iff)

namespace Answered

variable {invocations : List Invocation} {answer : Answer}

/-- The address of the documentation is given exactly for actions that there are. -/
theorem help_eq (h : Answered service name version invocations answer) :
    answer.envelope.help =
      (service.registry.find? name).map fun _ => service.config.helpUrl version name := by
  cases h with
  | unknown hfind => rw [hfind]; rfl
  | refused action refusal hfind => rw [hfind]; rfl
  | failed invocation error hfind hresult => rw [hfind]; rfl
  | succeeded invocation result changed hfind hresult hchanged => rw [hfind]; rfl

/-- Status 200 means success. -/
theorem status_eq_200_iff (h : Answered service name version invocations answer) :
    answer.status = 200 ↔ answer.envelope.isSuccess = true := by
  cases h with
  | unknown hfind => exact iff_of_false (fun hstatus => nomatch hstatus) Bool.false_ne_true
  | refused action refusal hfind => exact iff_of_false refusal.status_ne_200 Bool.false_ne_true
  | failed invocation error hfind hresult =>
    exact iff_of_false (Taxonomy.status_ne_200 error.kind) Bool.false_ne_true
  | succeeded invocation result changed hfind hresult hchanged => exact iff_of_true rfl rfl

/-- Changes are shown when an action ran, succeeded, and reported some. -/
theorem isSome_changedEntities_iff (h : Answered service name version invocations answer) :
    answer.envelope.changedEntities.isSome = true ↔
      ∃ invocation ∈ invocations,
        (∃ result, (service.perform invocation).value.result = .ok result) ∧
          (service.perform invocation).value.changes ≠ [] := by
  cases h with
  | unknown hfind => exact iff_of_false Bool.false_ne_true (by rintro ⟨_, hmem, -⟩; cases hmem)
  | refused action refusal hfind =>
    exact iff_of_false Bool.false_ne_true (by rintro ⟨_, hmem, -⟩; cases hmem)
  | failed invocation error hfind hresult =>
    refine iff_of_false Bool.false_ne_true ?_
    rintro ⟨other, hmem, ⟨result, hok⟩, -⟩
    rw [List.mem_singleton.mp hmem, hresult] at hok
    cases hok
  | succeeded invocation result changed hfind hresult hchanged =>
    rw [hchanged]
    constructor
    · intro hchanges
      exact ⟨invocation, List.mem_singleton_self _, ⟨result, hresult⟩, hchanges⟩
    · rintro ⟨other, hmem, -, hchanges⟩
      rw [← List.mem_singleton.mp hmem]
      exact hchanges

end Answered

/-! ## The contract

The fields stand in the order in which a client would check them: the address of the documentation,
the status, the parts of the envelope, the changes. The last ones are about what ran, and about the
text that is sent. -/

/-- How the signs by which a client judges its call hang together. The traced answer is a parameter,
so that the contract says of an answer and the invocations before it what belongs to what;
`envelopeContract_call` then puts in those of a call. An invocation stands for a run of the action,
and what the action returned is asked of `Service.perform`. -/
structure EnvelopeContract (service : Service) (name : String) (version : ApiVersion)
    (caller : Identity) (call : Call) (traced : Traced Answer) : Prop where
  /-- only the name of an action that there is not goes without the address of a documentation -/
  help_eq_none_iff : traced.value.envelope.help = none ↔ service.registry.find? name = none
  /-- all other names come with it -/
  help_eq : ∀ action, service.registry.find? name = some action →
    traced.value.envelope.help = some (service.config.helpUrl version name)
  /-- the status tells success from failure -/
  status_eq_200_iff : traced.value.status = 200 ↔ traced.value.envelope.isSuccess = true
  /-- so does the result -/
  isSome_result?_iff : traced.value.envelope.result?.isSome = true ↔
    traced.value.envelope.isSuccess = true
  /-- and the error -/
  error?_eq_none_iff : traced.value.envelope.error? = none ↔
    traced.value.envelope.isSuccess = true
  /-- changes are shown when an action ran, succeeded, and reported some -/
  isSome_changedEntities_iff : traced.value.envelope.changedEntities.isSome = true ↔
    ∃ invocation ∈ traced.invocations,
      (∃ result, (service.perform invocation).value.result = .ok result) ∧
        (service.perform invocation).value.changes ≠ []
  /-- an action runs once, if there is one and its input is taken -/
  runs_once : ∀ action payload, service.registry.find? name = some action →
    call.payload action.readOnly = .ok payload →
      traced.invocations = [invocation action version caller payload]
  /-- otherwise none runs -/
  runs_never : (¬ ∃ action payload, service.registry.find? name = some action ∧
    call.payload action.readOnly = .ok payload) → traced.invocations = []
  /-- the name of an action that there is not is all that its answer depends on -/
  unknown : service.registry.find? name = none →
    traced.value.status = 400 ∧
      ∀ otherVersion otherCaller otherCall,
        (service.call name otherVersion otherCaller otherCall).value = traced.value
  /-- the JSON form holds what the envelope has, each member once -/
  toJson_eq_obj : ∃ members, traced.value.envelope.toJson = .obj members ∧
    (members.map Prod.fst).Nodup ∧
      ∀ member value, (member, value) ∈ members ↔ traced.value.envelope.Has member value

/-- **Every call keeps the contract of envelopes**: whatever is registered, whatever name, version
and caller it has, and whatever it brings.

The first fields are read off `Service.Answered`. Whether an action ran is a matter of the way that
the call took, and is read off `Service.Served`. -/
theorem envelopeContract_call (service : Service) (name : String) (version : ApiVersion)
    (caller : Identity) (call : Call) :
    EnvelopeContract service name version caller call
      (service.call name version caller call) := by
  have hserved := service.served_call name version caller call
  have hanswered := hserved.answered
  constructor
  case help_eq_none_iff => rw [hanswered.help_eq, Option.map_eq_none_iff]
  case help_eq =>
    intro action hfind
    rw [hanswered.help_eq, hfind, Option.map_some]
  case status_eq_200_iff => exact hanswered.status_eq_200_iff
  case isSome_result?_iff => exact Envelope.isSome_result?_iff _
  case error?_eq_none_iff => exact Envelope.error?_eq_none_iff _
  case isSome_changedEntities_iff => exact hanswered.isSome_changedEntities_iff
  case runs_once =>
    intro action payload hfind hpayload
    rw [call_of_payload hfind hpayload]
    rfl
  case runs_never =>
    intro hnone
    generalize service.call name version caller call = traced at hserved
    cases hserved with
    | unknown => rfl
    | refused => rfl
    | ran action payload hfind hpayload => exact absurd ⟨action, payload, hfind, hpayload⟩ hnone
  case unknown =>
    intro hfind
    rw [call_of_unknown hfind]
    refine ⟨rfl, fun otherVersion otherCaller otherCall => ?_⟩
    rw [call_of_unknown hfind]
  case toJson_eq_obj => exact Envelope.toJson_eq_obj _

end Service

end ActionGateway
