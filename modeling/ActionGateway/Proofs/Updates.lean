import ActionGateway.Proofs.Anonymity
import ActionGateway.Proofs.Sources

/-!
# What updates bring

An update that comes with no fields is refused. Whether it does is seen when its source has been
read, and two things happen to the payload after that: the files are put over it, which can only add
to it, and the **callback** field is taken out of it. So an update that brings nothing but a
callback passes for one with fields, and then its action is given none.

`Call.BringsOnly` says what such an update looks like, and
`Service.update_runs_empty_iff_only_callback` that there is no other way to an empty payload.

The theorem is about all calls that update, to any action: what they bring may be a form, a query or
a body, with files or without.
-/

namespace ActionGateway

namespace Call

variable {call : Call} {readOnly : Bool} {field : String}

/-! ## Only one field

Files are put over what the source gives, and then a field is taken away. For nothing to be left,
neither the source nor the files may give another field; and since an update with an empty source is
refused, the source must give that one. -/

/-- All that a call brings for an action is one field: its source gives no other, and no file has
another name. -/
def BringsOnly (call : Call) (readOnly : Bool) (field : String) : Prop :=
  ∃ value, call.parseSource (call.source readOnly) = .ok (NameMap.empty.insert field value) ∧
    ∀ file ∈ call.files, file.1 = field

/-- What is left without a field is nothing if no other one comes from the source or from a file. -/
theorem erase_overlay_eq_empty_iff {base : Payload} {files : List (String × Upload)} :
    (overlay base files).erase field = .empty ↔
      (∀ other, other ≠ field → base.find? other = none) ∧ ∀ file ∈ files, file.1 = field := by
  constructor
  · intro hempty
    -- another name is found nowhere in what is left, so neither in the source nor among the files
    have hnone (other : String) (hother : other ≠ field) :
        Entries.find? other files.reverse = none ∧ base.find? other = none := by
      have hfind := congrArg (NameMap.find? · other) hempty
      simp only [NameMap.find?_erase, if_neg (Ne.symm hother), find?_overlay, NameMap.find?_empty,
        Option.or_eq_none_iff, Option.map_eq_none_iff] at hfind
      exact hfind
    refine ⟨fun other hother => (hnone other hother).2, fun file hmem => ?_⟩
    by_cases hfile : file.1 = field
    · exact hfile
    · exact absurd (List.mem_reverse.mpr hmem)
        (Entries.find?_eq_none_iff.mp (hnone file.1 hfile).1 file.2)
  · rintro ⟨hbase, hfiles⟩
    refine NameMap.ext_find? fun other => ?_
    rw [NameMap.find?_erase, NameMap.find?_empty]
    split
    · rfl
    next hother =>
      rw [find?_overlay_of_no_file, hbase other (Ne.symm hother)]
      intro file hmem hfile
      exact hother ((hfiles file hmem).symm.trans hfile)

/-- **An update brings only one field** exactly if it has a payload of which nothing is left without
that field. -/
theorem bringsOnly_iff (hput : call.method = .put) :
    call.BringsOnly readOnly field ↔
      ∃ payload, call.payload readOnly = .ok payload ∧ payload.erase field = .empty := by
  have hretrieval : call.method.isRetrieval = false := by
    rw [hput]
    rfl
  have hupdate : call.method.isUpdate = true := Method.isUpdate_iff.mpr hput
  constructor
  · rintro ⟨value, hparse, hfiles⟩
    refine ⟨overlay (NameMap.empty.insert field value) call.files, ?_, ?_⟩
    · exact payload_eq_ok_iff.mpr
        ⟨.inr hretrieval, _, hparse, .inr (NameMap.isEmpty_insert _ _ _), rfl⟩
    · refine erase_overlay_eq_empty_iff.mpr ⟨fun other hother => ?_, hfiles⟩
      rw [NameMap.find?_insert, if_neg (Ne.symm hother), NameMap.find?_empty]
  · rintro ⟨payload, hpayload, hempty⟩
    obtain ⟨-, base, hparse, hbrings, rfl⟩ := payload_eq_ok_iff.mp hpayload
    have hbase : base.isEmpty = false := by
      rw [hupdate] at hbrings
      exact hbrings.resolve_left Bool.noConfusion
    obtain ⟨hother, hfiles⟩ := erase_overlay_eq_empty_iff.mp hempty
    obtain ⟨value, rfl⟩ := NameMap.exists_eq_insert_empty hbase hother
    exact ⟨value, hparse, hfiles⟩

/-- The one field that a call brings is in its payload. -/
theorem BringsOnly.contains {payload : Payload} (h : call.BringsOnly readOnly field)
    (hpayload : call.payload readOnly = .ok payload) : payload.contains field = true := by
  obtain ⟨value, hparse, -⟩ := h
  obtain ⟨-, base, hbase, -, rfl⟩ := payload_eq_ok_iff.mp hpayload
  obtain rfl := Except.ok.inj (hparse.symm.trans hbase)
  refine contains_overlay ?_ call.files
  rw [NameMap.contains, NameMap.find?_insert, if_pos rfl]
  rfl

/-! ## Refusals

What is refused after it has been read is answered by status 400: the method, the document, or an
update that is empty. A body that is too large is found while reading, and no call comes of it. -/

/-- A document that is broken, or no object, is answered by status 400. -/
theorem status_of_parseDocument_error {raw : Bytes} {refusal : Refusal}
    (h : parseDocument raw = .error refusal) : refusal.status = 400 := by
  rw [parseDocument] at h
  split at h
  · obtain rfl := Except.error.inj h
    rfl
  · split at h
    · obtain rfl := Except.error.inj h
      rfl
    · cases h

/-- So is any source that cannot be read. -/
theorem status_of_parseSource_error {source : Source} {refusal : Refusal}
    (h : call.parseSource source = .error refusal) : refusal.status = 400 := by
  cases source with
  | form =>
    rw [parseSource, parseForm] at h
    split at h
    · exact status_of_parseDocument_error h
    · cases h
  | query => cases h
  | body => exact status_of_parseDocument_error h
  | nothing => cases h

/-- **A call that has been read is never too large**, so where its payload is refused the status is
400. -/
theorem status_of_payload_error {refusal : Refusal} (h : call.payload readOnly = .error refusal) :
    refusal.status = 400 := by
  rw [Call.payload] at h
  split at h
  · obtain rfl := Except.error.inj h
    rfl
  · split at h
    next error hparse =>
      obtain rfl := Except.error.inj h
      exact status_of_parseSource_error hparse
    next base hparse =>
      split at h
      · obtain rfl := Except.error.inj h
        rfl
      · cases h

end Call

namespace Service

variable {service : Service} {name : String} {version : ApiVersion} {caller : Identity}
  {call : Call}

/-! ## Updates that run

An action is run with the payload of its call, less the callback. So it gets an empty one exactly if
the payload holds nothing else. -/

/-- An action gets an empty payload if it is called with one of which nothing is left without the
callback. -/
theorem exists_empty_iff :
    (∃ invocation ∈ (service.call name version caller call).invocations,
        invocation.payload = .empty) ↔
      ∃ action, service.registry.find? name = some action ∧
        ∃ payload, call.payload action.readOnly = .ok payload ∧
          payload.erase callbackField = .empty := by
  constructor
  · rintro ⟨invocation, hmem, hempty⟩
    obtain ⟨action, payload, hfind, hpayload, rfl⟩ := ran_of_mem_call hmem
    exact ⟨action, hfind, payload, hpayload, hempty⟩
  · rintro ⟨action, hfind, payload, hpayload, hempty⟩
    rw [call_of_payload hfind hpayload]
    exact ⟨_, List.mem_singleton_self _, hempty⟩

/-- A call that runs nothing is answered by status 400. -/
theorem status_of_runs_nothing (h : (service.call name version caller call).invocations = []) :
    (service.call name version caller call).value.status = 400 := by
  have hserved := service.served_call name version caller call
  generalize service.call name version caller call = traced at h hserved
  cases hserved with
  | unknown => rfl
  | refused action refusal hfind hpayload => exact Call.status_of_payload_error hpayload
  | ran => cases h

/-- **An update gives its action no fields exactly if it brings nothing but a callback.**

* The action of an update is run with an empty payload exactly if there is such an action and all
  that the update brings is the field `callback`.
* Then the action runs for nobody in particular.
* An update that runs no action is answered by status 400. -/
theorem update_runs_empty_iff_only_callback (hput : call.method = .put) (service : Service)
    (name : String) (version : ApiVersion) (caller : Identity) :
    ((∃ invocation ∈ (service.call name version caller call).invocations,
        invocation.payload = .empty) ↔
      ∃ action, service.registry.find? name = some action ∧
        call.BringsOnly action.readOnly "callback") ∧
    (∀ invocation ∈ (service.call name version caller call).invocations,
      invocation.payload = .empty → invocation.context.identity = .anonymous) ∧
    ((service.call name version caller call).invocations = [] →
      (service.call name version caller call).value.status = 400) := by
  refine ⟨?_, ?_, status_of_runs_nothing⟩
  · simp only [exists_empty_iff, Call.bringsOnly_iff hput]
    rfl
  · intro invocation hmem hempty
    obtain ⟨action, payload, -, hpayload, rfl⟩ := ran_of_mem_call hmem
    have honly : call.BringsOnly action.readOnly callbackField :=
      (Call.bringsOnly_iff hput).mpr ⟨payload, hpayload, hempty⟩
    exact identity_invocation (honly.contains hpayload) action version caller

/-- An update that brings a callback and a file gives its action the file, and one that brings only
a callback gives it nothing. -/
theorem update_runs_empty_iff_only_callback_touch :
    let action : Action := ⟨"touch", false, none, .run fun _ _ => ⟨[], .ok .null⟩⟩
    let service : Service := ⟨Registry.register .empty action, .default⟩
    let alice : Identity := .authenticated (.named "alice")
    let bare : Call := (Call.new .put).withForm [("callback", "f")]
    let full : Call := bare.withFile "data" ⟨none, none, []⟩
    (∃ invocation ∈ (service.call "touch" .v3 alice bare).invocations,
        invocation.payload = .empty ∧ invocation.context.identity = .anonymous) ∧
      ¬ ∃ invocation ∈ (service.call "touch" .v3 alice full).invocations,
        invocation.payload = .empty := by
  intro action service alice bare full
  have hfind : service.registry.find? "touch" = some action := rfl
  obtain ⟨hbare, hcaller, -⟩ :=
    update_runs_empty_iff_only_callback (rfl : bare.method = .put) service "touch" .v3 alice
  obtain ⟨hfull, -, -⟩ :=
    update_runs_empty_iff_only_callback (rfl : full.method = .put) service "touch" .v3 alice
  refine ⟨?_, ?_⟩
  · have honly : bare.BringsOnly false "callback" :=
      ⟨.text "f", congrArg Except.ok (Params.toPayload_singleton "callback" "f"),
        fun file hmem => nomatch hmem⟩
    obtain ⟨invocation, hmem, hempty⟩ := hbare.mpr ⟨action, hfind, honly⟩
    exact ⟨invocation, hmem, hempty, hcaller invocation hmem hempty⟩
  · rw [hfull]
    rintro ⟨other, hother, value, hparse, hfiles⟩
    have hdata : "data" = "callback" := hfiles ("data", ⟨none, none, []⟩) List.mem_cons_self
    exact absurd hdata (by decide)

/-- **An update can reach its action with nothing to update.** The document of the update has the
field `callback` and no other, so it is not refused; but the action gets an empty payload. -/
theorem callback_update_runs_empty :
    let action : Action := ⟨"touch", false, none, .run fun _ _ => ⟨[], .ok .null⟩⟩
    let service : Service := ⟨Registry.register .empty action, .default⟩
    let call : Call := (Call.new .put).withBody "application/json"
      (Utf8.encode "\x7b\x22callback\x22:\x22x\x22\x7d")
    call.method = .put ∧
      (∃ invocation ∈ (service.call "touch" .v3 .anonymous call).invocations,
        invocation.payload = .empty) ∧
      (service.call "touch" .v3 .anonymous call).value.status = 200 := by
  intro action service call
  have hran : (service.call "touch" .v3 .anonymous call).invocations.any
      (fun invocation => invocation.payload.isEmpty) = true := by
    decide +kernel
  obtain ⟨invocation, hmem, hempty⟩ := List.any_eq_true.mp hran
  exact ⟨rfl, ⟨invocation, hmem, NameMap.isEmpty_iff.mp hempty⟩, by decide +kernel⟩

end Service

end ActionGateway
