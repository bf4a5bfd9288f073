import Mathlib.Data.List.Forall2
import ActionGateway.Proofs.Transports

/-!
# What is in a file is for the action alone

An action may fail after it has been given files, and the record of an **integrity** error shows the
caller the whole payload. So each of the ways to show a payload has to stop at the descriptor of a
file: as orderly JSON, as it is written out, and as it is described in logs.

This is a statement about two runs that differ in nothing but what is in the files. `SameButData`
relates files, values, payloads, calls and invocations of two such runs; files that stand for each
other are equally long, since their size is shown. Two facts carry it:

* payloads so related are **shown alike** (`Payload.SameButData.shownAlike`), and with it the record
  of every error is the same;
* calls so related are **answered in step** (`Service.inStep_call`): both are refused alike, or both
  run one action with payloads so related.

The main result is `Service.file_contents_stay_inside`.

What the action itself does with the files is not restricted: it may put their contents into its
result, or into the text of an error. So the statement about responses asks that both runs fail with
the same error, and says that nothing else of the files is in the answer.
-/

namespace ActionGateway

/-! ## Two runs

The relations follow the data, from a file up to an invocation. Nothing is asked of what is in the
files but that it is equally long: two runs are compared for any two contents of a length. -/

/-- Two files that are equal but for what is in them. The size is shown as a number, so it is the
same. -/
structure Upload.SameButData (f g : Upload) : Prop where
  filename : f.filename = g.filename
  contentType : f.contentType = g.contentType
  length : f.data.length = g.data.length

/-- Two values that are equal, unless they are files. -/
inductive FieldValue.SameButData : FieldValue → FieldValue → Prop
  | same (value : FieldValue) : SameButData value value
  | file (f g : Upload) (h : f.SameButData g) : SameButData (.file f) (.file g)

/-- Two payloads with the same fields, and under each of them values that are equal or files of one
length. It is said by name, so that the order in which the fields were made does not count. -/
def Payload.SameButData (p q : Payload) : Prop :=
  ∀ name, Option.Rel FieldValue.SameButData (p.find? name) (q.find? name)

/-- Two calls that bring the same, and files for the same fields in the same order. The method, the
query, the form and the body are equal, since the calls are equal when their files are taken away.
-/
structure Call.SameButData (call other : Call) : Prop where
  rest : { call with files := [] } = { other with files := [] }
  files : List.Forall₂ (fun file file' => file.1 = file'.1 ∧ file.2.SameButData file'.2)
    call.files other.files

/-- One action for one caller, on payloads that differ in nothing but what is in their files. -/
structure Invocation.SameButData (invocation other : Invocation) : Prop where
  action : invocation.action = other.action
  context : invocation.context = other.context
  payload : invocation.payload.SameButData other.payload

/-! ## Values

A file is shown as its descriptor, which has the name, the media type and the size, and in logs as a
text of the same three. So each view of a value is the same for two values that are related. -/

namespace Upload.SameButData

variable {f g : Upload}

/-- A descriptor says of the data how long they are, and no more. -/
theorem descriptor_eq (h : f.SameButData g) : f.descriptor = g.descriptor := by
  have hsize : f.size = g.size := h.length
  rw [descriptor, descriptor, h.filename, h.contentType, hsize]

/-- Neither does the text in logs. -/
theorem describe_eq (h : f.SameButData g) : f.describe = g.describe := by
  have hsize : f.size = g.size := h.length
  unfold describe
  rw [h.filename, h.contentType, hsize]

end Upload.SameButData

namespace FieldValue.SameButData

variable {v w : FieldValue}

theorem toJson_eq (h : v.SameButData w) : v.toJson = w.toJson := by
  cases h with
  | same => rfl
  | file f g h => rw [toJson, toJson, h.descriptor_eq]

theorem written_eq (h : v.SameButData w) : v.written = w.written := by
  cases h with
  | same => rfl
  | file f g h => rw [written, written, h.descriptor_eq]

/-- Where one value is a file the other is one, and is described by the same text. -/
theorem map_describe_eq (h : v.SameButData w) :
    v.file?.map Upload.describe = w.file?.map Upload.describe := by
  cases h with
  | same => rfl
  | file f g h => exact congrArg some h.describe_eq

/-- What is the same for values is the same for values that may be missing. -/
theorem map_eq_of_rel {α : Type} {view : FieldValue → α}
    (hview : ∀ {v w : FieldValue}, v.SameButData w → view v = view w) {a b : Option FieldValue}
    (h : Option.Rel FieldValue.SameButData a b) : a.map view = b.map view := by
  cases h with
  | none => rfl
  | some hvalue => exact congrArg some (hview hvalue)

end FieldValue.SameButData

/-! ## Payloads

All views of a payload are made of one view of its values, applied to each of its fields. The three
views differ in that alone, so `map_eq` is proved once for any view under which related values look
the same. -/

namespace Payload

/-- How the files of a payload are described in logs, by field. Other values are not files. -/
def describedFiles (p : Payload) : NameMap (Option String) :=
  p.map fun value => value.file?.map Upload.describe

/-- All that the gateway shows of two payloads is the same: the orderly JSON, the text of what is
written out, the description in logs, and what an error makes of it. -/
structure ShownAlike (p q : Payload) : Prop where
  toJson : p.toJson = q.toJson
  text : p.text = q.text
  describedFiles : p.describedFiles = q.describedFiles
  /-- whatever the error, the status and the record that answer it are the same -/
  classify : ∀ error, Taxonomy.classify error p = Taxonomy.classify error q

namespace SameButData

variable {p q : Payload}

/-- **What is the same for all values is the same for the payloads.** -/
theorem map_eq {α : Type} {view : FieldValue → α}
    (hview : ∀ {v w : FieldValue}, v.SameButData w → view v = view w) (h : p.SameButData q) :
    p.map view = q.map view := by
  refine NameMap.ext_find? fun name => ?_
  rw [NameMap.find?_map, NameMap.find?_map]
  exact FieldValue.SameButData.map_eq_of_rel hview (h name)

theorem toJson_eq (h : p.SameButData q) : p.toJson = q.toJson := by
  rw [toJson, toJson, h.map_eq FieldValue.SameButData.toJson_eq]

theorem written_eq (h : p.SameButData q) : p.written = q.written := by
  rw [written, written, h.map_eq FieldValue.SameButData.written_eq]

/-- **Payloads that differ in nothing but what is in their files are shown alike**: as JSON, as
text, in logs, and in the record of an error. -/
theorem shownAlike (h : p.SameButData q) : p.ShownAlike q where
  toJson := h.toJson_eq
  text := congrArg Json.text h.written_eq
  describedFiles := h.map_eq FieldValue.SameButData.map_describe_eq
  classify := Taxonomy.classify_congr h.toJson_eq

/-- Two runs may be one. -/
theorem refl (p : Payload) : p.SameButData p := by
  intro name
  cases p.find? name with
  | none => exact .none
  | some value => exact .some (.same value)

/-- Related values may be put under one name. -/
theorem insert (h : p.SameButData q) (name : String) {v w : FieldValue} (hvalue : v.SameButData w) :
    Payload.SameButData (p.insert name v) (q.insert name w) := by
  intro other
  rw [NameMap.find?_insert, NameMap.find?_insert]
  split
  · exact .some hvalue
  · exact h other

/-- A field may be taken away from both, as the callback is. -/
theorem erase (h : p.SameButData q) (name : String) :
    Payload.SameButData (p.erase name) (q.erase name) := by
  intro other
  rw [NameMap.find?_erase, NameMap.find?_erase]
  split
  · exact .none
  · exact h other

end SameButData

end Payload

/-! ## Calls

What a call brings besides its files is read without a look at them. The refusals of the payload
come before the files are put over it, so two related calls are refused alike. -/

namespace Call

/-- The files are put over the payload that the call would have without them. -/
theorem payload_eq_map_overlay (call : Call) (readOnly : Bool) :
    call.payload readOnly =
      ({ call with files := [] }.payload readOnly).map fun base => overlay base call.files := by
  have hsource : { call with files := [] }.source readOnly = call.source readOnly := rfl
  have hparse (source : Source) :
      { call with files := [] }.parseSource source = call.parseSource source := by
    cases source <;> rfl
  simp only [payload, hsource, hparse]
  split
  · rfl
  · split
    · rfl
    · split <;> rfl

/-- Files put over payloads, one after the other in both. -/
theorem overlay_sameButData {p q : Payload} {files files' : List (String × Upload)}
    (h : p.SameButData q)
    (hfiles : List.Forall₂ (fun file file' => file.1 = file'.1 ∧ file.2.SameButData file'.2)
      files files') :
    Payload.SameButData (overlay p files) (overlay q files') := by
  -- the induction is on the two lists of files; what they are put over stays related
  induction hfiles generalizing p q with
  | nil => exact h
  | @cons file file' _ _ hfile _ ih =>
    obtain ⟨hname, hdata⟩ := hfile
    refine ih ?_
    show Payload.SameButData (p.insert file.1 (.file file.2)) (q.insert file'.1 (.file file'.2))
    rw [← hname]
    exact h.insert file.1 (.file file.2 file'.2 hdata)

end Call

namespace Service

variable {service : Service} {error : ActionError}

/-- Whatever ran has failed with the error. If nothing ran this says nothing, and then the two
answers are the same for another reason (`InStep.answered`). -/
def FailsWith (service : Service) (error : ActionError) (invocations : List Invocation) : Prop :=
  ∀ invocation ∈ invocations, (service.perform invocation).value.result = .error error

/-- Two runs that take the same course: nothing runs and the answer is the same, or one action runs
and gives the answer, with payloads that differ in nothing but what is in their files. -/
inductive InStep (service : Service) : Traced Answer → Traced Answer → Prop
  | answered (answer : Answer) : InStep service (.pure answer) (.pure answer)
  | ran (help : String) (invocation other : Invocation) (h : invocation.SameButData other) :
    InStep service ((service.perform invocation).map (answer help invocation))
      ((service.perform other).map (answer help other))

/-- **Calls that differ in nothing but what is in their files are answered in step.** Either both
are refused alike, or both run the action, with payloads that differ in the same way. -/
theorem inStep_call {call other : Call} (h : call.SameButData other) (service : Service)
    (name : String) (version : ApiVersion) (caller : Identity) :
    service.InStep (service.call name version caller call)
      (service.call name version caller other) := by
  rcases hfind : service.registry.find? name with _ | action
  · rw [call_of_unknown hfind, call_of_unknown hfind]
    exact .answered _
  have hpayload := call.payload_eq_map_overlay action.readOnly
  have hpayload' := other.payload_eq_map_overlay action.readOnly
  rw [← h.rest] at hpayload'
  rcases hbase : { call with files := [] }.payload action.readOnly with refusal | base
  · rw [hbase] at hpayload hpayload'
    rw [call_of_refusal hfind hpayload, call_of_refusal hfind hpayload']
    exact .answered _
  · rw [hbase] at hpayload hpayload'
    rw [call_of_payload hfind hpayload, call_of_payload hfind hpayload']
    have hsame := Call.overlay_sameButData (.refl base) h.files
    -- the caller depends on whether there is a callback, and that shows in the orderly JSON
    refine .ran _ _ _ ⟨rfl, ?_, hsame.erase callbackField⟩
    simp only [invocation, Payload.contains_of_toJson_eq hsame.toJson_eq]

/-- **Runs in step that fail with one error give one answer.** -/
theorem InStep.value_eq {traced traced' : Traced Answer} (h : service.InStep traced traced')
    (hfails : service.FailsWith error traced.invocations)
    (hfails' : service.FailsWith error traced'.invocations) : traced.value = traced'.value := by
  cases h with
  | answered => rfl
  | ran help invocation other h =>
    have herror := hfails invocation (List.mem_singleton_self _)
    have herror' := hfails' other (List.mem_singleton_self _)
    simp only [Traced.value_map, answer, herror, herror', h.payload.shownAlike.classify]

/-- **What is in a file never gets out with an error.**

* Payloads that differ in nothing but what is in their files are shown alike, and every error is
  answered by the same status and the same record.
* Calls that differ in nothing but what is in their files get the same response, however it is
  framed, if what they run fails with the same error. -/
theorem file_contents_stay_inside :
    (∀ p q : Payload, p.SameButData q → p.ShownAlike q) ∧
    ∀ (service : Service) (name : String) (version : ApiVersion) (caller : Identity)
      (call other : Call) (error : ActionError), call.SameButData other →
        service.FailsWith error (service.call name version caller call).invocations →
        service.FailsWith error (service.call name version caller other).invocations →
        ∀ framing : Framing,
          framing.envelope (service.call name version caller call).value.status
              (service.call name version caller call).value.envelope =
            framing.envelope (service.call name version caller other).value.status
              (service.call name version caller other).value.envelope := by
  refine ⟨fun p q h => h.shownAlike, ?_⟩
  intro service name version caller call other error h hfails hfails' framing
  rw [(inStep_call h service name version caller).value_eq hfails hfails']

/-- An action that refuses every payload as malformed, and two files of three bytes. -/
theorem file_contents_stay_inside_three_bytes :
    let action : Action :=
      ⟨"store", false, none, .run fun _ _ => ⟨[], .error (.integrity "malformed")⟩⟩
    let service : Service := ⟨Registry.register .empty action, .default⟩
    let file (data : Bytes) : Upload := ⟨some "a.bin", none, data⟩
    let payload (data : Bytes) : Payload := NameMap.empty.insert "upload" (.file (file data))
    let call (data : Bytes) : Call :=
      ((Call.new .post).withForm [("title", "x")]).withFile "upload" (file data)
    let response (data : Bytes) : Response :=
      let answer := (service.call "store" .v3 .anonymous (call data)).value
      Framing.plain.envelope answer.status answer.envelope
    (payload [1, 2, 3]).ShownAlike (payload [7, 8, 9]) ∧
      response [1, 2, 3] = response [7, 8, 9] := by
  intro action service file payload call response
  have hfile : (file [1, 2, 3]).SameButData (file [7, 8, 9]) := ⟨rfl, rfl, rfl⟩
  obtain ⟨hshown, hsame⟩ := file_contents_stay_inside
  refine ⟨?_, ?_⟩
  · exact hshown _ _ ((Payload.SameButData.refl .empty).insert "upload" (.file _ _ hfile))
  · have hfails (data : Bytes) : service.FailsWith (.integrity "malformed")
        (service.call "store" .v3 .anonymous (call data)).invocations := by
      intro invocation hmem
      obtain ⟨found, payload, hfind, -, rfl⟩ := ran_of_mem_call hmem
      obtain rfl := Option.some.inj (hfind.symm.trans (show _ = some action from rfl))
      rfl
    exact hsame service "store" .v3 .anonymous (call [1, 2, 3]) (call [7, 8, 9]) _
      ⟨rfl, .cons ⟨rfl, hfile⟩ .nil⟩ (hfails _) (hfails _) .plain

end Service

end ActionGateway
