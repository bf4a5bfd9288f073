import ActionGateway.Proofs.Extraction

/-!
# One source for each call

A call can bring a form, a query, a body and files all at once, and only one of the first three
counts. `Call.Selects` says which, in terms of what the call brings: the first of form, query and
body that is there and is admitted, or **nothing**. The main result, `Call.payloadContract`, says
that the payload comes from the source that is selected and from the files, and from nowhere else:
neither what the other sources hold nor whether they could be read makes a difference.

Nothing is assumed of the call. A form may stand beside a query and a body, a query may be on a
request that writes, and a document may be broken; the contract says of each what comes of it.
-/

namespace ActionGateway

namespace Call

variable {call other : Call} {readOnly : Bool} {source : Source}

/-! ## Selection

`Call.source` asks three questions in turn, and `Call.Selects` is the table of their answers: each
case says why none of the sources before it was taken. The conditions are spelled out in terms of
the method, the form, the query, the body and the media type. -/

/-- The call brings form fields, and its method carries them. -/
def BringsForm (call : Call) : Prop :=
  (call.method = .post ∨ call.method = .put) ∧ call.form ≠ []

/-- The call brings a query, and the action admits one. -/
def BringsQuery (call : Call) (readOnly : Bool) : Prop :=
  readOnly = true ∧ call.query ≠ []

/-- The call brings a body that is not declared as a form in several parts. -/
def BringsBody (call : Call) : Prop :=
  call.body ≠ [] ∧ ¬ ∃ parameters, call.contentType = some ("multipart/form-data" ++ parameters)

/-- The source that counts: the first of form, query and body that the call brings. -/
inductive Selects (call : Call) (readOnly : Bool) : Source → Prop
  | form (hform : call.BringsForm) : Selects call readOnly .form
  | query (hform : ¬ call.BringsForm) (hquery : call.BringsQuery readOnly) :
    Selects call readOnly .query
  | body (hform : ¬ call.BringsForm) (hquery : ¬ call.BringsQuery readOnly)
    (hbody : call.BringsBody) : Selects call readOnly .body
  | nothing (hform : ¬ call.BringsForm) (hquery : ¬ call.BringsQuery readOnly)
    (hbody : ¬ call.BringsBody) : Selects call readOnly .nothing

/-- A media type is declared if the header begins with it, whatever parameters follow. -/
theorem declares_eq_true_iff {contentType : Option String} {mediaType : String} :
    declares contentType mediaType = true ↔
      ∃ parameters, contentType = some (mediaType ++ parameters) := by
  cases contentType with
  | none => simp [declares]
  | some s =>
    simp only [declares, List.isPrefixOf_iff_prefix, Option.some.injEq]
    constructor
    · rintro ⟨rest, hrest⟩
      refine ⟨String.ofList rest, String.toList_inj.mp ?_⟩
      rw [String.toList_append, String.toList_ofList, hrest]
    · rintro ⟨parameters, rfl⟩
      exact ⟨parameters.toList, String.toList_append.symm⟩

/-- What is checked for a form is that the call brings one. -/
theorem bringsForm_iff :
    (call.method.carriesForm && !call.form.isEmpty) = true ↔ call.BringsForm := by
  simp [BringsForm, Method.carriesForm_iff]

/-- The same for a query. -/
theorem bringsQuery_iff :
    (readOnly && !call.query.isEmpty) = true ↔ call.BringsQuery readOnly := by
  simp [BringsQuery]

/-- The same for a body. -/
theorem bringsBody_iff : (!call.body.isEmpty && !call.isMultipart) = true ↔ call.BringsBody := by
  rw [BringsBody, ← declares_eq_true_iff]
  simp [isMultipart, multipartForm]

/-- The source that is read is selected. -/
theorem selects_source (call : Call) (readOnly : Bool) :
    call.Selects readOnly (call.source readOnly) := by
  rw [Call.source]
  split
  next hform => exact .form (bringsForm_iff.mp hform)
  next hform =>
    rw [bringsForm_iff] at hform
    split
    next hquery => exact .query hform (bringsQuery_iff.mp hquery)
    next hquery =>
      rw [bringsQuery_iff] at hquery
      split
      next hbody => exact .body hform hquery (bringsBody_iff.mp hbody)
      next hbody => exact .nothing hform hquery (mt bringsBody_iff.mpr hbody)

/-- No two sources are selected. -/
theorem Selects.unique {source' : Source} (h : call.Selects readOnly source)
    (h' : call.Selects readOnly source') : source = source' := by
  -- each case denies what the ones before it ask for
  cases h <;> cases h' <;> first | rfl | contradiction

/-- **One source is selected, and it is the one that is read.** The rule says of each source when it
is selected; that exactly one is follows from the rule alone. -/
theorem selects_iff : call.Selects readOnly source ↔ call.source readOnly = source := by
  constructor
  · exact (selects_source call readOnly).unique
  · rintro rfl
    exact selects_source call readOnly

/-! ## Reading the source

What a source is read as depends on what the call brings there, and on no other part of it. A source
that cannot be read has a refusal of its own; that an update is empty is found only after it has
been read. -/

/-- Two calls bring the same where a source is read. -/
def SameContents (call other : Call) : Source → Prop
  | .form => call.form = other.form
  | .query => call.query = other.query
  | .body => call.body = other.body
  | .nothing => True

/-- Equal contents are read as the same, or refused alike. -/
theorem SameContents.parseSource_eq (h : call.SameContents other source) :
    call.parseSource source = other.parseSource source := by
  cases source with
  | form => exact congrArg parseForm h
  | query => exact congrArg (fun query : Params => Except.ok query.toPayload) h
  | body => exact congrArg parseDocument h
  | nothing => rfl

/-- No document is refused for being an empty update. -/
theorem parseDocument_ne_emptyUpdate (raw : Bytes) : parseDocument raw ≠ .error .emptyUpdate := by
  rw [parseDocument]
  split
  · exact fun h => nomatch h
  · split <;> exact fun h => nomatch h

/-- That an update brings nothing is never found while its source is read. -/
theorem parseSource_ne_emptyUpdate (call : Call) (source : Source) :
    call.parseSource source ≠ .error .emptyUpdate := by
  cases source with
  | form =>
    rw [parseSource, parseForm]
    split
    · exact parseDocument_ne_emptyUpdate _
    · exact fun h => nomatch h
  | query => exact fun h => nomatch h
  | body => exact parseDocument_ne_emptyUpdate _
  | nothing => exact fun h => nomatch h

/-- Where the method suits the action, a source that cannot be read is the reason why the call is
refused. -/
theorem payload_of_parseSource_error {refusal : Refusal}
    (hsuits : readOnly = true ∨ call.method.isRetrieval = false)
    (hparse : call.parseSource (call.source readOnly) = .error refusal) :
    call.payload readOnly = .error refusal := by
  rw [Call.payload, hparse]
  rcases hsuits with rfl | hmethod
  · rfl
  · rw [hmethod, Bool.and_false]
    rfl

/-- **An update is refused for being empty** exactly when its source can be read and gives no field,
files or not. -/
theorem payload_eq_emptyUpdate_iff :
    call.payload readOnly = .error .emptyUpdate ↔
      call.method = .put ∧ call.parseSource (call.source readOnly) = .ok .empty := by
  rw [Call.payload]
  split
  next hmethod =>
    rw [Bool.and_eq_true] at hmethod
    simp only [Except.error.injEq, reduceCtorEq, false_iff]
    rintro ⟨hput, -⟩
    rw [hput] at hmethod
    exact Bool.false_ne_true hmethod.2
  next =>
    -- what refuses the source is another refusal; what is read may be empty
    rcases hparse : call.parseSource (call.source readOnly) with refusal | base
    · simp only [Except.error.injEq, reduceCtorEq, and_false, iff_false]
      rintro rfl
      exact call.parseSource_ne_emptyUpdate _ hparse
    · simp only [Except.ok.injEq, ← Method.isUpdate_iff, ← NameMap.isEmpty_iff,
        ← Bool.and_eq_true]
      split
      next hempty => exact iff_of_true rfl hempty
      next hempty =>
        simp only [reduceCtorEq, false_iff]
        exact hempty

/-! ## The contract -/

/-- The last of the uploaded files that have a name. -/
def LastFile (files : List (String × Upload)) (name : String) (file : Upload) : Prop :=
  ∃ front back, files = front ++ (name, file) :: back ∧ ∀ later ∈ back, later.1 ≠ name

/-- A field for which a file was uploaded holds the last one. -/
theorem find?_overlay_of_lastFile {files : List (String × Upload)} {name : String} {file : Upload}
    (h : LastFile files name file) (base : Payload) :
    (overlay base files).find? name = some (.file file) := by
  obtain ⟨front, back, rfl, hback⟩ := h
  have hfind : Entries.find? name (front ++ (name, file) :: back).reverse = some file := by
    refine Entries.find?_eq_some_iff_append.mpr ⟨back.reverse, front.reverse, by simp, ?_⟩
    intro later hlater
    exact hback later (List.mem_reverse.mp hlater)
  rw [find?_overlay, hfind, Option.map_some, Option.some_or]

/-- A field for which none was uploaded stays as it is. -/
theorem find?_overlay_of_no_file {files : List (String × Upload)} {name : String}
    (h : ∀ file ∈ files, file.1 ≠ name) (base : Payload) :
    (overlay base files).find? name = base.find? name := by
  have hfind : Entries.find? name files.reverse = none := by
    refine Entries.find?_eq_none_iff.mpr fun file hmem => ?_
    exact h _ (List.mem_reverse.mp hmem) rfl
  rw [find?_overlay, hfind, Option.map_none, Option.none_or]

/-- From where the payload of a call comes, and from where it does not. The fields speak of a
selected source, not of the one that is read, so that the contract can be understood without
`Call.source`; `selects_one` says that there is always exactly one. The third field compares two
calls, and says that nothing but the method, the selected source and the files has a part in the
payload; the others say what it is, and when there is none. -/
structure PayloadContract (call : Call) (readOnly : Bool) : Prop where
  /-- where the action has side effects a retrieval is refused, whatever it brings -/
  refused : readOnly = false → call.method = .get ∨ call.method = .head →
    call.payload readOnly = .error .methodNotAllowed
  /-- one source is selected -/
  selects_one : ∃ source, ∀ other, call.Selects readOnly other ↔ other = source
  /-- what the sources that are not selected hold makes no difference -/
  payload_eq : ∀ source other, call.Selects readOnly source → other.Selects readOnly source →
    call.method = other.method → call.SameContents other source → call.files = other.files →
      call.payload readOnly = other.payload readOnly
  /-- a payload has the fields of its source, but for those that hold an uploaded file -/
  find?_eq : ∀ source payload, call.Selects readOnly source →
    call.payload readOnly = .ok payload →
      ∃ base, call.parseSource source = .ok base ∧ ∀ name,
        (∀ file, LastFile call.files name file → payload.find? name = some (.file file)) ∧
        ((∀ file ∈ call.files, file.1 ≠ name) → payload.find? name = base.find? name)
  /-- a call has a payload if its method suits the action and its source can be read, unless it is
  an update and its source is empty -/
  accepted : ∀ source base, call.Selects readOnly source → call.parseSource source = .ok base →
    readOnly = true ∨ ¬ (call.method = .get ∨ call.method = .head) →
      call.method ≠ .put ∨ base ≠ .empty → ∃ payload, call.payload readOnly = .ok payload
  /-- an update is refused for being empty exactly when its source can be read and is empty -/
  eq_emptyUpdate_iff : ∀ source, call.Selects readOnly source →
    (call.payload readOnly = .error .emptyUpdate ↔
      call.method = .put ∧ call.parseSource source = .ok .empty)
  /-- a source that cannot be read is the reason for the refusal, and no other one is tried -/
  eq_error : ∀ source refusal, call.Selects readOnly source →
    readOnly = true ∨ ¬ (call.method = .get ∨ call.method = .head) →
      call.parseSource source = .error refusal → call.payload readOnly = .error refusal

/-- **Payloads never mix their sources.** This holds of every call, for reading and for writing. -/
theorem payloadContract (call : Call) (readOnly : Bool) : PayloadContract call readOnly := by
  have hsuits : readOnly = true ∨ ¬ (call.method = .get ∨ call.method = .head) →
      readOnly = true ∨ call.method.isRetrieval = false := by
    rw [← Method.isRetrieval_iff, Bool.not_eq_true]
    exact id
  constructor
  case refused =>
    rintro rfl hmethod
    exact payload_of_retrieval_of_write (Method.isRetrieval_iff.mpr hmethod)
  case selects_one =>
    exact ⟨call.source readOnly, fun other => selects_iff.trans eq_comm⟩
  case payload_eq =>
    intro source other hcall hother hmethod hsame hfiles
    rw [Call.payload, Call.payload, selects_iff.mp hcall, selects_iff.mp hother,
      hsame.parseSource_eq, hmethod, hfiles]
  case find?_eq =>
    intro source payload hselects hpayload
    obtain ⟨-, base, hparse, -, rfl⟩ := payload_eq_ok_iff.mp hpayload
    rw [selects_iff.mp hselects] at hparse
    refine ⟨base, hparse, fun name => ⟨fun file hfile => ?_, fun hnone => ?_⟩⟩
    · exact find?_overlay_of_lastFile hfile base
    · exact find?_overlay_of_no_file hnone base
  case accepted =>
    intro source base hselects hparse hmethod hbrings
    have hupdate : call.method.isUpdate = false ∨ base.isEmpty = false := by
      rw [← Bool.not_eq_true, ← Bool.not_eq_true, Method.isUpdate_iff, NameMap.isEmpty_iff]
      exact hbrings
    rw [← selects_iff.mp hselects] at hparse
    exact ⟨_, payload_eq_ok_iff.mpr ⟨hsuits hmethod, base, hparse, hupdate, rfl⟩⟩
  case eq_emptyUpdate_iff =>
    intro source hselects
    rw [payload_eq_emptyUpdate_iff, selects_iff.mp hselects]
  case eq_error =>
    intro source refusal hselects hmethod hparse
    exact payload_of_parseSource_error (hsuits hmethod) (by rw [selects_iff.mp hselects, hparse])

end Call

end ActionGateway
