import ActionGateway.Call.Payload
import ActionGateway.Proofs.Params

/-!
# Where payloads come from

`Call.payload` in terms of its parts: `Call.payload_eq_ok_iff` says when a call has a payload and
which, and `Call.find?_overlay` what the uploaded files do to it. Two consequences carry the rest:

* the payload of a **retrieval** is that of its query, if it has one
  (`Call.contains_payload_of_retrieval`);
* the query has **no part** in the payload for an action with side effects
  (`Call.payload_with_query`).

`Call.read` hands the method and the query of a request through unseen (`Call.read_eq_map`), so a
request that differs in one of them makes the same call but for it.

These lemmas are what other modules know of payloads. They unfold `Call.payload` and `Call.read` no
further.
-/

namespace ActionGateway

/-! ## Requests that differ

The statements about methods and queries compare a request with one that has another method, or
another query, and is the same besides. -/

/-- The request with another query, or with none. -/
def Request.withQuery (request : Request) (query : Option String) : Request :=
  { request with target := { request.target with query := query } }

/-- The request with another method. -/
def Request.withMethod (request : Request) (method : Method) : Request :=
  { request with method := method }

/-- The headers and the body of a request, without its method and its target. -/
def Request.contents (request : Request) : Request :=
  { request with method := .get, target := ⟨"", none⟩ }

/-! ## Methods -/

/-- A method that only retrieves carries no form. -/
theorem Method.carriesForm_eq_false_of_isRetrieval {method : Method}
    (h : method.isRetrieval = true) : method.carriesForm = false := by
  cases method <;> first | rfl | cases h

/-- Two methods only retrieve. -/
theorem Method.isRetrieval_iff {method : Method} :
    method.isRetrieval = true ↔ method = .get ∨ method = .head := by
  cases method <;> simp [isRetrieval]

/-- One method updates what there is. -/
theorem Method.isUpdate_iff {method : Method} : method.isUpdate = true ↔ method = .put := by
  cases method <;> simp [isUpdate]

/-- Two methods bring a form with them. -/
theorem Method.carriesForm_iff {method : Method} :
    method.carriesForm = true ↔ method = .post ∨ method = .put := by
  cases method <;> simp [carriesForm]

namespace Call

/-! ## Files

Files are put over a payload one after the other, each in the place of whatever its field held
before. So of several files of one name the last stands, which is the first from the end. -/

/-- **The last file of a name stands for its field**; the other fields stay as they are. The files
are searched from the end, and the payload only where there is none of the name. -/
theorem find?_overlay (base : Payload) (files : List (String × Upload)) (name : String) :
    (overlay base files).find? name =
      ((Entries.find? name files.reverse).map FieldValue.file).or (base.find? name) := by
  -- the payload changes with each file: what the rest is put over holds the first file already
  induction files generalizing base with
  | nil => rfl
  | cons file rest ih =>
    obtain ⟨other, upload⟩ := file
    have hstep : overlay base ((other, upload) :: rest) =
        overlay (base.insert other (.file upload)) rest := rfl
    rw [hstep, ih, NameMap.find?_insert, List.reverse_cons, Entries.find?_append, Option.map_or,
      Option.or_assoc]
    -- both sides ask for the name among the rest first, and differ in what they do if it is not
    -- there
    congr 1
    by_cases h : other = name
    · rw [if_pos h, Entries.find?, if_pos h, Option.map_some, Option.some_or]
    · rw [if_neg h, Entries.find?_cons_ne h, Entries.find?_nil, Option.map_none, Option.none_or]

/-- Files take no field away. -/
theorem contains_overlay {base : Payload} {name : String} (h : base.contains name = true)
    (files : List (String × Upload)) : (overlay base files).contains name = true := by
  rw [NameMap.contains] at h ⊢
  rw [find?_overlay, Option.isSome_or, h, Bool.or_true]

/-! ## The payload of a call

Three checks stand between a call and its payload, and each has a refusal of its own: the method,
the text of the source, and whether an update brings anything. `payload_eq_ok_iff` says what has
passed all of them; the other lemmas of the section are about retrievals. -/

/-- **When a call has a payload:** its method suits the action, its source can be read, and an
update brings something. The files are put over what the source gives. -/
theorem payload_eq_ok_iff {call : Call} {readOnly : Bool} {payload : Payload} :
    call.payload readOnly = .ok payload ↔
      (readOnly = true ∨ call.method.isRetrieval = false) ∧
        ∃ base, call.parseSource (call.source readOnly) = .ok base ∧
          (call.method.isUpdate = false ∨ base.isEmpty = false) ∧
          payload = overlay base call.files := by
  rw [Call.payload]
  split
  next hmethod =>
    simp only [Bool.and_eq_true, Bool.not_eq_true'] at hmethod
    simp [hmethod.1, hmethod.2]
  next hmethod =>
    have hsuits : readOnly = true ∨ call.method.isRetrieval = false := by
      cases readOnly
      · exact .inr (by simpa using hmethod)
      · exact .inl rfl
    split
    next error hparse => simp [hparse]
    next base hparse =>
      simp only [hsuits, true_and, hparse, Except.ok.injEq, exists_eq_left']
      split
      next hempty =>
        simp only [Bool.and_eq_true] at hempty
        simp [hempty.1, hempty.2]
      next hempty =>
        have hbrings : call.method.isUpdate = false ∨ base.isEmpty = false := by
          cases hupdate : call.method.isUpdate
          · exact .inl rfl
          · exact .inr (by simpa [hupdate] using hempty)
        rw [Except.ok.injEq, and_iff_right hbrings]
        exact eq_comm

/-- Input by a retrieval is refused where the action has side effects. -/
theorem payload_of_retrieval_of_write {call : Call} (h : call.method.isRetrieval = true) :
    call.payload false = .error .methodNotAllowed := by
  rw [Call.payload, h]
  rfl

/-- The source of a retrieval is its query, if it has one. -/
theorem source_of_retrieval {call : Call} (h : call.method.isRetrieval = true)
    (hquery : call.query ≠ []) : call.source true = .query := by
  have hempty : call.query.isEmpty = false := List.isEmpty_eq_false_iff.mpr hquery
  simp [source, Method.carriesForm_eq_false_of_isRetrieval h, hempty]

/-- **What the query of a retrieval names is in its payload**, if the call has one at all. No other
source comes before the query there, and files only add to it. -/
theorem contains_payload_of_retrieval {call : Call} {readOnly : Bool} {payload : Payload}
    {name : String} (h : call.method.isRetrieval = true)
    (hfirst : (call.query.first? name).isSome = true)
    (hpayload : call.payload readOnly = .ok payload) : payload.contains name = true := by
  obtain ⟨hsuits, base, hparse, -, rfl⟩ := payload_eq_ok_iff.mp hpayload
  -- a retrieval has a payload for reading alone
  obtain rfl : readOnly = true := by
    rcases hsuits with hread | hmethod
    · exact hread
    · rw [h] at hmethod
      cases hmethod
  have hquery : call.query ≠ [] := by
    intro hnil
    rw [hnil] at hfirst
    cases hfirst
  rw [source_of_retrieval h hquery] at hparse
  obtain rfl := Except.ok.inj hparse
  refine contains_overlay ?_ call.files
  rw [Params.contains_toPayload, hfirst]

/-! ## The query has no part in writing

An action with side effects takes its input from a form or from the body. The source is chosen
without a look at the query then, and none of the sources that can be chosen reads it. -/

/-- The source for an action with side effects is never the query. -/
theorem source_write_ne_query (call : Call) : call.source false ≠ .query := by
  rw [source]
  split
  · exact fun h => nomatch h
  · rw [Bool.false_and, if_neg Bool.false_ne_true]
    split <;> exact fun h => nomatch h

/-- **For an action with side effects the payload does not depend on the query**: it is not one of
the sources that are asked. -/
theorem payload_with_query (call : Call) (query : Params) :
    { call with query := query }.payload false = call.payload false := by
  have hparse : ∀ source, source ≠ .query →
      { call with query := query }.parseSource source = call.parseSource source := by
    intro source hsource
    cases source with
    | query => exact absurd rfl hsource
    | form => rfl
    | body => rfl
    | nothing => rfl
  have hsource : { call with query := query }.source false = call.source false := rfl
  rw [Call.payload, Call.payload, hsource, hparse _ (source_write_ne_query call)]

/-! ## Reading a request

A call is made of the head of a request first, and then filled from its body. The second step reads
the body and the media type, and copies the method and the query as they are; `readBody_with_head`
and `readParts_with_head` say so of either kind of body. -/

/-- A body is read without a look at the method and the query. -/
theorem readBody_with_head (call : Call) (method : Method) (query : Params) (limit : Option Nat)
    (request : Request) :
    { call with method := method, query := query }.readBody limit request =
      (call.readBody limit request).map fun call =>
        { call with method := method, query := query } := by
  rcases hbody : request.readBody limit with _ | body
  · simp only [readBody, hbody]
    rfl
  · simp only [readBody, hbody]
    split <;> rfl

/-- Parts are read so too, in whatever way they fail. -/
theorem readParts_with_head (call : Call) (method : Method) (query : Params) (limit : Option Nat)
    (request : Request) :
    { call with method := method, query := query }.readParts limit request =
      (call.readParts limit request).map fun call =>
        { call with method := method, query := query } := by
  -- there may be no boundary, the body may be too long, and the parts may be at fault
  rcases hboundary : (call.contentType.bind MediaType.parse?).bind MediaType.boundary? with
    _ | boundary
  · simp only [readParts, hboundary]
    rfl
  · rcases hbody : request.readBody limit with _ | body
    · simp only [readParts, hboundary, hbody]
      rfl
    · rcases hparse : Multipart.parse boundary body with fault | parts
      · simp only [readParts, hboundary, hbody, hparse]
        rfl
      · simp only [readParts, hboundary, hbody, hparse]
        rfl

/-- **The method and the query of a request are handed through unseen.** What the call is besides
depends on the contents of the request alone. -/
theorem read_eq_map (limit : Option Nat) (request : Request) :
    read limit request =
      (read limit request.contents).map fun call =>
        { call with method := request.method, query := queryParams request.target.query } := by
  have hhead : ofHead request =
      { ofHead request.contents with
        method := request.method, query := queryParams request.target.query } := rfl
  have hbody : request.readBody limit = request.contents.readBody limit := by
    cases limit <;> rfl
  have hreadBody (call : Call) :
      call.readBody limit request = call.readBody limit request.contents := by
    rw [readBody, readBody, hbody]
  have hreadParts (call : Call) :
      call.readParts limit request = call.readParts limit request.contents := by
    rw [readParts, readParts, hbody]
  have hmultipart : (ofHead request).isMultipart = (ofHead request.contents).isMultipart := rfl
  simp only [read, hmultipart, hreadBody, hreadParts]
  split
  · rw [hhead, readParts_with_head]
  · rw [hhead, readBody_with_head]

/-- **A request with another query makes the same call but for the query.** In particular it is read
or refused alike. -/
theorem read_withQuery (limit : Option Nat) (request : Request) (query : Option String) :
    read limit (request.withQuery query) =
      (read limit request).map fun call => { call with query := queryParams query } := by
  have hcontents : (request.withQuery query).contents = request.contents := rfl
  rw [read_eq_map, read_eq_map limit request, hcontents]
  cases read limit request.contents <;> rfl

/-- **A request with another method makes the same call but for the method.** -/
theorem read_withMethod (limit : Option Nat) (request : Request) (method : Method) :
    read limit (request.withMethod method) =
      (read limit request).map fun call => { call with method := method } := by
  have hcontents : (request.withMethod method).contents = request.contents := rfl
  rw [read_eq_map, read_eq_map limit request, hcontents]
  cases read limit request.contents <;> rfl

/-- The method and the query of a request are those of the call that it makes. -/
theorem method_and_query_of_read {limit : Option Nat} {request : Request} {call : Call}
    (h : read limit request = .ok call) :
    call.method = request.method ∧ call.query = queryParams request.target.query := by
  rw [read_eq_map] at h
  cases hread : read limit request.contents with
  | error refusal =>
    rw [hread] at h
    cases h
  | ok contents =>
    rw [hread] at h
    obtain rfl := Except.ok.inj h
    exact ⟨rfl, rfl⟩

end Call

end ActionGateway
