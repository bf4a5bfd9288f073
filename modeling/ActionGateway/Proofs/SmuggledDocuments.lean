import ActionGateway.Proofs.BodyLimit
import ActionGateway.Proofs.UrlEncoding

/-!
# Documents in the names of form fields

Callers that can send nothing but forms write a JSON document where the name of a field stands, and
mark it with the value `1` or an empty one. Two questions decide whether this is safe.

* **Is it taken for the document?** A form of one marked pair has the payload of the call that
  brings the document as its body, for every text that could be meant
  (`Call.disguised_documents`).
* **Is anything else taken for one?** The mark is looked for in the first value alone and the name
  in all pairs, so a field that is given several times is taken for a document too if its first
  value looks like a mark. `Params.Smuggles` says when, and `Call.forms_are_data_unless_marked` that
  all other forms are data.
-/

namespace ActionGateway

/-! ## Marked forms

The service looks for the document in two steps. It asks for the only name of the form, over all
pairs, and then for the first value of that name. That the first value marks the name is all that is
asked of the values, and a form of one name may have any number of them. `Smuggles` says the same
about the pairs themselves, without the two look-ups. -/

/-- All the pairs have the document as their name, and the first value marks it as one. -/
structure Params.Smuggles (form : Params) (document : String) : Prop where
  named : ∀ pair ∈ form, pair.1 = document
  marked : form.head? = some (document, "1") ∨ form.head? = some (document, "")

namespace Call

variable {call : Call} {readOnly : Bool} {document : String}

/-- The forms that are read as documents. From left to right the two look-ups are taken apart; from
right to left the first pair has the name and decides about the mark. -/
theorem smuggledDocument?_eq_some_iff {form : Params} :
    smuggledDocument? form = some document ↔ form.Smuggles document := by
  rw [smuggledDocument?, Option.bind_eq_some_iff]
  rcases form with _ | ⟨⟨first, value⟩, rest⟩
  · constructor
    · rintro ⟨name, hname, -⟩
      cases hname
    · rintro ⟨-, hmarked | hmarked⟩ <;> cases hmarked
  · have hfirst : Params.first? ((first, value) :: rest) first = some value :=
      Entries.find?_cons_self first value rest
    constructor
    · rintro ⟨name, hname, hread⟩
      -- all pairs have the name that was found, so the first one has it
      have hnamed := (Params.onlyName?_eq_some_iff.mp hname).2
      obtain rfl : first = name := hnamed _ List.mem_cons_self
      rw [hfirst] at hread
      dsimp only at hread
      split at hread
      next hmark =>
        obtain rfl := Option.some.inj hread
        exact ⟨hnamed, hmark.imp (fun h => by rw [h]; rfl) fun h => by rw [h]; rfl⟩
      next => cases hread
    · rintro ⟨hnamed, hmarked⟩
      obtain rfl : first = document := hnamed _ List.mem_cons_self
      have hmark : value = "1" ∨ value = "" := by
        simpa only [List.head?_cons, Option.some.injEq, Prod.mk.injEq, true_and] using hmarked
      refine ⟨first, Params.onlyName?_eq_some_iff.mpr ⟨List.cons_ne_nil _ _, hnamed⟩, ?_⟩
      rw [hfirst]
      exact if_pos hmark

/-- A form that stands for a document is read like the body that holds the document. -/
theorem parseForm_of_smuggles {form : Params} (h : form.Smuggles document) :
    parseForm form = parseDocument (Utf8.encode document) := by
  rw [parseForm, smuggledDocument?_eq_some_iff.mpr h]

/-- Any other form is folded, and nothing can go wrong with it. -/
theorem parseForm_of_not_smuggles {form : Params} (h : ∀ document, ¬ form.Smuggles document) :
    parseForm form = .ok form.toPayload := by
  have hnone : smuggledDocument? form = none :=
    Option.eq_none_iff_forall_ne_some.mpr fun document hsome =>
      h document (smuggledDocument?_eq_some_iff.mp hsome)
  rw [parseForm, hnone]

/-! ## Payloads of documents

A document is an object, and its fields are JSON values of any kind; those of a form are texts and
lists of texts. So a payload shows which of the two it was made of: this is what tells a form that
was read as a document from one that was folded, even if the field has the same name in both. -/

/-- What a call makes of a JSON text, wherever it brings it: the fields of the object that the text
denotes, with the files put over them. An update needs a field. -/
def takeDocument (call : Call) (raw : Bytes) : Except Refusal Payload :=
  match parseDocument raw with
  | .error refusal => .error refusal
  | .ok payload =>
    if call.method.isUpdate && payload.isEmpty then .error .emptyUpdate
    else .ok (overlay payload call.files)

theorem isRetrieval_eq_false (hmethod : call.method = .post ∨ call.method = .put) :
    call.method.isRetrieval = false := by
  rcases hmethod with h | h <;> rw [h] <;> rfl

/-- The payload of a call whose source is read as a document. -/
theorem payload_eq_takeDocument {raw : Bytes} (hmethod : call.method = .post ∨ call.method = .put)
    (hparse : call.parseSource (call.source readOnly) = parseDocument raw) :
    call.payload readOnly = call.takeDocument raw := by
  rw [Call.payload, isRetrieval_eq_false hmethod, Bool.and_false, if_neg Bool.false_ne_true, hparse]
  rfl

/-- Fields of a document are JSON values. -/
theorem find?_of_parseDocument {raw : Bytes} {payload : Payload}
    (h : parseDocument raw = .ok payload) {name : String} {value : FieldValue}
    (hfind : payload.find? name = some value) : ∃ json, value = .json json := by
  rw [parseDocument] at h
  split at h
  · cases h
  next document hread =>
    split at h
    · cases h
    next fields hfields =>
      obtain rfl := Except.ok.inj h
      cases document with
      | obj members =>
        obtain rfl := Option.some.inj hfields
        rw [NameMap.find?_ofList] at hfind
        have hmem := Entries.mem_of_find?_eq_some hfind
        rw [List.mem_reverse, List.mem_map] at hmem
        obtain ⟨member, -, heq⟩ := hmem
        exact ⟨member.2, (Prod.mk.inj heq).2.symm⟩
      | _ => cases hfields

/-- Fields of a form are texts or lists, and no JSON values. -/
theorem find?_toPayload_ne_json (form : Params) (name : String) (json : Json) :
    form.toPayload.find? name ≠ some (.json json) := by
  rw [Params.find?_toPayload]
  split
  · exact fun h => nomatch h
  · match form.valuesOf name with
    | [] => exact fun h => nomatch h
    | [value] => exact fun h => nomatch h
    | first :: second :: rest => exact fun h => nomatch h

/-! ## Forms

A POST or PUT call with at least one pair takes its payload from the form, whatever else it brings.
What becomes of the form is decided by `Params.Smuggles`, and only the files are put over it
afterwards. So the two cases are the whole story, except where a file hides the field in which they
would differ. -/

section

variable (hmethod : call.method = .post ∨ call.method = .put) (hform : call.form ≠ [])

include hmethod hform

/-- Where there is a form and the method carries it, it is the source of the payload. -/
theorem source_of_form : call.source readOnly = .form :=
  selects_iff.mp (.form ⟨hmethod, hform⟩)

/-- The payload of a form that stands for a document. -/
theorem payload_of_smuggles (h : call.form.Smuggles document) :
    call.payload readOnly = call.takeDocument (Utf8.encode document) := by
  refine payload_eq_takeDocument hmethod ?_
  rw [source_of_form hmethod hform]
  exact parseForm_of_smuggles h

/-- The payload of any other form. It holds at least the field of the first pair, so an update is
not refused for being empty. -/
theorem payload_of_not_smuggles (h : ∀ document, ¬ call.form.Smuggles document) :
    call.payload readOnly = .ok (overlay call.form.toPayload call.files) := by
  have hsomething : call.form.toPayload.isEmpty = false := by
    obtain ⟨⟨name, value⟩, rest, hcons⟩ := List.exists_cons_of_ne_nil hform
    have hcontains : call.form.toPayload.contains name = true := by
      rw [Params.contains_toPayload, hcons, Params.first?, Entries.find?_cons_self]
      rfl
    rw [← Bool.not_eq_true, NameMap.isEmpty_iff]
    intro hempty
    rw [hempty] at hcontains
    cases hcontains
  refine payload_eq_ok_iff.mpr ⟨.inr (isRetrieval_eq_false hmethod), _, ?_, .inr hsomething, rfl⟩
  rw [source_of_form hmethod hform]
  exact parseForm_of_not_smuggles h

/-- **A form that stands for a document is not data**, unless a file hides the difference. Folded,
the form would have a field under the name of the document, which is a text or a list; read as a
document it has a JSON value there, or no such field, or it is refused. -/
theorem payload_ne_of_smuggles (h : call.form.Smuggles document)
    (hfiles : ∀ file ∈ call.files, file.1 ≠ document) :
    call.payload readOnly ≠ .ok (overlay call.form.toPayload call.files) := by
  rw [payload_of_smuggles hmethod hform h, takeDocument]
  rcases hparse : parseDocument (Utf8.encode document) with refusal | base
  · exact fun heq => nomatch heq
  · dsimp only
    split
    · exact fun heq => nomatch heq
    · intro heq
      have hfind := congrArg (NameMap.find? · document) (Except.ok.inj heq)
      simp only [find?_overlay_of_no_file hfiles] at hfind
      -- the field is there in the form, and in the document it would be a JSON value
      have hcontains : (call.form.toPayload.find? document).isSome = true := by
        have hfirst := Params.contains_toPayload call.form document
        rw [NameMap.contains] at hfirst
        obtain ⟨pair, rest, hcons⟩ := List.exists_cons_of_ne_nil hform
        obtain rfl : pair.1 = document := h.named pair (hcons ▸ List.mem_cons_self)
        rw [hfirst, hcons, Params.first?, Entries.find?_cons_self]
        rfl
      obtain ⟨value, hvalue⟩ := Option.isSome_iff_exists.mp hcontains
      obtain ⟨json, rfl⟩ := find?_of_parseDocument hparse (hfind.trans hvalue)
      exact find?_toPayload_ne_json call.form document json hvalue

end

/-- What becomes of a form. -/
structure FormContract (call : Call) (readOnly : Bool) : Prop where
  /-- a form is data, unless it stands for a document -/
  data : (∀ document, ¬ call.form.Smuggles document) →
    call.payload readOnly = .ok (overlay call.form.toPayload call.files)
  /-- in data a field that is given several times is the list of its values, in their order -/
  list : (∀ document, ¬ call.form.Smuggles document) → ∀ payload,
    call.payload readOnly = .ok payload → ∀ name, 2 ≤ (call.form.valuesOf name).length →
      (∀ file ∈ call.files, file.1 ≠ name) →
        payload.find? name = some (.list (call.form.valuesOf name))
  /-- a form that stands for a document is read as one -/
  document : ∀ document, call.form.Smuggles document →
    call.payload readOnly = call.takeDocument (Utf8.encode document)
  /-- and then it is not data, unless a file has the document as its name -/
  not_data : ∀ document, call.form.Smuggles document →
    (∀ file ∈ call.files, file.1 ≠ document) →
      call.payload readOnly ≠ .ok (overlay call.form.toPayload call.files)

/-- **Forms are data unless they are marked.** A form is read as a document exactly if all its pairs
have one name and the first value is `1` or empty, however many pairs there are. In all other forms
a field that is given several times is the list of its values.

That one pair is meant and any number is taken is where the code leaves its own rule: a document in
disguise is a form of exactly one pair. A repeated field whose first value happens to be a mark is
caught by it. -/
theorem forms_are_data_unless_marked (hmethod : call.method = .post ∨ call.method = .put)
    (hform : call.form ≠ []) (readOnly : Bool) : FormContract call readOnly := by
  constructor
  case data => exact payload_of_not_smuggles hmethod hform
  case list =>
    intro hdata payload hpayload name hrepeated hfiles
    rw [payload_of_not_smuggles hmethod hform hdata] at hpayload
    obtain rfl := Except.ok.inj hpayload
    rw [find?_overlay_of_no_file hfiles, Params.find?_toPayload]
    match hvalues : call.form.valuesOf name, hrepeated with
    | first :: second :: rest, _ => exact if_neg (List.cons_ne_nil _ _)
  case document => exact fun document => payload_of_smuggles hmethod hform
  case not_data => exact fun document => payload_ne_of_smuggles hmethod hform

/-- A field that is given twice, with `1` as its first value. -/
theorem forms_are_data_unless_marked_tags :
    let call : Call := (Call.new .post).withForm [("tag", "1"), ("tag", "2")]
    call.form.Smuggles "tag" ∧
      call.payload false = call.takeDocument (Utf8.encode "tag") ∧
      call.payload false ≠ .ok (overlay call.form.toPayload call.files) := by
  intro call
  have hsmuggles : call.form.Smuggles "tag" := ⟨by decide, .inl rfl⟩
  have hcontract : FormContract call false :=
    forms_are_data_unless_marked (.inl rfl) (by decide) false
  exact ⟨hsmuggles, hcontract.document "tag" hsmuggles,
    hcontract.not_data "tag" hsmuggles fun file hfile => nomatch hfile⟩

/-- **Not every repeated field is data**: a field `tag` with the values `1` and `2` is taken for the
document `tag`, which is no JSON, and the call is refused; with the values the other way round it is
the list of them. -/
theorem repeated_marks_are_refused :
    let call : Call := (Call.new .post).withForm [("tag", "1"), ("tag", "2")]
    let turned : Call := (Call.new .post).withForm [("tag", "2"), ("tag", "1")]
    call.method = .post ∧ call.form.length = 2 ∧ call.files = [] ∧
      call.form.toPayload.find? "tag" = some (.list ["1", "2"]) ∧
      ∀ readOnly,
        call.payload readOnly = .error (.malformedJson ⟨.expectedWord, 1, 2⟩ "tag") ∧
          call.payload readOnly ≠ .ok (overlay call.form.toPayload call.files) ∧
          turned.payload readOnly = .ok (overlay turned.form.toPayload turned.files) := by
  intro call turned
  have hsmuggles : call.form.Smuggles "tag" := ⟨by decide, .inl rfl⟩
  have hdocument : parseDocument (Utf8.encode "tag") =
      .error (.malformedJson ⟨.expectedWord, 1, 2⟩ "tag") :=
    rfl
  have hrefused (readOnly : Bool) :
      call.payload readOnly = .error (.malformedJson ⟨.expectedWord, 1, 2⟩ "tag") := by
    rw [payload_of_smuggles (.inl rfl) (List.cons_ne_nil _ _) hsmuggles, takeDocument, hdocument]
  refine ⟨rfl, rfl, rfl, Params.find?_toPayload _ _, fun readOnly => ⟨hrefused readOnly, ?_, ?_⟩⟩
  · rw [hrefused readOnly]
    exact fun heq => nomatch heq
  · refine payload_of_not_smuggles (.inl rfl) (List.cons_ne_nil _ _) fun document h => ?_
    rcases h.marked with hmarked | hmarked <;>
      exact absurd (Prod.mk.inj (Option.some.inj hmarked)).2 (by decide)

/-! ## Documents in disguise

Here the form is of one marked pair, as it is meant, and is compared with a call whose body is the
document. Both are read by the same function from the same bytes, so they have the same payload and
are refused for the same reason, with the same message. The text is not looked at, so it need not be
JSON; it may not be empty, since an empty body would not be the source of the other call. -/

/-- The call brings a text as its body, and nothing else. -/
structure BringsText (call : Call) (text : String) : Prop where
  body : call.body = Utf8.encode text
  kind : ¬ ∃ parameters, call.contentType = some ("multipart/form-data" ++ parameters)
  form : call.form = []
  query : call.query = []
  files : call.files = []

/-- The call brings a text as the name of one marked pair, and no query and no files. -/
structure SmugglesText (call : Call) (text : String) : Prop where
  form : call.form = [(text, "1")] ∨ call.form = [(text, "")]
  query : call.query = []
  files : call.files = []

end Call

/-- The request carries a url-encoded form of one marked pair, whose name is the text. -/
structure Request.SmugglesText (request : Request) (limit : Option Nat) (text : String) : Prop where
  kind : ∃ parameters, (request.headers.first? "content-type").bind HeaderValue.text? =
    some ("application/x-www-form-urlencoded" ++ parameters)
  query : queryParams request.target.query = []
  form : UrlEncoded.parse request.bytes = [(text, "1")] ∨
    UrlEncoded.parse request.bytes = [(text, "")]
  within : ∀ most, limit = some most → request.bytes.length ≤ most

namespace Call

variable {call other : Call} {readOnly : Bool} {text : String}

/-- A form of one marked pair stands for the name of that pair. -/
theorem SmugglesText.smuggles (h : call.SmugglesText text) : call.form.Smuggles text := by
  rcases h.form with hform | hform
  · rw [hform]
    exact ⟨List.forall_mem_singleton.mpr rfl, .inl rfl⟩
  · rw [hform]
    exact ⟨List.forall_mem_singleton.mpr rfl, .inr rfl⟩

/-- The payload of a form of one marked pair is that of the text. -/
theorem SmugglesText.payload_eq (h : call.SmugglesText text)
    (hmethod : call.method = .post ∨ call.method = .put) :
    call.payload readOnly = call.takeDocument (Utf8.encode text) := by
  have hform : call.form ≠ [] := by
    rcases h.form with hform | hform <;> rw [hform] <;> exact List.cons_ne_nil _ _
  exact payload_of_smuggles hmethod hform h.smuggles

/-- The payload of a body is that of the text. The call brings no form and no query, so the body is
its source. -/
theorem BringsText.payload_eq (h : call.BringsText text) (htext : text ≠ "")
    (hmethod : call.method = .post ∨ call.method = .put) :
    call.payload readOnly = call.takeDocument (Utf8.encode text) := by
  have hbody : call.body ≠ [] := by
    rw [h.body]
    exact fun hnil => htext (Utf8.encode_injective hnil)
  have hsource : call.source readOnly = .body :=
    selects_iff.mp (.body (fun hform => hform.2 h.form) (fun hquery => hquery.2 h.query)
      ⟨hbody, h.kind⟩)
  refine payload_eq_takeDocument hmethod ?_
  rw [hsource, parseSource, h.body]

/-- A url-encoded body is a form, and the call brings nothing else. -/
theorem read_of_smugglesText {request : Request} {limit : Option Nat}
    (h : request.SmugglesText limit text) :
    ∃ call, read limit request = .ok call ∧ call.method = request.method ∧
      call.SmugglesText text := by
  obtain ⟨parameters, hkind⟩ := h.kind
  have hbody : request.readBody limit = some request.bytes :=
    Request.readBody_of_within h.within
  -- the two kinds of form are told apart by how the media type begins
  have hmultipart : (ofHead request).isMultipart = false := by
    have hother : multipartForm.toList.isPrefixOf
        ("application/x-www-form-urlencoded" ++ parameters).toList = false := by
      rw [String.toList_append]
      rfl
    rw [isMultipart, ofHead, hkind]
    exact hother
  have hform : declares (ofHead request).contentType urlEncodedForm = true :=
    declares_eq_true_iff.mpr ⟨parameters, hkind⟩
  refine ⟨{ ofHead request with form := UrlEncoded.parse request.bytes }, ?_, rfl, h.form,
    h.query, rfl⟩
  rw [read, hmultipart, if_neg Bool.false_ne_true, readBody, hbody]
  exact if_pos hform

/-- **A document in a form is the document in disguise.** Let a call bring a text as its body, JSON
or not. A call that brings it as the name of one marked pair has the same payload or is refused for
the same reason, and so is every request whose url-encoded body is that pair. -/
theorem disguised_documents (htext : text ≠ "") (hother : other.BringsText text)
    (hmethod : other.method = .post ∨ other.method = .put) (readOnly : Bool) :
    (∀ call : Call, call.method = other.method → call.SmugglesText text →
        call.payload readOnly = other.payload readOnly) ∧
      ∀ limit request, request.method = other.method → request.SmugglesText limit text →
        ∃ call, read limit request = .ok call ∧
          call.payload readOnly = other.payload readOnly := by
  have hsame (call : Call) (hcall : call.method = other.method)
      (hsmuggles : call.SmugglesText text) :
      call.payload readOnly = other.payload readOnly := by
    rw [hsmuggles.payload_eq (hcall ▸ hmethod), hother.payload_eq htext hmethod]
    simp only [takeDocument, hcall, hsmuggles.files, hother.files]
  refine ⟨hsame, fun limit request hrequest hsmuggles => ?_⟩
  obtain ⟨call, hread, hcall, hcarries⟩ := read_of_smugglesText hsmuggles
  exact ⟨call, hread, hsame call (hcall.trans hrequest) hcarries⟩

/-- A text that is no JSON and has to be escaped in a form, sent as an update. -/
theorem disguised_documents_escaped :
    let text := "\x7b\x22a&b\x22: ключ"
    let form := UrlEncoded.encode text ++ "=" ++ UrlEncoded.encode "1"
    let request : Request :=
      ⟨.put, ⟨"/api/action/touch", none⟩,
        [("content-type", Utf8.encode "application/x-www-form-urlencoded")], [Utf8.encode form]⟩
    let other : Call := (Call.new .put).withBody "application/json" (Utf8.encode text)
    ((Call.new .put).withForm [(text, "")]).payload true = other.payload true ∧
      ∃ call, read (some 100) request = .ok call ∧ call.payload true = other.payload true := by
  intro text form request other
  have hbrings : other.BringsText text := by
    refine ⟨rfl, ?_, rfl, rfl, rfl⟩
    rw [← declares_eq_true_iff]
    decide
  have hbytes : request.bytes = Utf8.encode form := List.append_nil _
  have hsmuggles : request.SmugglesText (some 100) text := by
    refine ⟨⟨"", by decide⟩, rfl, .inl ?_, ?_⟩
    · rw [hbytes]
      exact UrlEncoded.parse_pair text "1"
    · intro most hmost
      obtain rfl := Option.some.inj hmost
      decide
  obtain ⟨hcalls, hrequests⟩ := disguised_documents (by decide) hbrings (.inr rfl) true
  exact ⟨hcalls _ rfl ⟨.inr rfl, rfl, rfl⟩, hrequests (some 100) request rfl hsmuggles⟩

end Call

end ActionGateway
