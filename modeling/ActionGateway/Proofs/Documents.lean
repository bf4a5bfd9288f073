import ActionGateway.Proofs.JsonReading
import ActionGateway.Proofs.Sources

/-!
# Documents as bodies

A caller that sends a JSON document as a body means the value of it, and the gateway should take it
for no other. Between the two lies the text: the document is written out by the caller, chosen among
the sources of the call, read, and taken apart into fields. `Call.Takes` lists what can come of a
document in this way: its members become the payload, an update is refused because there are none,
or the document is refused because it is no object. Which of these it is depends on nothing but the
document and the method.

The main result is `Call.documents_come_back`. A document may list its members in any order; then
it is taken as the document in order, as its text denotes it.
-/

namespace ActionGateway

/-! ## Payloads of objects

An object that lists its members in order is already in the form in which a payload keeps its
fields. So taking it apart changes nothing: the fields are its members, and putting them together
again gives the object. -/

namespace Payload

/-- **The members of an object become the fields**, as they are and no others. Sorting them, which
is what taking an object apart does in general, leaves a list in order as it is. -/
theorem ofJson?_ofNameMap (members : NameMap Json) :
    ofJson? (.ofNameMap members) = some (members.map FieldValue.json) := by
  rw [Json.ofNameMap, ofJson?, Option.some.injEq]
  exact NameMap.ext_entries (Entries.sort_of_ascending (members.map FieldValue.json).ascending)

/-- Such fields show as the object: a field that is a JSON value shows as this value. -/
theorem toJson_map_json (members : NameMap Json) :
    toJson (members.map FieldValue.json) = .ofNameMap members := by
  have hshown : (members.map FieldValue.json).map FieldValue.toJson = members := by
    refine NameMap.ext_find? fun name => ?_
    rw [NameMap.find?_map, NameMap.find?_map, Option.map_map]
    exact Option.map_id'
  rw [toJson, hshown]

/-- What is no object is no payload. -/
theorem ofJson?_eq_none {document : Json} (h : ∀ members, document ≠ .obj members) :
    ofJson? document = none := by
  cases document with
  | obj members => exact absurd rfl (h members)
  | _ => rfl

end Payload

namespace Call

variable {call : Call} {readOnly : Bool} {document : Json}

/-! ## Calls that bring a document

A call of this kind brings nothing but a document, so its source is the body. The conditions on the
other sources are those under which they would be chosen instead: a form that the method carries, a
query that the action takes, a body that was a form. -/

/-- The call brings a document as its body, and nothing else. -/
structure BringsDocument (call : Call) (document : Json) : Prop where
  /-- it is no retrieval -/
  method : call.method ≠ .get ∧ call.method ≠ .head
  /-- the body is the text of the document -/
  body : call.body = Utf8.encode document.text
  /-- and not that of a form in several parts -/
  kind : ¬ ∃ parameters, call.contentType = some ("multipart/form-data" ++ parameters)
  form : call.form = []
  query : call.query = []
  files : call.files = []

/-- What comes of a document that a call brings. -/
inductive Takes (call : Call) (readOnly : Bool) : Json → Prop
  /-- the payload shows as the document, and its fields are the members -/
  | payload (members : List (String × Json)) (payload : Payload)
    (hbrings : call.method ≠ .put ∨ members ≠ []) (hpayload : call.payload readOnly = .ok payload)
    (htoJson : payload.toJson = .obj members) (hsize : payload.size = members.length)
    (hfields : ∀ name, payload.find? name = (Entries.find? name members).map FieldValue.json) :
    Takes call readOnly (.obj members)
  /-- an update is refused because the document has no members -/
  | emptyUpdate (hput : call.method = .put)
    (hpayload : call.payload readOnly = .error .emptyUpdate) :
    Takes call readOnly (.obj [])
  /-- the document is refused because it is no object, and the caller is told its text -/
  | notAMapping (document : Json) (hobj : ∀ members, document ≠ .obj members)
    (hpayload : call.payload readOnly = .error (.notAMapping document))
    (hmessage : (Refusal.notAMapping document).message =
      "Request data JSON decoded to " ++ document.text ++ " but it needs to be a dictionary.") :
    Takes call readOnly document

/-- The method of such a call suits every action. -/
theorem BringsDocument.isRetrieval_eq_false (h : call.BringsDocument document) :
    call.method.isRetrieval = false := by
  rw [← Bool.not_eq_true, Method.isRetrieval_iff, not_or]
  exact h.method

/-- The body is the source of such a call, since a document has a text and there is nothing else. -/
theorem BringsDocument.source_eq (h : call.BringsDocument document)
    (hintegral : document.Integral) : call.source readOnly = .body := by
  have hbody : call.body ≠ [] := by
    obtain ⟨b, tail, htext, -⟩ := Json.encode_text_cons document hintegral
    rw [h.body, htext]
    exact List.cons_ne_nil b tail
  exact selects_iff.mp (.body (fun hform => hform.2 h.form) (fun hquery => hquery.2 h.query)
    ⟨hbody, h.kind⟩)

/-- The body of such a call is read as the document in order. -/
theorem BringsDocument.read_body (h : call.BringsDocument document) (hintegral : document.Integral)
    (hdepth : document.depth ≤ Json.maxDepth) : Json.read call.body = .ok document.sorted := by
  rw [h.body, Json.read_text_eq_sorted hintegral hdepth]

/-! ## What comes of it

A document that was read is an object or it is not. If it is one, its members are the payload, and
there is one way left to be refused: an update that brings none. If it is not, the refusal repeats
it as it was read. -/

/-- A text that denotes an object is taken for its fields. -/
theorem parseDocument_of_object {raw : Bytes} {value : Json} {payload : Payload}
    (hread : Json.read raw = .ok value) (hobject : Payload.ofJson? value = some payload) :
    parseDocument raw = .ok payload := by
  simp only [parseDocument, hread, hobject]

/-- A text that denotes something else is refused, with what it denotes. -/
theorem parseDocument_of_no_object {raw : Bytes} {value : Json} (hread : Json.read raw = .ok value)
    (hobject : Payload.ofJson? value = none) : parseDocument raw = .error (.notAMapping value) := by
  simp only [parseDocument, hread, hobject]

/-- A document that is an object is the payload where the body is the source and the method suits
the action, unless an update needs fields and the object has none. -/
theorem payload_of_object {payload : Payload} {value : Json}
    (hsuits : readOnly = true ∨ call.method.isRetrieval = false)
    (hsource : call.source readOnly = .body) (hread : Json.read call.body = .ok value)
    (hobject : Payload.ofJson? value = some payload)
    (hbrings : call.method.isUpdate = false ∨ payload.isEmpty = false) (hfiles : call.files = []) :
    call.payload readOnly = .ok payload := by
  refine payload_eq_ok_iff.mpr ⟨hsuits, payload, ?_, hbrings, ?_⟩
  · rw [hsource]
    exact parseDocument_of_object hread hobject
  · rw [hfiles]
    rfl

/-- **An object is taken for its members**, and refused only where an update needs some and there
are none. -/
theorem BringsDocument.takes_object (h : call.BringsDocument document)
    (hsource : call.source readOnly = .body) {members : List (String × Json)}
    (hmembers : Ascending members) (hread : Json.read call.body = .ok (.obj members)) :
    call.Takes readOnly (.obj members) := by
  let held : NameMap Json := ⟨members, hmembers⟩
  have hobject : Payload.ofJson? (.obj members) = some (held.map FieldValue.json) :=
    Payload.ofJson?_ofNameMap held
  -- an update without members is refused, and nothing else is
  by_cases hnothing : call.method = .put ∧ members = []
  · obtain ⟨hput, rfl⟩ := hnothing
    have hparse : call.parseSource (call.source readOnly) = .ok .empty := by
      rw [hsource]
      exact parseDocument_of_object hread hobject
    exact .emptyUpdate hput (payload_eq_emptyUpdate_iff.mpr ⟨hput, hparse⟩)
  · have hsomething : call.method ≠ .put ∨ members ≠ [] :=
      Classical.not_and_iff_not_or_not.mp hnothing
    have hbrings : call.method.isUpdate = false ∨ (held.map FieldValue.json).isEmpty = false := by
      rw [← Bool.not_eq_true, ← Bool.not_eq_true, Method.isUpdate_iff, NameMap.isEmpty,
        List.isEmpty_iff]
      exact hsomething.imp_right (mt List.map_eq_nil_iff.mp)
    have hpayload := payload_of_object (.inr h.isRetrieval_eq_false) hsource hread hobject hbrings
      h.files
    exact .payload members _ hsomething hpayload (Payload.toJson_map_json held)
      (List.length_map _) (NameMap.find?_map _ held)

/-- **A document that is no object is refused**, and the refusal says what it is. -/
theorem BringsDocument.takes_no_object (h : call.BringsDocument document)
    (hsource : call.source readOnly = .body) {value : Json}
    (hvalue : ∀ members, value ≠ .obj members) (hread : Json.read call.body = .ok value) :
    call.Takes readOnly value := by
  have hparse : call.parseSource (call.source readOnly) = .error (.notAMapping value) := by
    rw [hsource]
    exact parseDocument_of_no_object hread (Payload.ofJson?_eq_none hvalue)
  have hpayload := payload_of_parseSource_error (.inr h.isRetrieval_eq_false) hparse
  exact .notAMapping value hvalue hpayload rfl

/-- **Documents come back from bodies.** Let a call bring a document and nothing else, one whose
numbers are integers of 64 bits and that is nested no deeper than a reader of JSON goes. Whether the
action may have side effects or not, the call is taken for the document in order; and a document
that is in order is that document itself.

Other numbers are left out, since a fraction may be read as a neighbour of what was written, and so
are deeper documents, which the reader refuses. -/
theorem documents_come_back (h : call.BringsDocument document) (hintegral : document.Integral)
    (hdepth : document.depth ≤ 127) (readOnly : Bool) :
    call.Takes readOnly document.sorted ∧ (document.Orderly → document.sorted = document) := by
  refine ⟨?_, Json.sorted_of_orderly⟩
  have hsource : call.source readOnly = .body := h.source_eq hintegral
  have hread := h.read_body hintegral hdepth
  have horderly := Json.orderly_sorted document
  cases hsorted : document.sorted with
  | obj members =>
    rw [hsorted] at hread horderly
    exact h.takes_object hsource horderly.1 hread
  | null | bool | num | str | arr =>
    rw [hsorted] at hread
    refine h.takes_no_object hsource (fun members hobject => ?_) hread
    cases hobject

/-- An update that brings both ends of the integers, nested below names with characters that are
escaped or take more than one byte. -/
theorem documents_come_back_nested :
    let document : Json :=
      .obj [("\x22\\", .arr [.num (.int (-9223372036854775808) (by decide)),
              .num (.int 18446744073709551615 (by decide))]),
            ("ключ\n", .obj [("🔑", .str "\t")])]
    let call : Call := (Call.new .put).withBody "application/json" (Utf8.encode document.text)
    document.Orderly ∧ call.Takes false document := by
  intro document call
  have hkind : ¬ ∃ parameters, call.contentType = some ("multipart/form-data" ++ parameters) := by
    rintro ⟨parameters, hkind⟩
    have hchars := congrArg String.toList (Option.some.inj hkind)
    rw [String.toList_append] at hchars
    cases hchars
  have hbrings : call.BringsDocument document := ⟨by decide, rfl, hkind, rfl, rfl, rfl⟩
  have horderly : document.Orderly := ⟨by decide +kernel, ⟨trivial, trivial, trivial⟩,
    ⟨by decide +kernel, trivial, trivial⟩, trivial⟩
  have hintegral : document.Integral := ⟨⟨trivial, trivial, trivial⟩, ⟨trivial, trivial⟩, trivial⟩
  obtain ⟨htakes, hsorted⟩ := documents_come_back hbrings hintegral (by decide) false
  rw [hsorted horderly] at htakes
  exact ⟨horderly, htakes⟩

end Call

end ActionGateway
