import ActionGateway.Builtins
import ActionGateway.Proofs.Documents
import ActionGateway.Proofs.Serving

/-!
# One payload over three transports

A caller may send the same **fields** in the query of a retrieval, in a form, or as a JSON document
(`Fields.SentBy`). The three give payloads of different values — a text or a list from the pairs,
JSON values from the document — but payloads that are **alike**: they show as the same JSON, and a
field has the same text in them. This is all that most actions read, and to those it makes no
difference how a call came (`Fields.transports_agree`).

A form of one name may stand for a document. Such fields are left out where they come as a form.

Each transport is followed on its own to a payload that **carries** the fields (`Fields.CarriedBy`):
it shows as their document, and each field with one value has it as its text. Payloads that carry
the same fields are alike, so that there is no need to compare the transports with each other.
-/

namespace ActionGateway

/-! ## Payloads that are alike

An action may look at whether a field holds a text or a JSON string, and so tell the transports
apart. `Action.ReadsPlainly` leaves such actions out: it asks that an action does the same on
payloads that are alike, whatever else it does with them. -/

namespace Payload

/-- The payloads show as the same JSON, and their fields have the same texts. -/
structure Alike (p q : Payload) : Prop where
  toJson : p.toJson = q.toJson
  str? : ∀ name, p.str? name = q.str? name

/-- Payloads show as the same JSON when their fields do. -/
theorem toJson_eq_iff {p q : Payload} :
    p.toJson = q.toJson ↔
      ∀ name, (p.find? name).map FieldValue.toJson = (q.find? name).map FieldValue.toJson := by
  simp only [← NameMap.find?_map]
  constructor
  · intro h name
    rw [NameMap.find?, NameMap.find?, Json.obj.inj h]
  · intro h
    rw [toJson, toJson, NameMap.ext_find? h]

variable {p q : Payload}

/-- Payloads that show as the same JSON have the same fields. -/
theorem contains_of_toJson_eq (h : p.toJson = q.toJson) (name : String) :
    p.contains name = q.contains name := by
  have hfind := congrArg Option.isSome (toJson_eq_iff.mp h name)
  rwa [Option.isSome_map, Option.isSome_map] at hfind

/-- Payloads that are alike stay so when a field is taken away. -/
theorem Alike.erase (h : p.Alike q) (name : String) : Alike (p.erase name) (q.erase name) := by
  refine ⟨toJson_eq_iff.mpr fun other => ?_, fun other => ?_⟩
  · rw [NameMap.find?_erase, NameMap.find?_erase]
    split
    · rfl
    · exact toJson_eq_iff.mp h.toJson other
  · rw [Payload.str?, Payload.str?, NameMap.find?_erase, NameMap.find?_erase]
    split
    · rfl
    · exact h.str? other

end Payload

/-- The action reads of its payload no more than the JSON and the texts. -/
def Action.ReadsPlainly (action : Action) : Prop :=
  ∀ registry context (p q : Payload), p.Alike q →
    action.invoke registry context p = action.invoke registry context q

/-- The actions of the gateway read no more than that: one reads a text, the other nothing. -/
theorem Builtins.readsPlainly (config : SiteConfig) :
    Builtins.helpShow.ReadsPlainly ∧ (Builtins.statusShow config).ReadsPlainly := by
  constructor
  · intro registry context p q h
    simp only [Action.invoke, Builtins.helpShow, Builtins.help, h.str? "name"]
  · intro registry context p q h
    rfl

/-- An error shows of the payload its JSON, if anything. -/
theorem Taxonomy.classify_congr {p q : Payload} (h : p.toJson = q.toJson) (error : ActionError) :
    classify error p = classify error q := by
  simp only [classify, record, h]

/-- **To payloads that are alike there is one answer**, if the action reads no more. -/
theorem Service.answer_of_alike {service : Service} {action : Action} {p q : Payload}
    (h : p.Alike q) (hreads : action.ReadsPlainly) (help : String) (version : ApiVersion)
    (caller : Identity) :
    ((service.perform (invocation action version caller p)).map
        (answer help (invocation action version caller p))).value =
      ((service.perform (invocation action version caller q)).map
        (answer help (invocation action version caller q))).value := by
  have herase := h.erase callbackField
  have hinvoke (context : CallContext) := hreads (some service.registry) context _ _ herase
  have hcontains := Payload.contains_of_toJson_eq h.toJson callbackField
  simp only [invocation, perform, Traced.value_map, hcontains, hinvoke, answer,
    Taxonomy.classify_congr herase.toJson]

/-! ## Fields and what stands for them

Fields are what a caller wants to say: names, each with the list of its values. Pairs say it by
repeating the name, and a document by a list; a name with one value stands for that value in both.
-/

/-- Fields as a caller means them: at least one, and at least one value for each. -/
structure Fields where
  values : NameMap (List String)
  /-- without fields a query is empty, and so is a form -/
  someField : values.entries ≠ []
  /-- no pair has a name that has no value -/
  someValue : ∀ entry ∈ values.entries, entry.2 ≠ []

namespace Fields

/-- The values of a name; a name that is no field has none. -/
def valuesOf (fields : Fields) (name : String) : List String :=
  (fields.values.find? name).getD []

/-- The pairs give each name its values in their order. Pairs of different names may stand in any
order. -/
def SpelledBy (fields : Fields) (pairs : Params) : Prop :=
  ∀ name, pairs.valuesOf name = fields.valuesOf name

/-- How the values of one name stand in a document. -/
def shown : List String → Json
  | [value] => .str value
  | values => .strs values

/-- The document that stands for the fields. -/
def document (fields : Fields) : Json :=
  .ofNameMap (fields.values.map shown)

/-- The fields look like a document that a form stands for: one name, of which the first value marks
it as one. -/
def Marked (fields : Fields) : Prop :=
  ∃ name first rest,
    fields.values.entries = [(name, first :: rest)] ∧ (first = "1" ∨ first = "")

/-- A call that brings the fields, and no files. -/
inductive SentBy (fields : Fields) (call : Call) : Prop
  | inQuery (method : call.method = .get) (pairs : fields.SpelledBy call.query)
    (files : call.files = [])
  | inForm (method : call.method = .post) (pairs : fields.SpelledBy call.form)
    (query : call.query = []) (files : call.files = []) (unmarked : ¬ fields.Marked)
  | inBody (method : call.method = .post) (form : call.form = []) (query : call.query = [])
    (kind : call.isMultipart = false) (body : Json.read call.body = .ok fields.document)
    (files : call.files = [])

/-- The only value of a list of one. -/
def only? : List String → Option String
  | [value] => some value
  | _ => none

/-- The payload shows as the document, and a field with one value has it as its text. -/
structure CarriedBy (fields : Fields) (payload : Payload) : Prop where
  toJson : payload.toJson = fields.document
  str? : ∀ name, payload.str? name = only? (fields.valuesOf name)

/-- What carries the same fields is alike. -/
theorem CarriedBy.alike {fields : Fields} {p q : Payload} (hp : fields.CarriedBy p)
    (hq : fields.CarriedBy q) : p.Alike q :=
  ⟨hp.toJson.trans hq.toJson.symm, fun name => (hp.str? name).trans (hq.str? name).symm⟩

variable {fields : Fields}

/-- A field has its values, and at least one. -/
theorem find?_values_eq_some_iff {name : String} {values : List String} :
    fields.values.find? name = some values ↔ fields.valuesOf name = values ∧ values ≠ [] := by
  rw [valuesOf]
  constructor
  · intro h
    exact ⟨by rw [h]; rfl, fields.someValue _ (Entries.mem_of_find?_eq_some h)⟩
  · rintro ⟨rfl, hne⟩
    cases hfind : fields.values.find? name with
    | none => exact absurd (by rw [hfind]; rfl) hne
    | some values => rfl

/-- Whatever values the fields become, if each shows as its values do. -/
theorem carriedBy_of_find? {payload : Payload} (become : List String → FieldValue)
    (hjson : ∀ values, (become values).toJson = shown values)
    (hstr : ∀ values, (become values).str? = only? values)
    (h : ∀ name, payload.find? name = (fields.values.find? name).map become) :
    fields.CarriedBy payload := by
  refine ⟨?_, fun name => ?_⟩
  · rw [Payload.toJson, document]
    congr 1
    refine NameMap.ext_find? fun name => ?_
    rw [NameMap.find?_map, NameMap.find?_map, h, Option.map_map]
    exact Option.map_congr fun values _ => hjson values
  · rw [Payload.str?, h, valuesOf]
    cases fields.values.find? name with
    | none => rfl
    | some values => exact hstr values

/-! ## Pairs

The pairs of a query become a payload by folding, in which the values of a name are a text or a
list. Both show in JSON as the values do in the document. -/

/-- What values are folded into shows as they do in a document. -/
theorem toJson_ofValues (values : List String) :
    (Params.ofValues values).toJson = shown values := by
  match values with
  | [] => rfl
  | [value] => rfl
  | first :: second :: rest => rfl

/-- It has a text if there is one value. -/
theorem str?_ofValues (values : List String) : (Params.ofValues values).str? = only? values := by
  match values with
  | [] => rfl
  | [value] => rfl
  | first :: second :: rest => rfl

/-- What pairs are folded into carries the fields that they spell. -/
theorem carriedBy_toPayload {pairs : Params} (h : fields.SpelledBy pairs) :
    fields.CarriedBy pairs.toPayload := by
  refine carriedBy_of_find? Params.ofValues toJson_ofValues str?_ofValues fun name => ?_
  rw [Params.find?_toPayload, h, valuesOf]
  rcases hfind : fields.values.find? name with _ | values
  · rfl
  · exact if_neg (find?_values_eq_some_iff.mp hfind).2

/-- There is a pair at least, since there is a value. -/
theorem ne_nil_of_spelledBy {pairs : Params} (h : fields.SpelledBy pairs) : pairs ≠ [] := by
  rintro rfl
  rcases hentries : fields.values.entries with _ | ⟨⟨name, values⟩, rest⟩
  · exact fields.someField hentries
  · have hmem : (name, values) ∈ fields.values.entries := hentries ▸ List.mem_cons_self
    have hfind : fields.values.find? name = some values :=
      (Entries.find?_eq_some_iff fields.values.ascending).mpr hmem
    have hname := h name
    rw [valuesOf, hfind] at hname
    exact fields.someValue _ hmem hname.symm

/-- **The query of a retrieval** becomes the payload of its pairs. -/
theorem payload_of_query {call : Call} (method : call.method = .get)
    (pairs : fields.SpelledBy call.query) (files : call.files = []) :
    call.payload true = .ok call.query.toPayload := by
  have hretrieval : call.method.isRetrieval = true := by rw [method]; rfl
  refine Call.payload_eq_ok_iff.mpr ⟨.inl rfl, call.query.toPayload, ?_, .inl ?_, ?_⟩
  · rw [Call.source_of_retrieval hretrieval (ne_nil_of_spelledBy pairs)]
    rfl
  · rw [method]
    rfl
  · rw [files]
    rfl

/-! ## Forms

A form is folded like a query, unless it stands for a document: then it has one name, and its first
value marks it. Fields that look like that are the one case which is left out. -/

/-- Pairs of one name spell one field. -/
theorem entries_of_onlyName {form : Params} {name : String} (h : fields.SpelledBy form)
    (hname : form.onlyName? = some name) :
    fields.values.entries = [(name, fields.valuesOf name)] := by
  refine Entries.eq_of_mem_iff fields.values.ascending (List.pairwise_singleton _ _) fun entry => ?_
  obtain ⟨other, values⟩ := entry
  obtain ⟨hform, hall⟩ := Params.onlyName?_eq_some_iff.mp hname
  rw [← Entries.find?_eq_some_iff fields.values.ascending, List.mem_singleton, Prod.mk.injEq,
    ← NameMap.find?, find?_values_eq_some_iff]
  constructor
  · -- a field has a value, so a pair has its name
    rintro ⟨rfl, hne⟩
    obtain ⟨value, hvalue⟩ := List.exists_mem_of_ne_nil _ hne
    rw [← h] at hvalue
    obtain rfl : other = name := hall _ (Params.mem_valuesOf_iff.mp hvalue)
    exact ⟨rfl, rfl⟩
  · rintro ⟨rfl, rfl⟩
    obtain ⟨⟨first, value⟩, hpair⟩ := List.exists_mem_of_ne_nil _ hform
    obtain rfl : first = other := hall _ hpair
    refine ⟨rfl, List.ne_nil_of_mem (a := value) ?_⟩
    rw [← h]
    exact Params.mem_valuesOf_iff.mpr hpair

/-- Fields that do not look like a document are spelled by no form that stands for one. -/
theorem smuggledDocument?_eq_none {form : Params} (h : fields.SpelledBy form)
    (unmarked : ¬ fields.Marked) : Call.smuggledDocument? form = none := by
  rcases hname : form.onlyName? with _ | name
  · rw [Call.smuggledDocument?, hname]
    rfl
  · have hentries := entries_of_onlyName h hname
    have hfirst : form.first? name = (fields.valuesOf name).head? := by
      rw [Params.first?_eq_head?, h]
    rw [Call.smuggledDocument?, hname, Option.bind_some, hfirst]
    rcases hvalues : fields.valuesOf name with _ | ⟨first, rest⟩
    · rfl
    · rw [hvalues] at hentries
      exact if_neg fun hmark => unmarked ⟨name, first, rest, hentries, hmark⟩

/-- **The form of a request** becomes the payload of its pairs. -/
theorem payload_of_form {call : Call} (method : call.method = .post)
    (pairs : fields.SpelledBy call.form) (files : call.files = []) (unmarked : ¬ fields.Marked) :
    call.payload true = .ok call.form.toPayload := by
  have hform : call.form.isEmpty = false :=
    List.isEmpty_eq_false_iff.mpr (ne_nil_of_spelledBy pairs)
  have hsource : call.source true = .form := by
    rw [Call.source, method, hform]
    rfl
  refine Call.payload_eq_ok_iff.mpr ⟨.inl rfl, call.form.toPayload, ?_, .inl ?_, ?_⟩
  · rw [hsource, Call.parseSource, Call.parseForm, smuggledDocument?_eq_none pairs unmarked]
  · rw [method]
    rfl
  · rw [files]
    rfl

/-! ## Documents

The document is an object with a member for each field. Reading its text gives it back, and its
payload has the members as they are. -/

/-- The payload of the document. -/
def decoded (fields : Fields) : Payload :=
  fields.values.map fun values => .json (shown values)

/-- In a document, too, a field has a text if there is one value. -/
theorem str?_shown (values : List String) : (shown values).str? = only? values := by
  match values with
  | [] => rfl
  | [value] => rfl
  | first :: second :: rest => rfl

/-- The payload of the document carries the fields. -/
theorem carriedBy_decoded (fields : Fields) : fields.CarriedBy fields.decoded :=
  carriedBy_of_find? (fun values => .json (shown values)) (fun _ => rfl) str?_shown
    fun name => NameMap.find?_map _ _ name

/-- The document is decoded into that payload. -/
theorem ofJson?_document (fields : Fields) :
    Payload.ofJson? fields.document = some fields.decoded := by
  have hdecoded : (fields.values.map shown).map FieldValue.json = fields.decoded := by
    refine NameMap.ext_find? fun name => ?_
    rw [decoded, NameMap.find?_map, NameMap.find?_map, NameMap.find?_map, Option.map_map]
    rfl
  rw [document, Payload.ofJson?_ofNameMap, hdecoded]

/-- **The body of a request** becomes the payload of the document that it denotes. -/
theorem payload_of_document {call : Call} (method : call.method = .post) (form : call.form = [])
    (query : call.query = []) (kind : call.isMultipart = false)
    (body : Json.read call.body = .ok fields.document) (files : call.files = []) :
    call.payload true = .ok fields.decoded := by
  have hbody : call.body.isEmpty = false := by
    refine List.isEmpty_eq_false_iff.mpr fun hnil => ?_
    rw [hnil] at body
    cases body
  have hsource : call.source true = .body := by
    simp [Call.source, method, form, query, kind, hbody]
  have hbrings : call.method.isUpdate = false := by
    rw [method]
    rfl
  exact Call.payload_of_object (.inl rfl) hsource body fields.ofJson?_document (.inl hbrings) files

/-! ## All fields can be sent

The statement would be empty if there were fields that no call brings, or calls of one kind alone.
So it is shown that each transport can bring all fields, except for a form that would be marked. -/

/-- The pairs of the fields, one field after the other. -/
def pairs (fields : Fields) : Params :=
  fields.values.entries.flatMap fun entry => entry.2.map fun value => (entry.1, value)

/-- The pairs give each name its values, since no name comes in two entries. -/
theorem valuesOf_flatMap {entries : List (String × List String)} (h : Ascending entries)
    (name : String) :
    Params.valuesOf (entries.flatMap fun entry => entry.2.map fun value => (entry.1, value)) name =
      (Entries.find? name entries).getD [] := by
  induction entries with
  | nil => rfl
  | cons entry rest ih =>
    obtain ⟨other, values⟩ := entry
    obtain ⟨hfirst, hrest⟩ := List.pairwise_cons.mp h
    rw [List.flatMap_cons, Params.valuesOf_append, ih hrest, Params.valuesOf_map]
    by_cases hname : other = name
    · subst hname
      have hnone : Entries.find? other rest = none := by
        refine Option.eq_none_iff_forall_ne_some.mpr fun held hfind => ?_
        have hmem : (other, held) ∈ rest := Entries.mem_of_find?_eq_some hfind
        exact String.lt_irrefl _ (hfirst (other, held) hmem)
      rw [if_pos rfl, Entries.find?_cons_self, hnone]
      exact List.append_nil values
    · rw [if_neg hname, Entries.find?_cons_ne hname, List.nil_append]

/-- The pairs spell the fields. -/
theorem spelledBy_pairs (fields : Fields) : fields.SpelledBy fields.pairs :=
  valuesOf_flatMap fields.values.ascending

/-- The values of a name show as one text or as a list of texts. -/
theorem shown_cases (values : List String) :
    (∃ value, shown values = .str value) ∨ shown values = .strs values := by
  match values with
  | [] => exact .inr rfl
  | [value] => exact .inl ⟨value, rfl⟩
  | first :: second :: rest => exact .inr rfl

/-- Texts are in order, -/
theorem orderly_shown (values : List String) : (shown values).Orderly := by
  rcases shown_cases values with ⟨value, hshown⟩ | hshown
  · rw [hshown]
    trivial
  · rw [hshown, Json.strs, Json.Orderly, Json.orderlyItems_iff]
    exact List.forall_mem_map.mpr fun value _ => trivial

/-- hold no numbers, -/
theorem integral_shown (values : List String) : (shown values).Integral := by
  rcases shown_cases values with ⟨value, hshown⟩ | hshown
  · rw [hshown]
    trivial
  · rw [hshown, Json.strs, Json.Integral, Json.integralItems_iff]
    exact List.forall_mem_map.mpr fun value _ => trivial

/-- and are nested in a list at most. -/
theorem depth_shown_le (values : List String) : (shown values).depth ≤ 1 := by
  rcases shown_cases values with ⟨value, hshown⟩ | hshown
  · rw [hshown]
    exact Nat.zero_le 1
  · rw [hshown, Json.strs, Json.depth]
    refine Nat.succ_le_succ (Json.depthItems_le_iff.mpr ?_)
    exact List.forall_mem_map.mpr fun value _ => Nat.le_refl 0

/-- The text of the document denotes it. -/
theorem read_document (fields : Fields) :
    Json.read (Utf8.encode fields.document.text) = .ok fields.document := by
  refine Json.read_text ⟨(fields.values.map shown).ascending, ?_⟩ ?_ ?_
  · exact Json.orderlyMembers_iff.mpr (List.forall_mem_map.mpr fun e _ => orderly_shown e.2)
  · rw [document, Json.ofNameMap, Json.Integral, Json.integralMembers_iff]
    exact List.forall_mem_map.mpr fun e _ => integral_shown e.2
  · rw [document, Json.ofNameMap, Json.depth]
    refine Nat.le_trans (Nat.succ_le_succ (Json.depthMembers_le_iff.mpr ?_)) (show 2 ≤ _ by decide)
    exact List.forall_mem_map.mpr fun e _ => depth_shown_le e.2

/-- **Fields can be sent each way**: by their pairs in a query or a form, by the text of the
document as a body. -/
theorem sentBy_each (fields : Fields) :
    fields.SentBy { Call.new .get with query := fields.pairs } ∧
      (¬ fields.Marked → fields.SentBy ((Call.new .post).withForm fields.pairs)) ∧
      fields.SentBy
        ((Call.new .post).withBody "application/json" (Utf8.encode fields.document.text)) :=
  ⟨.inQuery rfl fields.spelledBy_pairs rfl,
    fun unmarked => .inForm rfl fields.spelledBy_pairs rfl rfl unmarked,
    .inBody rfl rfl rfl rfl fields.read_document rfl⟩

/-! ## All three -/

/-- **However the fields are sent, the payload carries them.** -/
theorem exists_payload {call : Call} (h : fields.SentBy call) :
    ∃ payload, call.payload true = .ok payload ∧ fields.CarriedBy payload := by
  cases h with
  | inQuery method pairs files =>
    exact ⟨_, payload_of_query method pairs files, carriedBy_toPayload pairs⟩
  | inForm method pairs query files unmarked =>
    exact ⟨_, payload_of_form method pairs files unmarked, carriedBy_toPayload pairs⟩
  | inBody method form query kind body files =>
    exact ⟨_, payload_of_document method form query kind body files, carriedBy_decoded fields⟩

/-- **It makes no difference how fields are sent**: the payloads are alike, and where an action
reads no more of them than that, the answers are the same. -/
theorem transports_agree {call other : Call} (hcall : fields.SentBy call)
    (hother : fields.SentBy other) :
    (∃ p q, call.payload true = .ok p ∧ other.payload true = .ok q ∧ p.Alike q ∧
        p.toJson = fields.document) ∧
      ∀ (service : Service) (name : String) (action : Action),
        service.registry.find? name = some action → action.readOnly = true →
        action.ReadsPlainly → ∀ version caller,
          (service.call name version caller call).value =
            (service.call name version caller other).value := by
  obtain ⟨p, hp, hpcarried⟩ := exists_payload hcall
  obtain ⟨q, hq, hqcarried⟩ := exists_payload hother
  have halike := hpcarried.alike hqcarried
  refine ⟨⟨p, q, hp, hq, halike, hpcarried.toJson⟩, ?_⟩
  intro service name action hfind hreadOnly hreads version caller
  rw [← hreadOnly] at hp hq
  rw [Service.call_of_payload hfind hp, Service.call_of_payload hfind hq]
  exact Service.answer_of_alike halike hreads _ version caller

/-- A query whose pairs of one name do not stand together, and a document that says the same. -/
theorem transports_agree_tagged :
    let fields : Fields :=
      ⟨⟨[("tag", ["a", "b"]), ("title", ["x y"])], by decide +kernel⟩, by decide, by decide⟩
    let query : Call :=
      { Call.new .get with query := [("tag", "a"), ("title", "x y"), ("tag", "b")] }
    let body : Call :=
      (Call.new .post).withBody "application/json" (Utf8.encode fields.document.text)
    let echo : Action := ⟨"echo", true, none, .run fun _ payload => ⟨[], .ok payload.toJson⟩⟩
    let service : Service := ⟨Registry.register .empty echo, .default⟩
    (∃ p q, query.payload true = .ok p ∧ body.payload true = .ok q ∧ p.Alike q ∧
        p.toJson = fields.document) ∧
      (service.call "echo" .v3 .anonymous query).value =
        (service.call "echo" .v3 .anonymous body).value := by
  intro fields query body echo service
  have hpairs : fields.SpelledBy query.query := by
    intro name
    by_cases htag : "tag" = name
    · subst htag
      rfl
    · by_cases htitle : "title" = name
      · subst htitle
        rfl
      · simp [query, fields, Params.valuesOf, valuesOf, NameMap.find?, Entries.find?, htag, htitle]
  have hreads : echo.ReadsPlainly := by
    intro registry context p q h
    simp only [Action.invoke, echo, h.toJson]
  have hfind : service.registry.find? "echo" = some echo := rfl
  have hquery : fields.SentBy query := .inQuery rfl hpairs rfl
  have hbody : fields.SentBy body := .inBody rfl rfl rfl rfl fields.read_document rfl
  have hagree := transports_agree hquery hbody
  exact ⟨hagree.1, hagree.2 service "echo" echo hfind rfl hreads .v3 .anonymous⟩

end Fields

end ActionGateway
