import ActionGateway.Proofs.NameMap
import ActionGateway.Taxonomy

/-!
# The contract of errors

Clients switch on the status of a failure and on the label that its record has under `__type`. Both
are a matter of the **kind** of the error, and what an action or a caller writes into an error must
not change them. The taxonomy composes records by rules; `Taxonomy.record_eq` says kind by kind what
comes of them. The rest is about names: an error by field is a member of the record like the label
and the message are, so it has to be shown that

* no member has the name of another (`Taxonomy.nodup_names_record`), hence
* the JSON form has the members that are written out, and no others
  (`ErrorRecord.member?_toJson_eq_some_iff`).

The main result is `Taxonomy.errorContract`.

A record is a name map that is filled by the rules of its kind and then written in the order of its
names. What a client reads out of it is a **member** (`Json.member?`), so the contract speaks of the
members of the JSON form, and not of how the record was put together.
-/

namespace ActionGateway

/-- The value of a member of an object. Other values have no members. -/
def Json.member? (name : String) : Json → Option Json
  | .obj members => Entries.find? name members
  | _ => none

namespace ErrorRecord

/-- The members have different names if no further member takes the name of the label or of the
message. -/
theorem nodup_names_members {r : ErrorRecord} (htype : r.extra.find? "__type" = none)
    (hmessage : r.message.isSome = true → r.extra.find? "message" = none) :
    (r.members.map Prod.fst).Nodup := by
  -- what has no value under a name does not have the name
  have hnot {name : String} (h : r.extra.find? name = none) :
      name ∉ r.extra.entries.map Prod.fst := by
    rw [List.mem_map]
    rintro ⟨⟨_, value⟩, hmem, rfl⟩
    exact Entries.find?_eq_none_iff.mp h value hmem
  have hextra := Entries.nodup_names_of_ascending r.extra.ascending
  rw [members, List.map_cons, List.map_append, NameMap.toList]
  cases hm : r.message with
  | none => simpa using ⟨by simpa using hnot htype, hextra⟩
  | some m =>
    have hfree := hnot (hmessage (by rw [hm]; rfl))
    simp only [Option.map_some, Option.toList_some, List.map_cons, List.map_nil, List.cons_append,
      List.nil_append, List.nodup_cons, List.mem_cons, not_or]
    exact ⟨⟨by decide, hnot htype⟩, hfree, hextra⟩

/-- **Where no name comes twice, the JSON form has the members that are written out.** -/
theorem member?_toJson_eq_some_iff {r : ErrorRecord} (h : (r.members.map Prod.fst).Nodup)
    {name : String} {value : Json} :
    r.toJson.member? name = some value ↔ (name, value) ∈ r.members := by
  rw [toJson, Json.object, Json.member?,
    Entries.find?_eq_some_iff (Entries.ascending_sort r.members), Entries.mem_sort_iff h]

end ErrorRecord

namespace Taxonomy

/-! ## Records, kind by kind

`Taxonomy.record` composes a record by rules that several kinds share. The three parts that come of
it are written out here, each by a match on the kinds, so that later proofs need no more than
`Taxonomy.record_eq`. -/

/-- The message of the record of an error. An error of validation has none, so that a field named
like the message can take its place, and an internal error has one that says nothing of what went
wrong. -/
def message? : ActionError → Option String
  | .integrity message => some message
  | .notAuthorized cause => some (withCause "Access denied" cause)
  | .notFound cause => some (withCause "Not found" cause)
  | .validation _ => none
  | .searchQuery detail => some ("Search Query is invalid: " ++ detail)
  | .search detail => some ("Search error: " ++ detail)
  | .searchIndex detail => some ("Unable to add package to search index: " ++ detail)
  | .searchConnection => some "Unable to connect to the search server"
  | .internal _ => some "Internal Server Error"

/-- What the record of an error has beside its label and its message. -/
def extra (payload : Payload) : ActionError → NameMap Json
  | .integrity _ => NameMap.empty.insert "data" payload.toJson
  | .validation errors => errors.erase "__type"
  | _ => .empty

/-- **What the rules of composition come to**, for each kind of error: the label, the message that
it has, and what else it carries. -/
theorem record_eq (error : ActionError) (payload : Payload) :
    record error payload = ⟨label error.kind, message? error, extra payload error⟩ := by
  cases error <;> rfl

/-- A cause that is not empty is given in full. -/
theorem withCause_some {cause : String} (h : cause ≠ "") (base : String) :
    withCause base (some cause) = base ++ ": " ++ cause := by
  rw [withCause, if_neg]
  simpa using h

/-! ## Names

The one kind of error that names its members freely is validation. Its fields lose the one that is
named like the label (`NameMap.erase`), and it has no message; so names differ in every record,
which is what `Json.member?` needs to find all of them. -/

/-- Nothing takes the place of the label. -/
theorem find?_type_extra (payload : Payload) (error : ActionError) :
    (extra payload error).find? "__type" = none := by
  cases error with
  | validation errors => rw [extra, NameMap.find?_erase, if_pos rfl]
  | _ => rfl

/-- Nothing takes the place of a message. A field of that name can be in error, but then there is
no message. -/
theorem find?_message_extra (payload : Payload) {error : ActionError}
    (h : (message? error).isSome = true) : (extra payload error).find? "message" = none := by
  cases error with
  | validation errors => cases h
  | _ => rfl

/-- **No member of a record has the name of another**, whatever fields are in error. A field of the
name `__type` is left out; one of the name `message` stands alone, since such a record has no
message. -/
theorem nodup_names_record (error : ActionError) (payload : Payload) :
    ((record error payload).members.map Prod.fst).Nodup := by
  refine ErrorRecord.nodup_names_members ?_ ?_
  · rw [record_eq]
    exact find?_type_extra payload error
  · rw [record_eq]
    exact find?_message_extra payload

/-- What the JSON form of a record has under a name. The fields of the contract rewrite by this
equivalence, and then compare the members that are written out. -/
theorem member?_record_eq_some_iff {error : ActionError} {payload : Payload} {name : String}
    {value : Json} :
    (record error payload).toJson.member? name = some value ↔
      (name, value) ∈
        ErrorRecord.members ⟨label error.kind, message? error, extra payload error⟩ := by
  rw [ErrorRecord.member?_toJson_eq_some_iff (nodup_names_record error payload), record_eq]

/-- The label of the kind stands under `__type`. -/
theorem member?_type_record (error : ActionError) (payload : Payload) :
    (record error payload).toJson.member? "__type" = some (.str (label error.kind)) :=
  member?_record_eq_some_iff.mpr List.mem_cons_self

/-- A message stands under `message`. -/
theorem member?_message_record {error : ActionError} {message : String}
    (h : message? error = some message) (payload : Payload) :
    (record error payload).toJson.member? "message" = some (.str message) := by
  rw [member?_record_eq_some_iff, h]
  exact List.mem_cons_of_mem _ List.mem_cons_self

/-! ## The contract -/

/-- What a client can rely on when a call has failed. `Taxonomy.classify` gives the status and the
record of an error; the payload is that of the call, and only an integrity error shows it. Of the
errors with a detail or a cause the text is an input: the contract says where it stands, whatever it
is. -/
structure ErrorContract (error : ActionError) (payload : Payload) : Prop where
  /-- the status is a matter of the kind -/
  status_eq : ∀ other payload', other.kind = error.kind →
    (classify other payload').1 = (classify error payload).1
  /-- and so is the label -/
  type_eq : ∀ other payload', other.kind = error.kind →
    (classify other payload').2.toJson.member? "__type" =
      (classify error payload).2.toJson.member? "__type"
  /-- the label is the one that the taxonomy gives to the kind -/
  member?_type : (classify error payload).2.toJson.member? "__type" =
    some (.str (label error.kind))
  /-- errors by field are shown as they are, but for one named like the label, and nothing else -/
  validation : ∀ errors, error = .validation errors → ∀ name value,
    (classify error payload).2.toJson.member? name = some value ↔
      name = "__type" ∧ value = .str "Validation Error" ∨
        name ≠ "__type" ∧ errors.find? name = some value
  /-- an object that is not well-formed is shown with the message of the action and the payload,
  and nothing else -/
  integrity : ∀ message, error = .integrity message → ∀ name value,
    (classify error payload).2.toJson.member? name = some value ↔
      name = "__type" ∧ value = .str "Integrity Error" ∨
        name = "message" ∧ value = .str message ∨ name = "data" ∧ value = payload.toJson
  /-- the whole detail follows what is said of every error of a search -/
  detail : ∀ base detail,
    base = "Search Query is invalid: " ∧ error = .searchQuery detail ∨
      base = "Search error: " ∧ error = .search detail ∨
      base = "Unable to add package to search index: " ∧ error = .searchIndex detail →
        (classify error payload).2.toJson.member? "message" = some (.str (base ++ detail))
  /-- a cause that is not empty follows what is said of every error of its kind -/
  cause : ∀ base cause, cause ≠ "" →
    base = "Access denied" ∧ error = .notAuthorized (some cause) ∨
      base = "Not found" ∧ error = .notFound (some cause) →
        (classify error payload).2.toJson.member? "message" =
          some (.str (base ++ ": " ++ cause))
  /-- what is written out is an object in which no name comes twice, with the members of the JSON
  form -/
  text_eq : ∃ members, (classify error payload).2.text = (Json.obj members).text ∧
    (members.map Prod.fst).Nodup ∧
      ∀ name value, (name, value) ∈ members ↔
        (classify error payload).2.toJson.member? name = some value

/-- **The answer to an error keeps to the kind of the error, and loses nothing of it.** This holds
of every error and every payload: also if fields in error have the names of the label and of the
message, and if a detail is empty. -/
theorem errorContract (error : ActionError) (payload : Payload) : ErrorContract error payload := by
  constructor
  case status_eq =>
    intro other payload' hkind
    rw [classify, classify, hkind]
  case type_eq =>
    intro other payload' hkind
    simp only [classify, member?_type_record, hkind]
  case member?_type => exact member?_type_record error payload
  case validation =>
    rintro errors rfl name value
    simp only [classify, member?_record_eq_some_iff, ErrorRecord.members, List.mem_cons,
      List.mem_append, Prod.mk.injEq]
    refine or_congr Iff.rfl ?_
    have herase : (name, value) ∈ (errors.erase "__type").toList ↔
        name ≠ "__type" ∧ errors.find? name = some value := by
      rw [NameMap.find?, Entries.find?_eq_some_iff errors.ascending]
      simp [NameMap.toList, NameMap.erase, Entries.erase, and_comm]
    simpa [message?, extra] using herase
  case integrity =>
    rintro message rfl name value
    simp only [classify, member?_record_eq_some_iff, ErrorRecord.members, List.mem_cons,
      List.mem_append, Prod.mk.injEq]
    refine or_congr Iff.rfl ?_
    simp [message?, extra, NameMap.toList, NameMap.insert, NameMap.empty, Entries.insert]
  case detail =>
    rintro base detail (⟨rfl, rfl⟩ | ⟨rfl, rfl⟩ | ⟨rfl, rfl⟩) <;>
      exact member?_message_record rfl payload
  case cause =>
    rintro base cause hcause (⟨rfl, rfl⟩ | ⟨rfl, rfl⟩)
    · rw [← withCause_some hcause]
      exact member?_message_record rfl payload
    · rw [← withCause_some hcause]
      exact member?_message_record rfl payload
  case text_eq =>
    have hnames := nodup_names_record error payload
    refine ⟨(record error payload).members, rfl, hnames, fun name value => ?_⟩
    exact (ErrorRecord.member?_toJson_eq_some_iff hnames).symm

end Taxonomy

end ActionGateway
