import ActionGateway.Proofs.TextReading

/-!
# Principals and their texts

An object is read member by member into a draft. What a member does to a draft depends on its name
and its value, not on how either is written (`Principal.Draft.add?`), so all that an object says of
a principal are the values of the members called `name` and of those called `roles`. It
**describes** a principal if there is one of the former and one of the latter at most, and they hold
what they should (`Principal.Describes`). The order of the members, and whatever others there are,
make no difference.

The main result is `Principal.textContract`: an object is read as the principal that it describes
and as no other, an array as that of its two items, and the text that a principal is written out as
gives it back. Reading is strict where a principal could be had in two ways, for then an object
describes none.

What is read of a text is stated with what the text **gives** (`Reading.Gives`): a value and what is
left of the bytes, or a fault. The first sections follow the reader and say what the members of an
object, and the items of an array, give; what the draft has to do with the members is then a matter
of lists (`Principal.Draft.Follows`).
-/

namespace ActionGateway

namespace Principal

open Json
open Written (membersBytes)

/-! ## Objects

A member is read by its name: one that counts once, and any other by passing over its value. That
does to the draft what `Draft.add?` says, however the name and the value are written, and a member
that cannot be taken ends the reading with a fault. -/

/-- The draft after a member, which is refused if it has been given before or does not hold what it
should. Whatever else an object holds makes no difference. -/
def Draft.add? (draft : Draft) (name : String) (value : Written) : Option Draft :=
  if name = "name" then
    if draft.name.isSome then none
    else value.text?.map fun name => { draft with name := some name }
  else if name = "roles" then
    if draft.roles.isSome then none
    else value.texts?.map fun roles => { draft with roles := some roles }
  else some draft

/-- The draft after a member whose name must be a text. -/
def Draft.addMember? (draft : Draft) (member : Member Written) : Option Draft :=
  (Json.text? member.name).bind fun name => draft.add? name member.value

/-- The principal of a draft. -/
def Draft.principal? (draft : Draft) : Option Principal :=
  draft.name.map fun name => ⟨name, draft.roles.getD []⟩

section

variable {rest : Bytes}

/-- A member that counts gives the draft with its value, or a fault if it was given before or does
not hold what it should. -/
theorem Draft.gives_readOnce {α : Type} {readField : Bytes → Reading α} {value? : Option α}
    {bytes : Bytes} (hread : (readField bytes).Gives value? rest) (field : String)
    (known : Option α) (store : α → Draft) (blanks : Blanks) :
    (Draft.readOnce field known readField store (blanks.bytes ++ 0x3A :: bytes)).Gives
      (if known.isSome then none else value?.map store) rest := by
  rw [Draft.readOnce]
  split
  next => exact gives_stopBefore .object _ _
  next => rw [readColon_blanks]; exact hread.map store

/-- A member gives the draft after it, if its name is a text. -/
theorem Draft.gives_readField (draft : Draft) (name : List Stroke) (afterName beforeValue : Blanks)
    (value : Written) (hrest : EndsNumber rest) :
    (draft.readField (stringTail name ++ (afterName.bytes ++ 0x3A ::
      (beforeValue.bytes ++ (value.bytes ++ rest))))).Gives
        ((Json.text? name).bind fun name => draft.add? name value) rest := by
  refine (gives_readString name _).andThen fun name _ => ?_
  rw [Draft.add?]
  split
  next => exact gives_readOnce (gives_readText beforeValue value rest) _ _ _ afterName
  next =>
  split
  next => exact gives_readOnce (gives_readTexts beforeValue value rest) _ _ _ afterName
  next =>
    rw [readColon_blanks]
    simp only [Reading.andThen, skipValue_written value beforeValue hrest]
    exact .ok draft rest

/-- At the end of an object the draft is a principal if it has a name. -/
theorem Draft.gives_finish (draft : Draft) (rest : Bytes) :
    (draft.finish rest).Gives draft.principal? rest := by
  rw [Draft.finish, Draft.principal?]
  cases draft.name with
  | none => exact .error _ rest
  | some name => exact .ok _ rest

/-- **An object is read member by member.** The draft that the reader carries along is the fold of
the members so far, and the first member that cannot be added ends the reading. -/
theorem gives_readFields (members : List (Member Written)) (after close : Blanks) (rest : Bytes)
    (turns : Nat) (first : Bool) (draft : Draft)
    (hturns : (membersBytes first members).length < turns) :
    (readFields turns first draft (after.bytes ++ (membersBytes first members ++
      (close.bytes ++ 0x7D :: rest)))).Gives
        ((members.foldlM Draft.addMember? draft).bind Draft.principal?) rest := by
  -- the induction is on the members; the draft and the turns that are left go along
  induction members generalizing after turns first draft with
  | nil =>
    obtain ⟨turns, rfl⟩ : ∃ fewer, turns = fewer + 1 := ⟨turns - 1, by omega⟩
    rw [membersBytes, List.nil_append, readFields, nextName_closing]
    exact draft.gives_finish rest
  | cons member members ih =>
    obtain ⟨before, name, afterName, beforeValue, value, after'⟩ := member
    rw [membersBytes] at hturns ⊢
    simp only [List.length_append, List.length_cons] at hturns
    obtain ⟨turns, rfl⟩ : ∃ fewer, turns = fewer + 1 := ⟨turns - 1, by omega⟩
    have hends : EndsNumber (after'.bytes ++ (membersBytes false members ++
        (close.bytes ++ 0x7D :: rest))) :=
      endsNumber_blanks after' (endsNumber_membersBytes members
        (endsNumber_closing .object close rest))
    -- the first member leads to a draft, from which the others are read, or to a fault
    have hfield := draft.gives_readField name afterName beforeValue value hends
    simp only [List.append_assoc, List.cons_append, readFields, nextName_member]
    rw [List.foldlM_cons, Draft.addMember?]
    rcases hadd : (Json.text? name).bind fun name => draft.add? name value with _ | draft' <;>
      rw [hadd] at hfield
    · obtain ⟨failure, hfailure⟩ := hfield
      exact .of_eq (by rw [hfailure]) (.error failure rest)
    · have hfound : draft.readField _ = .ok (draft', _) := hfield
      exact .of_eq (by rw [hfound]) (ih after' turns false draft' (by omega))

/-- An object gives the principal to which its members lead from an empty draft. -/
theorem gives_readPrincipal_object (before : Blanks) (members : List (Member Written))
    (close : Blanks) (rest : Bytes) :
    (readPrincipal (before.bytes ++ ((Written.object members close).bytes ++ rest))).Gives
      ((members.foldlM Draft.addMember? ⟨none, none⟩).bind Draft.principal?) rest := by
  rw [readPrincipal, skipBlank_object]
  exact gives_readFields members .none close rest _ true ⟨none, none⟩
    (by rw [List.length_append]; omega)

/-! ## Arrays

An array holds the name and the roles, and nothing after them. Its items are read one after the
other, with a separator in between. -/

/-- The first item is read as the name. -/
theorem readArray_value (before : Blanks) (value : Written) (rest : Bytes) :
    readArray (before.bytes ++ (value.bytes ++ rest)) =
      (readText (value.bytes ++ rest)).andThen readArrayRoles := by
  obtain ⟨b, more, hbytes, hblank, hend, -⟩ := value.exists_cons_bytes
  rw [readArray, hbytes, List.cons_append, skipBlank_blanks_cons hblank]
  split
  next h => cases h
  next h => exact absurd (List.cons.inj h).1 hend
  next => rfl

/-- The second one as the roles. -/
theorem readArrayRoles_value (name : String) (after before : Blanks) (value : Written)
    (rest : Bytes) :
    readArrayRoles name (after.bytes ++ 0x2C :: (before.bytes ++ (value.bytes ++ rest))) =
      (readTexts (value.bytes ++ rest)).andThen fun roles rest =>
        (readArrayEnd rest).andThen fun _ rest => .ok (⟨name, roles⟩, rest) := by
  obtain ⟨b, more, hbytes, hblank, hend, -⟩ := value.exists_cons_bytes
  rw [readArrayRoles, skipBlank_blanks_cons (by decide), hbytes, List.cons_append]
  simp only [skipBlank_blanks_cons hblank]
  split
  next h => cases h
  next h => exact absurd (List.cons.inj h).1 hend
  next => rfl

/-- Nothing may follow but the bracket. -/
theorem readArrayEnd_closing (after close : Blanks) (rest : Bytes) :
    readArrayEnd (after.bytes ++ (close.bytes ++ 0x5D :: rest)) = .ok ((), rest) := by
  rw [readArrayEnd, skipBlank_blanks, skipBlank_blanks_cons (by decide)]
  rfl

/-- An array of two gives the principal with that name and those roles, if the one is a text and the
other a list of texts. -/
theorem gives_readPrincipal_list (before : Blanks) (name roles : Item Written) (close : Blanks)
    (rest : Bytes) :
    (readPrincipal (before.bytes ++ ((Written.list [name, roles] close).bytes ++ rest))).Gives
      (name.value.text?.bind fun name => roles.value.texts?.map fun roles => ⟨name, roles⟩)
      rest := by
  have hopen : skipBlank (before.bytes ++ ((Written.list [name, roles] close).bytes ++ rest)) =
      0x5B :: (name.before.bytes ++ (name.value.bytes ++ (name.after.bytes ++ 0x2C ::
        (roles.before.bytes ++ (roles.value.bytes ++ (roles.after.bytes ++
          (close.bytes ++ 0x5D :: rest))))))) := by
    rw [skipBlank_list]
    simp [Written.itemsBytes, separator]
  rw [readPrincipal, hopen]
  simp only [readArray_value]
  refine (gives_readText .none name.value _).andThen fun name _ => ?_
  rw [readArrayRoles_value, Option.map_eq_bind]
  refine (gives_readTexts .none roles.value _).andThen fun roles' _ => ?_
  rw [readArrayEnd_closing]
  exact .ok (Principal.mk name roles') rest

end

/-! ## Drafts

Members lead from one draft to another one after the other. Whether they do, and to which, is said
here of the whole list of them: of the two names that count, the values in the object, together with
what was known before, are one at most, and what is found is that one. The order of members of
different names does not occur in this. -/

/-- What is known of a member, by what its values hold: that it has not been given, or what it has
been found to be. -/
def Given {α : Type} (known : Option α) (values : List (Option α)) (found : Option α) : Prop :=
  known.toList.map some ++ values = found.toList.map some

section

variable {α : Type} {known found : Option α} {value : Option α} {values values' : List (Option α)}

/-- Without a member of the name nothing changes. -/
theorem given_nil_iff : Given known [] found ↔ known = found := by
  rw [Given, List.append_nil]
  cases known <;> cases found <;> simp

/-- A member may be given once. -/
theorem given_singleton_iff :
    Given known [value] found ↔ known = none ∧ value.isSome ∧ value = found := by
  rw [Given]
  cases known <;> cases found <;> cases value <;> simp

/-- Members may be taken in two parts, the second of which goes on from what the first has found. -/
theorem given_append_iff : Given known (values ++ values') found ↔
    ∃ between, Given known values between ∧ Given between values' found := by
  constructor
  · intro h
    rw [Given, ← List.append_assoc] at h
    -- what has been given before is nothing, or it is all that there is
    rcases hbefore : known.toList.map some ++ values with _ | ⟨first, more⟩
    · exact ⟨none, hbefore, by rwa [hbefore] at h⟩
    · rw [hbefore] at h
      cases found with
      | none => cases h
      | some a =>
        obtain ⟨rfl, hmore⟩ := List.cons.inj h
        obtain ⟨rfl, rfl⟩ := List.append_eq_nil_iff.mp hmore
        exact ⟨some a, hbefore, rfl⟩
  · rintro ⟨between, hbefore, hafter⟩
    rw [Given, ← List.append_assoc, hbefore, hafter]

end

/-- Members lead from a draft to another. -/
structure Draft.Follows (draft : Draft) (members : List (Member Written)) (after : Draft) :
    Prop where
  /-- the name of each of them is a text -/
  isSome : ∀ member ∈ members, (Json.text? member.name).isSome = true
  /-- and the two that count are given once at most -/
  name : Given draft.name ((valuesOf "name" members).map Written.text?) after.name
  roles : Given draft.roles ((valuesOf "roles" members).map Written.texts?) after.roles

/-- One member of a given name: it adds to what is known of that name, and nothing to the other. -/
theorem Draft.add?_eq_some_iff {draft after : Draft} {name : String} {value : Written} :
    draft.add? name value = some after ↔
      Given draft.name (if name = "name" then [value.text?] else []) after.name ∧
        Given draft.roles (if name = "roles" then [value.texts?] else []) after.roles := by
  obtain ⟨knownName, knownRoles⟩ := draft
  obtain ⟨foundName, foundRoles⟩ := after
  rw [Draft.add?]
  by_cases hname : name = "name"
  · have hroles : name ≠ "roles" := by rw [hname]; decide
    rw [if_pos hname, if_pos hname, if_neg hroles, given_singleton_iff, given_nil_iff]
    cases knownName <;> cases value.text? <;> simp
  · rw [if_neg hname, if_neg hname, given_nil_iff]
    by_cases hroles : name = "roles"
    · rw [if_pos hroles, if_pos hroles, given_singleton_iff]
      cases knownRoles <;> cases value.texts? <;> simp
    · rw [if_neg hroles, if_neg hroles, given_nil_iff]
      simp

/-- One member leads to a draft, if its name is a text. -/
theorem Draft.addMember?_eq_some_iff {draft after : Draft} {member : Member Written} :
    draft.addMember? member = some after ↔ draft.Follows [member] after := by
  rw [Draft.addMember?]
  rcases hname : Json.text? member.name with _ | name
  · constructor
    · exact fun h => nomatch h
    · rintro ⟨hsome, -, -⟩
      have h := hsome member List.mem_cons_self
      rw [hname] at h
      cases h
  · rw [Option.bind_some, Draft.add?_eq_some_iff, ← map_valuesOf_singleton hname,
      ← map_valuesOf_singleton hname]
    have hsome : ∀ other ∈ [member], (Json.text? other.name).isSome = true := by
      rw [List.forall_mem_singleton, hname]
      rfl
    exact ⟨fun ⟨hname, hroles⟩ => ⟨hsome, hname, hroles⟩, fun h => ⟨h.name, h.roles⟩⟩

/-- Members lead to a draft by way of the one to which the first of them leads. -/
theorem Draft.follows_cons_iff {draft after : Draft} {member : Member Written}
    {members : List (Member Written)} : draft.Follows (member :: members) after ↔
      ∃ between : Draft, draft.Follows [member] between ∧ between.Follows members after := by
  constructor
  · rintro ⟨hsome, hname, hroles⟩
    rw [valuesOf_cons, List.map_append, given_append_iff] at hname hroles
    obtain ⟨name, hname, hname'⟩ := hname
    obtain ⟨roles, hroles, hroles'⟩ := hroles
    rw [List.forall_mem_cons] at hsome
    exact ⟨⟨name, roles⟩, ⟨by simpa using hsome.1, hname, hroles⟩, ⟨hsome.2, hname', hroles'⟩⟩
  · rintro ⟨between, ⟨hsome, hname, hroles⟩, ⟨hsome', hname', hroles'⟩⟩
    constructor
    case isSome => exact List.forall_mem_cons.mpr ⟨hsome _ List.mem_cons_self, hsome'⟩
    case name =>
      rw [valuesOf_cons, List.map_append]
      exact given_append_iff.mpr ⟨_, hname, hname'⟩
    case roles =>
      rw [valuesOf_cons, List.map_append]
      exact given_append_iff.mpr ⟨_, hroles, hroles'⟩

/-- **To add members one after the other leads to the draft that follows from all of them.** -/
theorem Draft.foldlM_addMember?_eq_some_iff {draft after : Draft}
    {members : List (Member Written)} :
    members.foldlM Draft.addMember? draft = some after ↔ draft.Follows members after := by
  induction members generalizing draft with
  | nil =>
    obtain ⟨knownName, knownRoles⟩ := draft
    obtain ⟨foundName, foundRoles⟩ := after
    rw [List.foldlM_nil]
    constructor
    · rintro ⟨⟩
      exact ⟨fun _ h => (nomatch h), given_nil_iff.mpr rfl, given_nil_iff.mpr rfl⟩
    · rintro ⟨-, hname, hroles⟩
      obtain rfl := given_nil_iff.mp hname
      obtain rfl := given_nil_iff.mp hroles
      rfl
  | cons member members ih =>
    rw [List.foldlM_cons, Draft.follows_cons_iff]
    simp only [Option.bind_eq_bind, Option.bind_eq_some_iff, Draft.addMember?_eq_some_iff, ih]

/-! ## Texts

From an empty draft the members of an object lead to a principal if one of them is called `name`,
and that gives what an object describes. A text is what an object or an array is written as, with
any blanks, escapes and members besides. -/

/-- An object describes a principal, by its members in any order. -/
structure Describes (members : List (Member Written)) (p : Principal) : Prop where
  /-- the name of each of them is a text -/
  isSome : ∀ member ∈ members, (Json.text? member.name).isSome = true
  /-- one is called `name`, and holds that of the principal -/
  name : (valuesOf "name" members).map Written.text? = [some p.name]
  /-- one is called `roles`, and holds those of the principal, or there is none, and it has none -/
  roles : (valuesOf "roles" members).map Written.texts? = [some p.roles] ∨
    valuesOf "roles" members = [] ∧ p.roles = []

/-- There is one name. -/
theorem Describes.length_name {members : List (Member Written)} {p : Principal}
    (h : Describes members p) : (valuesOf "name" members).length = 1 := by
  rw [← List.length_map Written.text?, h.name, List.length_singleton]

/-- Roles are given once at most. -/
theorem Describes.length_roles_le {members : List (Member Written)} {p : Principal}
    (h : Describes members p) : (valuesOf "roles" members).length ≤ 1 := by
  rcases h.roles with hroles | ⟨hroles, -⟩
  · rw [← List.length_map Written.texts?, hroles]
    exact Nat.le_refl 1
  · rw [hroles]
    exact Nat.zero_le 1

/-- **The members of an object lead to a principal if they describe it.** -/
theorem describes_iff {members : List (Member Written)} {p : Principal} :
    (members.foldlM Draft.addMember? ⟨none, none⟩).bind Draft.principal? = some p ↔
      Describes members p := by
  simp only [Option.bind_eq_some_iff, Draft.foldlM_addMember?_eq_some_iff, Draft.principal?,
    Option.map_eq_some_iff]
  constructor
  · rintro ⟨⟨found, roles?⟩, ⟨hsome, hname, hroles⟩, name, rfl, rfl⟩
    refine ⟨hsome, hname, ?_⟩
    cases roles? with
    | none => exact .inr ⟨List.map_eq_nil_iff.mp hroles, rfl⟩
    | some roles => exact .inl hroles
  · rintro ⟨hsome, hname, hroles | ⟨hroles, hempty⟩⟩
    · exact ⟨⟨some p.name, some p.roles⟩, ⟨hsome, hname, hroles⟩, p.name, rfl, rfl⟩
    · refine ⟨⟨some p.name, none⟩, ⟨hsome, hname, ?_⟩, p.name, rfl, ?_⟩
      · rw [hroles]
        rfl
      · rw [Option.getD_none, ← hempty]

section

variable {text : String}

/-- **An object is read as the principal that it describes.** The order of the members, the blanks,
the other members and the way in which names and roles are spelled are all in the description, and
none of them matters. -/
theorem read_object_iff {members : List (Member Written)} {close : Blanks}
    (h : (Written.object members close).IsWrittenAs text) (p : Principal) :
    read text = .ok p ↔ Describes members p := by
  obtain ⟨before, after, htext⟩ := h
  have hread := gives_readPrincipal_object before members close after.bytes
  rw [← htext] at hread
  exact (readAll_eq_ok_iff hread p).trans describes_iff

/-- **An array is read as the principal of its two items.** The first must be a text, and the second
a list of texts. -/
theorem read_list_iff {name roles : Item Written} {close : Blanks}
    (h : (Written.list [name, roles] close).IsWrittenAs text) (p : Principal) :
    read text = .ok p ↔ name.value.text? = some p.name ∧ roles.value.texts? = some p.roles := by
  obtain ⟨before, after, htext⟩ := h
  have hread := gives_readPrincipal_list before name roles close after.bytes
  rw [← htext] at hread
  refine (readAll_eq_ok_iff hread p).trans ?_
  simp only [Option.bind_eq_some_iff, Option.map_eq_some_iff]
  constructor
  · rintro ⟨_, hname, _, hroles, rfl⟩
    exact ⟨hname, hroles⟩
  · rintro ⟨hname, hroles⟩
    exact ⟨p.name, hname, p.roles, hroles, rfl⟩

end

/-- A principal is written out as an object that describes it. -/
theorem exists_describes (p : Principal) :
    ∃ members, (Written.object members .none).IsWrittenAs p.text ∧ Describes members p := by
  obtain ⟨nameStrokes, hnameBytes, hname⟩ := exists_strokes "name"
  obtain ⟨rolesStrokes, hrolesBytes, hroles⟩ := exists_strokes "roles"
  obtain ⟨strokes, hstrokes, htext⟩ := exists_strokes p.name
  obtain ⟨items, hitems, htexts⟩ := exists_items p.roles true
  refine ⟨[⟨.none, nameStrokes, .none, .none, .string strokes, .none⟩,
    ⟨.none, rolesStrokes, .none, .none, .list items .none, .none⟩], ⟨.none, .none, ?_⟩, ?_, ?_, ?_⟩
  · rw [Principal.text, toJson, Json.strs, encode_text_obj, encode_writeMembers_cons,
      encode_writeMembers_cons, encode_text_str, encode_text_arr, ← hnameBytes, ← hrolesBytes,
      ← hstrokes, ← hitems]
    have hend : Utf8.encode (writeMembers "" false []) = [] := rfl
    simp [Written.bytes, membersBytes, separator, hend]
  · simp [hname, hroles]
  · simp [valuesOf, hname, hroles, Written.text?, htext]
  · simp [valuesOf, hname, hroles, Written.texts?, htexts]

/-- What texts principals are read from. The fields speak of texts by what they are written from:
`Written` says what an object or an array holds and where blanks and escapes stand in it, and
`IsWrittenAs` that a text is the writing of it. So each of them is about every text of its kind:

* `text` about the text that a principal is written out as;
* `object` about objects, with members in any order and of any names, and `without_roles` about the
  special case in which the member for roles is missing;
* `array` about arrays of two items;
* `refused` about objects that could be read in two ways, or that name nobody. -/
structure TextContract : Prop where
  /-- a principal is read from the text that it is written out as -/
  text : ∀ p : Principal, read p.text = .ok p
  /-- an object, in whatever way it is written, is read as the principal that it describes -/
  object : ∀ {text members close}, (Written.object members close).IsWrittenAs text →
    ∀ p, read text = .ok p ↔ Describes members p
  /-- without roles there are none -/
  without_roles : ∀ {text members close name}, (Written.object members close).IsWrittenAs text →
    (∀ member ∈ members, (Json.text? member.name).isSome = true) →
    (valuesOf "name" members).map Written.text? = [some name] → valuesOf "roles" members = [] →
    read text = .ok (named name)
  /-- an array of two is read as the principal of the one with the roles in the other -/
  array : ∀ {text name roles close}, (Written.list [name, roles] close).IsWrittenAs text →
    ∀ p, read text = .ok p ↔
      name.value.text? = some p.name ∧ roles.value.texts? = some p.roles
  /-- without a name, or with two of a kind, there is no principal -/
  refused : ∀ {text members close}, (Written.object members close).IsWrittenAs text →
    valuesOf "name" members = [] ∨ 1 < (valuesOf "name" members).length ∨
      1 < (valuesOf "roles" members).length →
    ∃ fault, read text = .error fault

/-- **A principal comes back from its text, and from any other that describes it.** The fields about
objects and arrays are the two equivalences above; a principal comes back from its own text because
that is an object that describes it, and two of a kind are refused because an object that describes
anybody has one name and roles once at most. -/
theorem textContract : TextContract where
  text p := by
    obtain ⟨members, htext, hdescribes⟩ := p.exists_describes
    exact (read_object_iff htext p).mpr hdescribes
  object := read_object_iff
  without_roles htext hsome hname hroles :=
    (read_object_iff htext _).mpr ⟨hsome, hname, .inr ⟨hroles, rfl⟩⟩
  array := read_list_iff
  refused {text members close} htext hrefused := by
    -- if there were a principal, the object would describe it
    rcases hread : read text with fault | p
    · exact ⟨fault, rfl⟩
    · have hdescribes := (read_object_iff htext p).mp hread
      have hname := hdescribes.length_name
      have hroles := hdescribes.length_roles_le
      rcases hrefused with hnone | hname' | hroles'
      · rw [hnone] at hname
        cases hname
      · omega
      · omega

/-- A name may be escaped, and what is passed over may be nested and hold names like those that
count. -/
example : (read "\x7b\"x\":\x7b\"name\":[1,\x7b\"roles\":-0.5e+3\x7d]\x7d,
    \"roles\":[\"admin\"],\"n\\u0061me\" :\"ada\"\x7d").toOption =
      some ⟨"ada", ["admin"]⟩ := by
  decide +kernel

end Principal

end ActionGateway
