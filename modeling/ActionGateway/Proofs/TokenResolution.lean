import ActionGateway.Identity.Tokens
import ActionGateway.Proofs.Cutting
import ActionGateway.Proofs.MediaTypes

/-!
# Who a token stands for

A header **presents** a token if its first value is text and carries it: something is left of the
text when the blanks at its ends are cut off, then one `Bearer ` in front, and then blanks again
(`Tokens.Presents`). A token that was configured **stands for** the principal of its last entry
(`Tokens.StandsFor`). The caller is a principal exactly if the first of the two headers that
presents a known token presents one that stands for it (`Tokens.resolve_eq_authenticated_iff`).

`Tokens.ResolutionContract` reads off from there what may be said of a caller, whatever is
configured and whatever the headers hold. An empty token may be configured, but nobody can present
it.

The definitions speak of texts and entries, not of functions: how blanks are cut off is
`Text.Trims`, and which entry counts is said of its place in the list. The reader of a header and
the look-up of a token are shown to find just what they describe (`Tokens.presented?_eq_some_iff`,
`Tokens.find?_eq_some_iff`), and the main result joins the two.
-/

namespace ActionGateway

namespace Tokens

/-! ## Tokens in headers

What a header presents does not depend on what is configured, and what a token stands for does not
depend on the headers. A token is recognised where the two meet. -/

/-- A text carries a token: what is left of it when blanks are cut off at its ends, and again once a
`Bearer ` in front has been cut off. If nothing is left, there is no token. -/
def Carries (text token : String) : Prop :=
  token ≠ "" ∧ ∃ bare rest, Text.Trims Text.isBlank text.toList bare ∧
    (bare = "Bearer ".toList ++ rest ∨ ¬ "Bearer ".toList <+: bare ∧ rest = bare) ∧
      Text.Trims Text.isBlank rest token.toList

/-- A header presents a token: its first value is a text that carries it. -/
def Presents (headers : Headers) (name token : String) : Prop :=
  ∃ text, headers.first? name = some (Utf8.encode text) ∧
    (∀ c ∈ text.toList, HeaderValue.IsTextChar c) ∧ Carries text token

/-- A token was configured, with whatever principal. -/
def Holds (tokens : Tokens) (token : String) : Prop :=
  ∃ principal, (token, principal) ∈ tokens.entries

/-- The last entry for a token is one for the principal. -/
def StandsFor (tokens : Tokens) (token : String) (principal : Principal) : Prop :=
  ∃ before after, tokens.entries = before ++ (token, principal) :: after ∧
    ∀ entry ∈ after, entry.1 ≠ token

/-- A header presents a token that was configured. -/
def Recognises (tokens : Tokens) (headers : Headers) (name : String) : Prop :=
  ∃ token, Presents headers name token ∧ tokens.Holds token

/-! ## The token of a header

A header is read in four steps: its first value is taken as a text, blanks are cut off at the ends,
one `Bearer ` in front is cut off, and then blanks again. Each of them has one outcome, so a header
presents one token at most. -/

section

variable {headers : Headers} {name text token : String}

/-- What is left when a start is cut off, once, if it is there. -/
theorem withoutStart_eq_iff {start chars rest : List Char} :
    withoutStart start chars = rest ↔
      chars = start ++ rest ∨ ¬ start <+: chars ∧ rest = chars := by
  rw [withoutStart]
  by_cases hstart : start <+: chars
  · obtain ⟨follows, rfl⟩ := hstart
    rw [if_pos (List.isPrefixOf_iff_prefix.mpr (List.prefix_append start follows)),
      List.drop_left, List.append_cancel_left_eq]
    exact ⟨.inl, fun h => h.elim id fun hnot => absurd (List.prefix_append start follows) hnot.1⟩
  · rw [if_neg (mt List.isPrefixOf_iff_prefix.mp hstart)]
    constructor
    · rintro rfl
      exact .inr ⟨hstart, rfl⟩
    · rintro (rfl | ⟨-, rfl⟩)
      · exact absurd (List.prefix_append start rest) hstart
      · rfl

/-- A text is read as the token that it carries. -/
theorem tokenOfText?_eq_some_iff : tokenOfText? text = some token ↔ Carries text token := by
  rw [tokenOfText?]
  constructor
  · intro h
    -- what is left behind `Bearer ` is given a name, of which nothing else has to be known
    have hrest := withoutStart_eq_iff.mp (Eq.refl (withoutStart "Bearer ".toList
      (trimmed text.toList)))
    generalize withoutStart "Bearer ".toList (trimmed text.toList) = rest at h hrest
    split at h
    next => cases h
    next hne =>
      obtain rfl := Option.some.inj h
      have htoken : Text.Trims Text.isBlank rest (String.ofList (trimmed rest)).toList := by
        rw [String.toList_ofList]
        exact Text.trims_trimList _ _
      refine ⟨fun hempty => hne ?_, trimmed text.toList, rest, Text.trims_trimList _ _, hrest,
        htoken⟩
      rw [String.ofList_eq_empty_iff.mp hempty, List.isEmpty_nil]
  · rintro ⟨hne, bare, rest, hbare, hrest, htoken⟩
    have hchars : trimmed (withoutStart "Bearer ".toList (trimmed text.toList)) = token.toList := by
      rw [trimmed, trimmed, hbare.trimList_eq, withoutStart_eq_iff.mpr hrest, htoken.trimList_eq]
    have hfull : ¬ token.toList.isEmpty = true :=
      mt List.isEmpty_iff.mp (mt String.toList_eq_nil_iff.mp hne)
    rw [hchars, if_neg hfull, String.ofList_toList]

/-- **What is read from a header is the token that it presents.** A value with a byte beyond visible
ASCII is no text and presents nothing, and neither does a blank one. -/
theorem presented?_eq_some_iff :
    presented? headers name = some token ↔ Presents headers name token := by
  simp only [presented?, Option.bind_eq_some_iff, tokenOfText?_eq_some_iff,
    HeaderValue.text?_eq_some_iff, Presents]
  constructor
  · rintro ⟨text, ⟨value, hvalue, rfl, htext⟩, hcarries⟩
    exact ⟨text, hvalue, htext, hcarries⟩
  · rintro ⟨text, hvalue, htext, hcarries⟩
    exact ⟨text, ⟨_, hvalue, rfl, htext⟩, hcarries⟩

end

/-! ## The principal of a token

Entries are kept in the order of the configuration, and a token may have more than one. All of them
are compared, and the last counts; so the look-up goes from the end. -/

section

variable {tokens : Tokens} {headers : Headers} {name token : String} {principal : Principal}

/-- Whether or not one was found, all entries are compared, and the last one that fits is kept. -/
theorem find?_eq_foldl (tokens : Tokens) (token : String) : tokens.find? token =
    tokens.entries.foldl (fun found entry => if entry.1 = token then some entry.2 else found)
      none := by
  rw [find?, List.foldl_eq_foldr_reverse]
  -- on the entries from the last to the first, as the look-up takes them
  induction tokens.entries.reverse with
  | nil => rfl
  | cons entry rest ih =>
    rw [List.foldr_cons, ← ih, List.find?_cons]
    by_cases hentry : entry.1 = token
    · rw [decide_eq_true hentry, if_pos hentry, Option.map_some]
    · rw [decide_eq_false hentry, if_neg hentry]

/-- **The last entry for a token counts.** Entries before it are kept and never found. -/
theorem find?_eq_some_iff :
    tokens.find? token = some principal ↔ tokens.StandsFor token principal := by
  simp only [find?, Option.map_eq_some_iff, List.find?_eq_some_iff_append, decide_eq_true_eq]
  constructor
  · rintro ⟨entry, ⟨rfl, after, before, hentries, hafter⟩, rfl⟩
    rw [List.reverse_eq_append_iff, List.reverse_cons, List.append_assoc] at hentries
    refine ⟨before.reverse, after.reverse, hentries, fun entry hentry => ?_⟩
    simpa using hafter entry (List.mem_reverse.mp hentry)
  · rintro ⟨before, after, hentries, hafter⟩
    refine ⟨(token, principal), ⟨rfl, after.reverse, before.reverse, ?_, fun entry hentry => ?_⟩,
      rfl⟩
    · rw [hentries, List.reverse_append, List.reverse_cons, List.append_assoc]
      rfl
    · simpa using hafter entry (List.mem_reverse.mp hentry)

/-- Every token that was configured stands for somebody. -/
theorem exists_standsFor_iff : (∃ principal, tokens.StandsFor token principal) ↔
    tokens.Holds token := by
  constructor
  · rintro ⟨principal, before, after, hentries, -⟩
    exact ⟨principal, hentries ▸ List.mem_append_right before List.mem_cons_self⟩
  · rintro ⟨principal, hmem⟩
    have hsome : (tokens.entries.reverse.find? fun entry => entry.1 = token).isSome = true :=
      List.find?_isSome.mpr ⟨_, List.mem_reverse.mpr hmem, decide_eq_true rfl⟩
    obtain ⟨entry, hentry⟩ := Option.isSome_iff_exists.mp hsome
    exact ⟨entry.2, find?_eq_some_iff.mp (by rw [find?, hentry, Option.map_some])⟩

/-- What is looked up for a header is the principal for whom its token stands. -/
theorem bind_find?_eq_some_iff : (presented? headers name).bind tokens.find? = some principal ↔
    ∃ token, Presents headers name token ∧ tokens.StandsFor token principal := by
  simp only [Option.bind_eq_some_iff, presented?_eq_some_iff, find?_eq_some_iff]

/-- Nothing is found exactly if the header presents no known token. -/
theorem bind_find?_eq_none_iff :
    (presented? headers name).bind tokens.find? = none ↔ ¬ tokens.Recognises headers name := by
  rw [Option.eq_none_iff_forall_ne_some]
  simp only [ne_eq, bind_find?_eq_some_iff, Recognises, ← exists_standsFor_iff]
  constructor
  · rintro h ⟨token, hpresents, principal, hstands⟩
    exact h principal ⟨token, hpresents, hstands⟩
  · rintro h principal ⟨token, hpresents, hstands⟩
    exact h ⟨token, hpresents, principal, hstands⟩

/-- **Who the caller is.** The second header decides only if the first presents no known token. -/
theorem resolve_eq_authenticated_iff : tokens.resolve headers = .authenticated principal ↔
    ∃ token, tokens.StandsFor token principal ∧
      (Presents headers "authorization" token ∨
        ¬ tokens.Recognises headers "authorization" ∧ Presents headers "x-ckan-api-key" token) := by
  -- the headers are asked in their order, and the first that gives a principal decides
  have hcaller : tokens.resolve headers = .authenticated principal ↔
      ((presented? headers "authorization").bind tokens.find?).or
        ((presented? headers "x-ckan-api-key").bind tokens.find?) = some principal := by
    simp only [resolve, headerNames, List.findSome?_cons, List.findSome?_nil]
    rcases (presented? headers "authorization").bind tokens.find? with _ | first
    · rcases (presented? headers "x-ckan-api-key").bind tokens.find? with _ | second <;> simp
    · simp
  rw [hcaller, Option.or_eq_some_iff, bind_find?_eq_some_iff, bind_find?_eq_none_iff,
    bind_find?_eq_some_iff]
  constructor
  · rintro (⟨token, hpresents, hstands⟩ | ⟨hnot, token, hpresents, hstands⟩)
    · exact ⟨token, hstands, .inl hpresents⟩
    · exact ⟨token, hstands, .inr ⟨hnot, hpresents⟩⟩
  · rintro ⟨token, hstands, hpresents | ⟨hnot, hpresents⟩⟩
    · exact .inl ⟨token, hpresents, hstands⟩
    · exact .inr ⟨hnot, token, hpresents, hstands⟩

/-- Of two entries for a token the later one counts, and an empty token is nobody's. -/
example : (Tokens.mk [("", .named "eve"), ("t", .named "alice"), ("t", .named "bob")]).resolve
    [("authorization", Utf8.encode "Bearer"), ("x-ckan-api-key", Utf8.encode " Bearer t ")] =
      .authenticated (.named "bob") := by
  decide +kernel

end

/-! ## What can be presented

A client sends a token after `Bearer ` in a header. Of which tokens that gives back the token is a
matter of headers and blanks alone: its characters must be such as may stand in a header as text,
and none may be cut off at its ends. -/

/-- A token of visible characters of ASCII and spaces, but for its ends. -/
structure IsSendable (token : String) : Prop where
  ne_empty : token ≠ ""
  chars : ∀ c ∈ token.toList, 0x20 ≤ c.toNat ∧ c.toNat < 0x7F
  first : ∀ c ∈ token.toList.head?, c ≠ ' '
  last : ∀ c ∈ token.toList.getLast?, c ≠ ' '

/-- No token is in a header that is missing, blank, or not of ASCII. -/
def Unusable (value? : Option Bytes) : Prop :=
  ∀ value ∈ value?, (∀ b ∈ value, b = 0x20 ∨ b = 0x09) ∨ ∃ b ∈ value, 0x80 ≤ b

section

variable {headers : Headers} {name text token : String}

/-- Among visible ASCII and the space, the space alone is blank. -/
theorem isBlank_eq_false {c : Char} (h : 0x20 ≤ c.toNat ∧ c.toNat < 0x7F) (hc : c ≠ ' ') :
    Text.isBlank c = false := by
  have hcode : c.toNat ≠ 0x20 := fun heq => hc (Char.toNat_inj.mp heq)
  simp only [Text.isBlank, Bool.or_eq_false_iff, Bool.and_eq_false_imp, decide_eq_true_eq,
    decide_eq_false_iff_not]
  omega

/-- Nothing is cut off a token that can be sent. -/
theorem IsSendable.trims (h : IsSendable token) :
    Text.Trims Text.isBlank token.toList token.toList :=
  Text.trims_self
    (fun c hc => isBlank_eq_false (h.chars c (List.mem_of_mem_head? hc)) (h.first c hc))
    fun c hc => isBlank_eq_false (h.chars c (List.mem_of_mem_getLast? hc)) (h.last c hc)

/-- **A token comes back after `Bearer`**, even if it begins with that word itself. -/
theorem IsSendable.carries (h : IsSendable token) : Carries ("Bearer " ++ token) token := by
  have hne : token.toList ≠ [] := mt String.toList_eq_nil_iff.mp h.ne_empty
  have hwhole : Text.Trims Text.isBlank ("Bearer " ++ token).toList
      ("Bearer ".toList ++ token.toList) := by
    rw [String.toList_append]
    refine Text.trims_self (fun c hc => ?_) ?_
    · obtain rfl : 'B' = c := Option.some.inj hc
      decide
    · rw [List.getLast?_append_of_ne_nil _ hne]
      exact h.trims.last
  exact ⟨h.ne_empty, _, token.toList, hwhole, .inl rfl, h.trims⟩

/-- A token that can be sent is presented by the header that it is sent in. -/
theorem IsSendable.presents (h : IsSendable token)
    (hvalue : headers.first? name = some (Utf8.encode ("Bearer " ++ token))) :
    Presents headers name token := by
  refine ⟨_, hvalue, fun c hc => ?_, h.carries⟩
  rw [String.toList_append, List.mem_append] at hc
  rcases hc with hbearer | htoken
  · have hall : ("Bearer ".toList.all fun c => 0x20 ≤ c.toNat ∧ c.toNat < 0x7F) = true := by decide
    exact .inr (of_decide_eq_true (List.all_eq_true.mp hall c hbearer))
  · exact .inr (h.chars c htoken)

/-- A text of blanks carries no token. -/
theorem not_carries_of_blank (h : Text.Blank text.toList) : ¬ Carries text token := by
  rintro ⟨hne, bare, rest, hbare, hrest, htoken⟩
  obtain rfl : bare = [] := by
    rw [← hbare.trimList_eq]
    exact Text.trimList_eq_nil_iff.mpr h
  obtain rfl : rest = [] := by
    rcases hrest with hcut | ⟨-, rfl⟩
    · cases hcut
    · rfl
  exact hne (String.toList_eq_nil_iff.mp htoken.trimList_eq.symm)

/-- Nothing is presented by a header without a usable value. -/
theorem not_presents_of_unusable (h : Unusable (headers.first? name)) :
    ¬ Presents headers name token := by
  rintro ⟨text, hvalue, htext, hcarries⟩
  have hascii : Utf8.IsAscii text := fun c hc => (htext c hc).toNat_lt
  -- a value of blanks is a blank text, and one with a byte above ASCII is no text
  rcases h _ hvalue with hblank | ⟨b, hb, hhigh⟩
  · refine not_carries_of_blank (fun c hc => ?_) hcarries
    have hbyte : UInt8.ofNat c.toNat ∈ Utf8.encode text := by
      rw [Utf8.encode_of_ascii hascii]
      exact List.mem_map_of_mem hc
    rw [← Utf8.ofNat_toNat_of_ascii (hascii c hc)]
    rcases hblank _ hbyte with heq | heq <;> rw [heq] <;> decide
  · have hlow : ∀ b ∈ Utf8.encode text, b.toNat < 128 :=
      Utf8.forall_mem_encode_of_ascii hascii fun c hc => by
        rw [UInt8.toNat_ofNat_of_lt' (Nat.lt_trans (hascii c hc) (by decide))]
        exact hascii c hc
    exact absurd (hlow b hb) (Nat.not_lt.mpr (UInt8.le_iff_toNat_le.mp hhigh))

end

/-! ## The contract -/

/-- What may be said of a caller who sent headers. The caller is a parameter, and
`resolutionContract` puts in the one that is resolved.

* `authenticated_iff` says who the caller is, in both directions: nobody is authenticated without a
  token of theirs, and with one everybody is. As it holds of every principal, it also says when the
  caller is anonymous.
* `authorization` and `apiKey` say that a client who sends a configured token as clients do is known
  by it, in either header.
* `unusable` and `anonymous` are about headers that cannot hold a token, whatever is configured:
  even an empty token is not presented by an empty header. -/
structure ResolutionContract (tokens : Tokens) (headers : Headers) (caller : Identity) : Prop where
  /-- a caller is somebody exactly if a token of theirs was presented, by the second header only if
  the first presents no known token -/
  authenticated_iff : ∀ principal, caller = .authenticated principal ↔
    ∃ token, tokens.StandsFor token principal ∧
      (Presents headers "authorization" token ∨
        ¬ tokens.Recognises headers "authorization" ∧ Presents headers "x-ckan-api-key" token)
  /-- a token that was configured is known when it is sent in the first header -/
  authorization : ∀ token, tokens.Holds token → IsSendable token →
    headers.first? "authorization" = some (Utf8.encode ("Bearer " ++ token)) →
      ∃ principal, tokens.StandsFor token principal ∧ caller = .authenticated principal
  /-- and in the second one, if the first presents no known token -/
  apiKey : ∀ token, tokens.Holds token → IsSendable token →
    ¬ tokens.Recognises headers "authorization" →
      headers.first? "x-ckan-api-key" = some (Utf8.encode ("Bearer " ++ token)) →
        ∃ principal, tokens.StandsFor token principal ∧ caller = .authenticated principal
  /-- no token is presented by a header that is missing, blank or not of ASCII -/
  unusable : ∀ name, Unusable (headers.first? name) → ∀ token, ¬ Presents headers name token
  /-- and nobody is known by two such headers -/
  anonymous : Unusable (headers.first? "authorization") →
    Unusable (headers.first? "x-ckan-api-key") → caller = .anonymous

/-- **A caller is known by the tokens that they present, and by nothing else**, for every
configuration and all headers, whatever bytes their values have.

The first field is the equivalence above. The next two apply it to what a client sends, which
presents the token that was put in (`IsSendable.presents`); in the last two there is nothing to
apply it to. -/
theorem resolutionContract (tokens : Tokens) (headers : Headers) :
    ResolutionContract tokens headers (tokens.resolve headers) where
  authenticated_iff := fun _ => resolve_eq_authenticated_iff
  authorization := by
    intro token hholds hsendable hvalue
    obtain ⟨principal, hstands⟩ := exists_standsFor_iff.mpr hholds
    exact ⟨principal, hstands,
      resolve_eq_authenticated_iff.mpr ⟨token, hstands, .inl (hsendable.presents hvalue)⟩⟩
  apiKey := by
    intro token hholds hsendable hnot hvalue
    obtain ⟨principal, hstands⟩ := exists_standsFor_iff.mpr hholds
    exact ⟨principal, hstands,
      resolve_eq_authenticated_iff.mpr ⟨token, hstands, .inr ⟨hnot, hsendable.presents hvalue⟩⟩⟩
  unusable := fun _ h _ => not_presents_of_unusable h
  anonymous := by
    intro hfirst hsecond
    cases hcaller : tokens.resolve headers with
    | anonymous => rfl
    | authenticated principal =>
      obtain ⟨token, -, hpresents | ⟨-, hpresents⟩⟩ := resolve_eq_authenticated_iff.mp hcaller
      · exact absurd hpresents (not_presents_of_unusable hfirst)
      · exact absurd hpresents (not_presents_of_unusable hsecond)

end Tokens

end ActionGateway
