import Mathlib.Data.List.Forall2
import ActionGateway.Identity.Tokens
import ActionGateway.Proofs.Cutting

/-!
# What a text configures

A text is cut at its commas, and each piece that is not blank has to give a token and its user. What
a piece gives (`Tokens.Gives`) and what is wrong with one that gives nothing (`Tokens.Faulty`) are
told of the piece as it stands in the text: of what comes before its first equals sign, and of what
comes after. So no word is lost on the cutting of blanks, which reading does at three places.

`Tokens.ParseContract` says that a text is read exactly as far as its pieces are right, and
`Tokens.parse_written` that what was written is read.

The two sides of the contract are definitions that know nothing of how a text is read: a piece is
right or not by its characters, and there is at most one fault that fits it. That reading finds just
these is shown for one piece (`Tokens.parseEntry_eq_ok_iff`, `Tokens.parseEntry_eq_error_iff`) and
then for the list of them.
-/

namespace ActionGateway

namespace Tokens

/-! ## What a text says

A piece is split at its first equals sign, so the user may hold more of them. Blanks around the
piece, the token and the user do not count; those within them do. -/

/-- What comes before the first equals sign of a piece, and what comes after it. -/
structure Parts (piece before after : List Char) : Prop where
  eq : piece = before ++ '=' :: after
  first : '=' ∉ before

/-- A piece is right: it has an equals sign, and text on both sides of the first. -/
def WellFormed (piece : List Char) : Prop :=
  ∃ before after, Parts piece before after ∧ ¬ Text.Blank before ∧ ¬ Text.Blank after

/-- A piece gives a token and a user. Neither is empty or has blanks at its ends. -/
structure Gives (piece : List Char) (token user : String) : Prop where
  parts : ∃ before after, Parts piece before after ∧
    Text.Trims Text.isBlank before token.toList ∧ Text.Trims Text.isBlank after user.toList
  token_ne : token ≠ ""
  user_ne : user ≠ ""

/-- What is wrong with a piece. That there is no user is said first. -/
inductive Faulty : List Char → TokenFault → Prop
  | noEquals {piece entry : List Char} (hequals : '=' ∉ piece)
    (hentry : Text.Trims Text.isBlank piece entry) : Faulty piece (.malformed (.ofList entry))
  | noUser {piece before after entry : List Char} (hparts : Parts piece before after)
    (huser : Text.Blank after) (hentry : Text.Trims Text.isBlank piece entry) :
    Faulty piece (.malformed (.ofList entry))
  | noToken {piece before after user : List Char} (hparts : Parts piece before after)
    (htoken : Text.Blank before) (huser : ¬ Text.Blank after)
    (htrims : Text.Trims Text.isBlank after user) : Faulty piece (.emptyToken (.ofList user))

/-- The pieces between the commas of a text that are not blank, as they stand there. -/
def writtenPieces (text : String) : List (List Char) :=
  (Text.splitOn ',' text.toList).filter fun piece => ¬ Text.Blank piece

/-! ## One piece

Reading cuts the blanks off a piece, splits it, and cuts the blanks off both parts. That is the same
as splitting it first (`Tokens.Parts.trimmed`), and so everything can be said of the parts as they
stand in the text. -/

section

variable {piece before after : List Char}

/-- Cutting blanks off gives the core between them. -/
theorem trimmed_eq_of_trims {chars core : List Char} (h : Text.Trims Text.isBlank chars core) :
    trimmed chars = core :=
  h.trimList_eq

/-- Nothing is left exactly if all is blank. -/
theorem trimmed_eq_nil_iff {chars : List Char} : trimmed chars = [] ↔ Text.Blank chars :=
  Text.trimList_eq_nil_iff

/-- Blanks at the ends of a piece are blanks at the ends of what comes before and after its equals
sign, where they are cut off once more. -/
theorem Parts.trimmed (h : Parts piece before after) :
    ∃ before' after', Parts (Tokens.trimmed piece) before' after' ∧
      Tokens.trimmed before' = Tokens.trimmed before ∧
      Tokens.trimmed after' = Tokens.trimmed after := by
  obtain ⟨rfl, hfirst⟩ := h
  have hcut : Tokens.trimmed (before ++ '=' :: after) =
      before.dropWhile Text.isBlank ++ '=' :: after.rdropWhile Text.isBlank :=
    Text.trimList_append_cons (by decide) before after
  have hfirst' : '=' ∉ before.dropWhile Text.isBlank :=
    mt (List.dropWhile_sublist Text.isBlank).mem hfirst
  refine ⟨_, _, ⟨hcut, hfirst'⟩, ?_, ?_⟩
  · rw [Tokens.trimmed, Text.trimList, List.dropWhile_idempotent]
    rfl
  · -- the blanks that have been cut off behind are put back, and cut off with the others
    have hback : ∀ c ∈ after.rtakeWhile Text.isBlank, Text.isBlank c = true := fun _ =>
      List.mem_rtakeWhile_imp
    have hafter : after.rdropWhile Text.isBlank ++ after.rtakeWhile Text.isBlank = after :=
      List.rdropWhile_append_rtakeWhile
    have htrims := (Text.trims_trimList Text.isBlank (after.rdropWhile Text.isBlank)).append
      (List.forall_mem_nil _) hback
    rw [List.nil_append, hafter] at htrims
    exact htrims.trimList_eq.symm

/-- What a piece with an equals sign is read as. -/
theorem parseEntry_of_parts (h : Parts piece before after) :
    parseEntry (trimmed piece) =
      if trimmed after = [] then .error (.malformed (.ofList (trimmed piece)))
      else if trimmed before = [] then .error (.emptyToken (.ofList (trimmed after)))
      else .ok (.ofList (trimmed before), .ofList (trimmed after)) := by
  obtain ⟨before', after', hparts, hbefore, hafter⟩ := h.trimmed
  have hsplit : Text.splitFirst? '=' (trimmed piece) = some (before', after') :=
    Text.splitFirst?_eq_some_iff.mpr ⟨hparts.eq, hparts.first⟩
  simp only [parseEntry, hsplit, hbefore, hafter, List.isEmpty_iff]

/-- A piece without an equals sign is read as nothing, and shown without its blanks. -/
theorem parseEntry_of_not_mem (h : '=' ∉ piece) :
    parseEntry (trimmed piece) = .error (.malformed (.ofList (trimmed piece))) := by
  have hsplit : Text.splitFirst? '=' (trimmed piece) = none :=
    Text.splitFirst?_eq_none_iff.mpr fun hmem => h (Text.mem_of_mem_trimList hmem)
  rw [parseEntry, hsplit]

/-- **A piece is read as what it gives**: the token before its first equals sign and the user after
it, both without the blanks around them, and neither of them empty. -/
theorem parseEntry_eq_ok_iff {token user : String} :
    parseEntry (trimmed piece) = .ok (token, user) ↔ Gives piece token user := by
  constructor
  · intro h
    -- the piece has its first equals sign, or it has none
    by_cases hequals : '=' ∈ piece
    · obtain ⟨before, after, heq, hfirst⟩ := List.eq_append_cons_of_mem hequals
      rw [parseEntry_of_parts ⟨heq, hfirst⟩] at h
      split at h
      next => cases h
      next huser =>
        split at h
        next => cases h
        next htoken =>
          obtain ⟨rfl, rfl⟩ := Prod.mk.inj (Except.ok.inj h)
          exact ⟨⟨before, after, ⟨heq, hfirst⟩, Text.trims_iff.mpr String.toList_ofList.symm,
            Text.trims_iff.mpr String.toList_ofList.symm⟩, mt String.ofList_eq_empty_iff.mp htoken,
            mt String.ofList_eq_empty_iff.mp huser⟩
    · rw [parseEntry_of_not_mem hequals] at h
      cases h
  · rintro ⟨⟨before, after, hparts, hbefore, hafter⟩, htoken, huser⟩
    rw [parseEntry_of_parts hparts, trimmed_eq_of_trims hbefore, trimmed_eq_of_trims hafter,
      if_neg (mt String.toList_eq_nil_iff.mp huser), if_neg (mt String.toList_eq_nil_iff.mp htoken),
      String.ofList_toList, String.ofList_toList]

/-- **A piece that gives nothing is refused for what is wrong with it.** -/
theorem parseEntry_eq_error_iff {fault : TokenFault} :
    parseEntry (trimmed piece) = .error fault ↔ Faulty piece fault := by
  constructor
  · intro h
    by_cases hequals : '=' ∈ piece
    · obtain ⟨before, after, heq, hfirst⟩ := List.eq_append_cons_of_mem hequals
      rw [parseEntry_of_parts ⟨heq, hfirst⟩] at h
      split at h
      next huser =>
        cases h
        exact .noUser ⟨heq, hfirst⟩ (trimmed_eq_nil_iff.mp huser) (Text.trims_trimList _ _)
      next huser =>
        split at h
        next htoken =>
          cases h
          exact .noToken ⟨heq, hfirst⟩ (trimmed_eq_nil_iff.mp htoken)
            (mt trimmed_eq_nil_iff.mpr huser) (Text.trims_trimList _ _)
        next => cases h
    · rw [parseEntry_of_not_mem hequals] at h
      cases h
      exact .noEquals hequals (Text.trims_trimList _ _)
  · intro h
    cases h with
    | noEquals hequals hentry =>
      rw [parseEntry_of_not_mem hequals, trimmed_eq_of_trims hentry]
    | noUser hparts huser hentry =>
      rw [parseEntry_of_parts hparts, if_pos (trimmed_eq_nil_iff.mpr huser),
        trimmed_eq_of_trims hentry]
    | noToken hparts htoken huser htrims =>
      rw [parseEntry_of_parts hparts, if_neg (mt trimmed_eq_nil_iff.mp huser),
        if_pos (trimmed_eq_nil_iff.mpr htoken), trimmed_eq_of_trims htrims]

/-- A piece is right exactly if it gives something. -/
theorem wellFormed_iff : WellFormed piece ↔ ∃ token user, Gives piece token user := by
  constructor
  · rintro ⟨before, after, hparts, hbefore, hafter⟩
    have hread := parseEntry_of_parts hparts
    rw [if_neg (mt trimmed_eq_nil_iff.mp hafter),
      if_neg (mt trimmed_eq_nil_iff.mp hbefore)] at hread
    exact ⟨_, _, parseEntry_eq_ok_iff.mp hread⟩
  · rintro ⟨token, user, ⟨before, after, hparts, hbefore, hafter⟩, htoken, huser⟩
    refine ⟨before, after, hparts, fun hblank => htoken ?_, fun hblank => huser ?_⟩
    · rw [← String.toList_eq_nil_iff, ← trimmed_eq_of_trims hbefore]
      exact trimmed_eq_nil_iff.mpr hblank
    · rw [← String.toList_eq_nil_iff, ← trimmed_eq_of_trims hafter]
      exact trimmed_eq_nil_iff.mpr hblank

end

/-! ## All pieces

The pieces are read in the order of the text up to the first that is not right, which decides what
is said. The inductions follow that order. -/

/-- The pieces that are read are those that are not blank, with their blanks cut off. -/
theorem pieces_eq (text : String) : pieces text = (writtenPieces text).map trimmed := by
  rw [pieces, writtenPieces, List.filter_map]
  congr 1
  refine List.filter_congr fun piece _ => ?_
  rw [Bool.eq_iff_iff, Function.comp_apply]
  simp [trimmed_eq_nil_iff]

/-- The pieces are read one after the other. -/
theorem parseEntries_eq_ok_iff {pieces : List (List Char)} {pairs : List (String × String)} :
    parseEntries (pieces.map trimmed) = .ok pairs ↔
      List.Forall₂ (fun piece pair => Gives piece pair.1 pair.2) pieces pairs := by
  induction pieces generalizing pairs with
  | nil =>
    rw [List.forall₂_nil_left_iff, List.map_nil, parseEntries, Except.ok.injEq]
    exact eq_comm
  | cons piece pieces ih =>
    rw [List.map_cons, parseEntries, List.forall₂_cons_left_iff]
    constructor
    · intro h
      split at h
      next => cases h
      next pair hpair =>
        split at h
        next => cases h
        next rest hrest =>
          obtain rfl := Except.ok.inj h
          exact ⟨pair, rest, parseEntry_eq_ok_iff.mp hpair, ih.mp hrest, rfl⟩
    · rintro ⟨pair, rest, hpair, hrest, rfl⟩
      rw [parseEntry_eq_ok_iff.mpr hpair, ih.mpr hrest]

/-- What is said is what is wrong with the first piece that is not right. -/
theorem exists_first_faulty {pieces : List (List Char)} {fault : TokenFault}
    (h : parseEntries (pieces.map trimmed) = .error fault) :
    ∃ front piece back, pieces = front ++ piece :: back ∧ (∀ right ∈ front, WellFormed right) ∧
      Faulty piece fault := by
  induction pieces with
  | nil => cases h
  | cons piece pieces ih =>
    rw [List.map_cons, parseEntries] at h
    split at h
    next hfault =>
      cases h
      exact ⟨[], piece, pieces, rfl, List.forall_mem_nil _, parseEntry_eq_error_iff.mp hfault⟩
    next pair hpair =>
      split at h
      next hrest =>
        cases h
        obtain ⟨front, wrong, back, rfl, hfront, hwrong⟩ := ih hrest
        have hright : WellFormed piece := wellFormed_iff.mpr ⟨_, _, parseEntry_eq_ok_iff.mp hpair⟩
        exact ⟨piece :: front, wrong, back, rfl, List.forall_mem_cons.mpr ⟨hright, hfront⟩, hwrong⟩
      next => cases h

/-- What is wrong with a piece is not said of one that is right. -/
theorem Faulty.not_wellFormed {piece : List Char} {fault : TokenFault} (h : Faulty piece fault) :
    ¬ WellFormed piece := by
  intro hright
  obtain ⟨token, user, hgives⟩ := wellFormed_iff.mp hright
  cases (parseEntry_eq_error_iff.mpr h).symm.trans (parseEntry_eq_ok_iff.mpr hgives)

/-! ## Texts

The contract of a text puts the results about its pieces together, and says of what pieces it is
made: those between its commas. -/

variable {text : String} {tokens : Tokens} {fault : TokenFault}

/-- **A text is read as what its pieces give**, one entry for each. -/
theorem forall₂_gives_of_parse (h : parse text = .ok tokens) :
    List.Forall₂ (fun piece entry => ∃ token user, Gives piece token user ∧
      entry = (token, ⟨user, []⟩)) (writtenPieces text) tokens.entries := by
  rw [parse, pieces_eq] at h
  rcases hpairs : parseEntries ((writtenPieces text).map trimmed) with fault | pairs
  · rw [hpairs] at h
    cases h
  · rw [hpairs] at h
    obtain rfl := Except.ok.inj h
    rw [List.forall₂_map_right_iff]
    exact (parseEntries_eq_ok_iff.mp hpairs).imp fun piece pair hgives =>
      ⟨pair.1, pair.2, hgives, rfl⟩

/-- **A text is refused for what is wrong with its first piece that is not right.** Faults of later
pieces do not show, nor does anything of the pieces before. -/
theorem exists_first_faulty_of_parse (h : parse text = .error fault) :
    ∃ front piece back, writtenPieces text = front ++ piece :: back ∧
      (∀ right ∈ front, WellFormed right) ∧ Faulty piece fault := by
  rw [parse, pieces_eq] at h
  rcases hpairs : parseEntries ((writtenPieces text).map trimmed) with fault' | pairs
  · rw [hpairs] at h
    obtain rfl := Except.error.inj h
    exact exists_first_faulty hpairs
  · rw [hpairs] at h
    cases h

/-- How a text is read. The first field says what the pieces of a text are, without a function that
splits it: put together with commas they are the text, and there are no other commas in them. The
second one is about whether a text is read, and the last two about what comes of it, in either case.
-/
structure ParseContract (text : String) : Prop where
  /-- the pieces make up the text with commas between them, of which they hold none -/
  pieces : [','].intercalate (Text.splitOn ',' text.toList) = text.toList ∧
    ∀ piece ∈ Text.splitOn ',' text.toList, ',' ∉ piece
  /-- the text is read exactly if all pieces are right that are not blank -/
  isOk_iff : (∃ tokens, parse text = .ok tokens) ↔
    ∀ piece ∈ Text.splitOn ',' text.toList, ¬ Text.Blank piece → WellFormed piece
  /-- each of them gives one entry, in order, whose user has no roles -/
  of_ok : ∀ tokens, parse text = .ok tokens →
    List.Forall₂ (fun piece entry => ∃ token user, Gives piece token user ∧
      entry = (token, ⟨user, []⟩)) (writtenPieces text) tokens.entries
  /-- the first that is not right decides what is said -/
  of_error : ∀ fault, parse text = .error fault →
    ∃ front piece back, writtenPieces text = front ++ piece :: back ∧
      (∀ right ∈ front, WellFormed right) ∧ Faulty piece fault

/-- **A text is read as far as its pieces are right**, for every text. -/
theorem parseContract (text : String) : ParseContract text where
  pieces := by
    obtain ⟨-, hfree, hjoined⟩ := Text.splitOn_eq_iff.mp (Eq.refl (Text.splitOn ',' text.toList))
    exact ⟨hjoined, hfree⟩
  isOk_iff := by
    have hwritten : (∀ piece ∈ writtenPieces text, WellFormed piece) ↔
        ∀ piece ∈ Text.splitOn ',' text.toList, ¬ Text.Blank piece → WellFormed piece := by
      simp only [writtenPieces, List.mem_filter, decide_eq_true_eq, and_imp]
    rw [← hwritten]
    constructor
    · rintro ⟨tokens, hok⟩
      have hall : List.Forall₂ (fun piece _ => WellFormed piece ∧ True) (writtenPieces text)
          tokens.entries :=
        (forall₂_gives_of_parse hok).imp fun piece entry ⟨token, user, hgives, _⟩ =>
          ⟨wellFormed_iff.mpr ⟨token, user, hgives⟩, trivial⟩
      exact ((List.forall₂_and_left _ _).mp hall).1
    · intro hall
      rcases hparse : parse text with fault | tokens
      · obtain ⟨front, piece, back, hpieces, -, hfaulty⟩ := exists_first_faulty_of_parse hparse
        have hmem : piece ∈ writtenPieces text :=
          hpieces ▸ List.mem_append_right front List.mem_cons_self
        exact absurd (hall piece hmem) hfaulty.not_wellFormed
      · exact ⟨tokens, rfl⟩
  of_ok := fun _ => forall₂_gives_of_parse
  of_error := fun _ => exists_first_faulty_of_parse

/-! ## What is written

Someone who writes a configuration has entries in mind, and puts blanks around them as it pleases.
What is written so is a text whose pieces give these entries, unless a token or a user could be
mistaken for something else. -/

/-- An entry as someone writes it: a token and its user, and the blanks before the one and after the
other. Around the equals sign there are none, for there they could be taken for a part of either. -/
structure WrittenEntry where
  left : List Char
  token : String
  user : String
  right : List Char

namespace WrittenEntry

/-- The piece of an entry. -/
def chars (entry : WrittenEntry) : List Char :=
  entry.left ++ (entry.token.toList ++ '=' :: entry.user.toList) ++ entry.right

/-- What may be written: nothing is empty, no blanks stand at the ends of the token or the user, and
neither holds a comma, nor the token an equals sign. -/
structure IsPlain (entry : WrittenEntry) : Prop where
  left : Text.Blank entry.left
  right : Text.Blank entry.right
  token_ne : entry.token ≠ ""
  token_trimmed : Text.trim entry.token = entry.token
  token_free : ',' ∉ entry.token.toList ∧ '=' ∉ entry.token.toList
  user_ne : entry.user ≠ ""
  user_trimmed : Text.trim entry.user = entry.user
  user_free : ',' ∉ entry.user.toList

variable {entry : WrittenEntry}

/-- **What is written is what the piece gives.** -/
theorem IsPlain.gives (h : entry.IsPlain) : Gives entry.chars entry.token entry.user := by
  have heq : entry.chars =
      (entry.left ++ entry.token.toList) ++ '=' :: (entry.user.toList ++ entry.right) := by
    simp only [chars, List.append_assoc, List.cons_append]
  have hfirst : '=' ∉ entry.left ++ entry.token.toList := fun hmem =>
    (List.mem_append.mp hmem).elim (h.left.not_mem (by decide)) h.token_free.2
  have htoken := (Text.trims_of_trim_eq h.token_trimmed).append h.left (List.forall_mem_nil _)
  have huser := (Text.trims_of_trim_eq h.user_trimmed).append (List.forall_mem_nil _) h.right
  rw [List.append_nil] at htoken
  exact ⟨⟨_, _, ⟨heq, hfirst⟩, htoken, huser⟩, h.token_ne, h.user_ne⟩

/-- It holds no comma. -/
theorem IsPlain.not_mem (h : entry.IsPlain) : ',' ∉ entry.chars := by
  have hcomma : Text.isBlank ',' = false := by decide
  simp only [chars, List.mem_append, List.mem_cons, not_or]
  exact ⟨⟨h.left.not_mem hcomma, h.token_free.1, by decide, h.user_free⟩, h.right.not_mem hcomma⟩

/-- It is not blank. -/
theorem not_blank_chars (entry : WrittenEntry) : ¬ Text.Blank entry.chars := fun hblank =>
  hblank.not_mem (c := '=') (by decide) (by simp [chars])

end WrittenEntry

/-- The text of entries, with commas between them. -/
def written (entries : List WrittenEntry) : String :=
  .ofList ([','].intercalate (entries.map WrittenEntry.chars))

/-- The pieces of what is written are those of its entries. -/
theorem writtenPieces_written {entries : List WrittenEntry}
    (h : ∀ entry ∈ entries, entry.IsPlain) :
    writtenPieces (written entries) = entries.map WrittenEntry.chars := by
  rcases entries with _ | ⟨first, rest⟩
  · decide
  · have hpieces : Text.splitOn ',' (written (first :: rest)).toList =
        (first :: rest).map WrittenEntry.chars :=
      Text.splitOn_eq_iff.mpr ⟨List.cons_ne_nil _ _,
        List.forall_mem_map.mpr fun entry hentry => (h entry hentry).not_mem,
        String.toList_ofList.symm⟩
    rw [writtenPieces, hpieces, List.filter_eq_self]
    exact List.forall_mem_map.mpr fun entry _ => decide_eq_true entry.not_blank_chars

/-- **What is written is read.** -/
theorem parse_written {entries : List WrittenEntry} (h : ∀ entry ∈ entries, entry.IsPlain) :
    parse (written entries) =
      .ok ⟨entries.map fun entry => (entry.token, ⟨entry.user, []⟩)⟩ := by
  have hgives : List.Forall₂ (fun piece pair => Gives piece pair.1 pair.2)
      (entries.map WrittenEntry.chars) (entries.map fun entry => (entry.token, entry.user)) := by
    rw [List.forall₂_map_left_iff, List.forall₂_map_right_iff, List.forall₂_same]
    exact fun entry hentry => (h entry hentry).gives
  rw [parse, pieces_eq, writtenPieces_written h, parseEntries_eq_ok_iff.mpr hgives, Except.map,
    List.map_map]
  rfl

/-- **A text configures what its pieces give, or else is refused for the first that is not right;**
and what was written as entries is read as these entries, whatever blanks stand around them. -/
theorem configuration_is_exact :
    (∀ text, ParseContract text) ∧
      ∀ entries : List WrittenEntry, (∀ entry ∈ entries, entry.IsPlain) →
        parse (written entries) =
          .ok ⟨entries.map fun entry => (entry.token, ⟨entry.user, []⟩)⟩ :=
  ⟨parseContract, fun _ => parse_written⟩

/-- A user may hold an equals sign, a token a blank, and the blanks may be any. -/
theorem configuration_is_exact_spaced :
    let entries : List WrittenEntry :=
      [⟨[' ', '\u2003'], "a b", "x=y", ['\t']⟩, ⟨[], "a b", "bob", ['\n']⟩]
    (∀ entry ∈ entries, entry.IsPlain) ∧
      parse " \u2003a b=x=y\t,a b=bob\n" = .ok ⟨[("a b", ⟨"x=y", []⟩), ("a b", ⟨"bob", []⟩)]⟩ ∧
      ¬ ∃ tokens, parse "a=b, ,= c" = .ok tokens := by
  intro entries
  have hplain : ∀ entry ∈ entries, entry.IsPlain := by
    simp only [entries, List.forall_mem_cons]
    exact ⟨⟨by decide, by decide, by decide, by decide, by decide, by decide, by decide, by decide⟩,
      ⟨by decide, by decide, by decide, by decide, by decide, by decide, by decide, by decide⟩,
      List.forall_mem_nil _⟩
  refine ⟨hplain, configuration_is_exact.2 entries hplain, ?_⟩
  rw [(configuration_is_exact.1 "a=b, ,= c").isOk_iff]
  intro hall
  have hfaulty : Faulty "= c".toList (.emptyToken "c") := parseEntry_eq_error_iff.mp (by decide)
  exact hfaulty.not_wellFormed (hall _ (by decide) (by decide))

end Tokens

end ActionGateway
