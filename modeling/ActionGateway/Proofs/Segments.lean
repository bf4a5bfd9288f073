import ActionGateway.Network.Route
import ActionGateway.Proofs.UrlEncoding
import Mathlib.Data.List.TakeWhile

/-!
# Paths by segments

The table of routes compares texts character by character. Its patterns are made of whole
**segments**, though: each follows a slash, and it is either written out or stands for any segment.
So a path is taken here as the list of its segments. A pattern fits it exactly if it fits segment by
segment (`SegmentPattern.match?_items`), and that is a matter of comparing short lists.

Below the path of the API the table then says what its comment promises: whatever the first segment
is, if it is not one of health's own, a path is looked up as that of an endpoint and, after its
first segment, as that of an endpoint at a version (`Route.find?_below`). No path is both
(`Endpoint.find?_path`, `Endpoint.find?_tail_path`).

The last section is about the paths that are made for endpoints (`Endpoint.path`), with a subject in
the place of the parameter. The table is short and closed, so that these facts are decided by going
through its rows; what holds of every subject is proved.
-/

namespace ActionGateway

/-- Rows that say the same give the same. -/
theorem findSome?_congr {α β : Type} {rows : List α} {f g : α → Option β}
    (h : ∀ row ∈ rows, f row = g row) : rows.findSome? f = rows.findSome? g := by
  induction rows with
  | nil => rfl
  | cons row rows ih =>
    obtain ⟨hrow, hrows⟩ := List.forall_mem_cons.mp h
    rw [List.findSome?_cons, List.findSome?_cons, hrow, ih hrows]

/-! ## Segments

A path is written by putting a slash before each segment, and patterns are written in the same way.
A segment that is written out must not hold a slash itself, or it would be two. -/

/-- The path of segments, with a slash before each. -/
def pathOf (segments : List String) : List Char :=
  segments.flatMap fun segment => '/' :: segment.toList

/-- A segment of a pattern. -/
inductive SegmentPattern
  | literal (text : String)
  | parameter (name : String)
  deriving DecidableEq, Repr

namespace SegmentPattern

/-- The segment in a pattern of characters. -/
def items : SegmentPattern → PathPattern
  | literal text => .literal '/' :: PathPattern.text text
  | parameter name => [.literal '/', .parameter name]

/-- The parameters with the segments that they stand for, if the pattern fits. The last segment of a
path is not a parameter's if it is empty. -/
def match? : List SegmentPattern → List String → Option (List (String × String))
  | [], [] => some []
  | literal text :: patterns, segment :: segments =>
    if text = segment then match? patterns segments else none
  | parameter name :: patterns, segment :: segments =>
    if patterns.isEmpty && segment.isEmpty then none
    else (match? patterns segments).map ((name, segment) :: ·)
  | _, _ => none

/-- The segment that is written out holds no slash. -/
def Whole : SegmentPattern → Prop
  | literal text => '/' ∉ text.toList
  | parameter _ => True

instance : DecidablePred Whole := fun pattern =>
  match pattern with
  | literal text => inferInstanceAs (Decidable ('/' ∉ text.toList))
  | parameter _ => inferInstanceAs (Decidable True)

/-! ## Characters and segments

Both a path and a pattern go on with a slash after a segment, or end there. So a segment that is
written out is compared to its end, and a parameter takes what stands before the next slash; in
either case what is left are the other segments on both sides. -/

/-- What follows a segment in a path. -/
theorem pathOf_eq_nil_or (segments : List String) :
    pathOf segments = [] ∨ ∃ rest, pathOf segments = '/' :: rest := by
  cases segments with
  | nil => exact .inl rfl
  | cons segment segments => exact .inr ⟨_, rfl⟩

/-- What follows a segment in a pattern. -/
theorem items_eq_nil_or (patterns : List SegmentPattern) :
    patterns.flatMap items = [] ∨ ∃ rest, patterns.flatMap items = .literal '/' :: rest := by
  cases patterns with
  | nil => exact .inl rfl
  | cons pattern patterns =>
    cases pattern with
    | literal text => exact .inr ⟨_, rfl⟩
    | parameter name => exact .inr ⟨_, rfl⟩

/-- A segment that is written out fits the same segment. -/
theorem match?_text {text segment : List Char} (htext : '/' ∉ text) (hsegment : '/' ∉ segment)
    (patterns : List SegmentPattern) (segments : List String) :
    PathPattern.match? (text.map .literal ++ patterns.flatMap items) (segment ++ pathOf segments) =
      if text = segment then PathPattern.match? (patterns.flatMap items) (pathOf segments)
      else none := by
  -- the two texts are compared character by character; if one ends before the other, a slash or the
  -- end of the path stands against a character that is no slash
  induction text generalizing segment with
  | nil =>
    cases segment with
    | nil => rw [if_pos rfl]; rfl
    | cons d segment =>
      have hslash : '/' ≠ d := fun h => hsegment (h ▸ List.mem_cons_self)
      rw [if_neg (List.cons_ne_nil d segment).symm, List.map_nil, List.nil_append]
      rcases items_eq_nil_or patterns with hpatterns | ⟨rest, hpatterns⟩
      · rw [hpatterns]
        rfl
      · rw [hpatterns, List.cons_append, PathPattern.match?, if_neg hslash]
  | cons c text ih =>
    rw [List.mem_cons, not_or] at htext
    cases segment with
    | nil =>
      rw [if_neg (List.cons_ne_nil c text), List.nil_append, List.map_cons, List.cons_append]
      rcases pathOf_eq_nil_or segments with hsegments | ⟨rest, hsegments⟩
      · rw [hsegments]
        rfl
      · rw [hsegments, PathPattern.match?, if_neg (Ne.symm htext.1)]
    | cons d segment =>
      rw [List.mem_cons, not_or] at hsegment
      rw [List.map_cons, List.cons_append, List.cons_append, PathPattern.match?,
        ih htext.2 hsegment.2]
      by_cases h : c = d
      · simp only [h, if_true, List.cons.injEq, true_and]
      · simp only [h, if_false, List.cons.injEq, false_and]

/-- A parameter takes the segment. -/
theorem takeWhile_segment {segment : List Char} (h : '/' ∉ segment) (segments : List String) :
    (segment ++ pathOf segments).takeWhile (· ≠ '/') = segment ∧
      (segment ++ pathOf segments).dropWhile (· ≠ '/') = pathOf segments := by
  rcases pathOf_eq_nil_or segments with hsegments | ⟨rest, hsegments⟩
  · have hkept : ∀ c ∈ segment, decide (c ≠ '/') = true := fun c hc =>
      decide_eq_true (ne_of_mem_of_not_mem hc h)
    rw [hsegments, List.append_nil]
    exact ⟨List.takeWhile_eq_self_iff.mpr hkept, List.dropWhile_eq_nil_iff.mpr hkept⟩
  · rw [hsegments]
    exact ⟨Text.takeWhile_ne_append h rest, Text.dropWhile_ne_append h rest⟩

/-- **A pattern fits a path segment by segment.** The reader goes character by character and knows
nothing of segments; it falls in step with them because neither the texts of the pattern nor the
segments hold a slash. -/
theorem match?_items {patterns : List SegmentPattern} {segments : List String}
    (hpatterns : ∀ pattern ∈ patterns, pattern.Whole)
    (hsegments : ∀ segment ∈ segments, '/' ∉ segment.toList) :
    PathPattern.match? (patterns.flatMap items) (pathOf segments) = match? patterns segments := by
  -- the induction is on the segments of the pattern, each of which takes one of the path
  induction patterns generalizing segments with
  | nil =>
    cases segments with
    | nil => rfl
    | cons segment segments => rfl
  | cons pattern patterns ih =>
    cases segments with
    | nil => cases pattern <;> rfl
    | cons segment segments =>
      obtain ⟨hpattern, hpatterns⟩ := List.forall_mem_cons.mp hpatterns
      obtain ⟨hsegment, hsegments⟩ := List.forall_mem_cons.mp hsegments
      have ih := ih hpatterns hsegments
      cases pattern with
      | literal text =>
        have hchars : text.toList = segment.toList ↔ text = segment := String.toList_inj
        show PathPattern.match? (text.toList.map .literal ++ patterns.flatMap items)
          (segment.toList ++ pathOf segments) = _
        rw [match?_text hpattern hsegment, ih, match?]
        simp only [hchars]
      | parameter name =>
        obtain ⟨htaken, hleft⟩ := takeWhile_segment hsegment segments
        -- a parameter asks whether it is the last of the pattern, and whether it would take nothing
        have hpatterns : (patterns.flatMap items).isEmpty = patterns.isEmpty := by
          rcases patterns with _ | ⟨_ | _, _⟩ <;> rfl
        have hsegment : segment.toList.isEmpty = segment.isEmpty := by
          rw [Bool.eq_iff_iff, List.isEmpty_iff, String.toList_eq_nil_iff, String.isEmpty_iff]
        show PathPattern.match? (.parameter name :: patterns.flatMap items)
          (segment.toList ++ pathOf segments) = _
        rw [PathPattern.match?, htaken, hleft, ih, match?, hpatterns, hsegment,
          String.ofList_toList]

/-! ## Fitting

With segments in the place of characters it is easy to say when a pattern does not fit: the lengths
differ, or a segment that is written out is not there. -/

/-- A pattern fits no path of another length. -/
theorem length_eq_of_match? {patterns : List SegmentPattern} {segments : List String}
    {found : List (String × String)} (h : match? patterns segments = some found) :
    patterns.length = segments.length := by
  induction patterns generalizing segments found with
  | nil =>
    cases segments with
    | nil => rfl
    | cons segment segments => cases h
  | cons pattern patterns ih =>
    cases segments with
    | nil => cases pattern <;> cases h
    | cons segment segments =>
      rw [List.length_cons, List.length_cons, Nat.add_right_cancel_iff]
      cases pattern with
      | literal text =>
        rw [match?] at h
        split at h
        case isTrue => exact ih h
        case isFalse => cases h
      | parameter name =>
        rw [match?] at h
        split at h
        case isTrue => cases h
        case isFalse =>
          obtain ⟨below, hbelow, -⟩ := Option.map_eq_some_iff.mp h
          exact ih hbelow

/-- Segments that are written out do not fit a path with a segment that is none of them, wherever it
stands. -/
theorem match?_literals_eq_none {texts front back : List String} {segment : String}
    (h : segment ∉ texts) : match? (texts.map literal) (front ++ segment :: back) = none := by
  induction texts generalizing front with
  | nil => cases front <;> rfl
  | cons text texts ih =>
    rw [List.mem_cons, not_or] at h
    cases front with
    | nil => rw [List.nil_append, List.map_cons, match?, if_neg (Ne.symm h.1)]
    | cons first front =>
      rw [List.cons_append, List.map_cons, match?, ih h.2, ite_self]

/-- The segment for a subject, which stands in the place of every parameter. -/
def fill (subject : String) : SegmentPattern → String
  | literal text => text
  | parameter _ => subject

end SegmentPattern

/-! ## Endpoints

The endpoints below the root begin with one of three words, which tell them apart, and those for
completions are written out to the end. So a path made for one of them fits no other, and what is
left of it behind its first segment fits none. -/

namespace Endpoint

open SegmentPattern

/-- The segments of the pattern of an endpoint. -/
def segments : Endpoint → List SegmentPattern
  | root => []
  | action => [literal "action", parameter "name"]
  | translations => [literal "i18n", parameter "lang"]
  | autocomplete route => literal "util" :: route.path.map literal

/-- The pattern of an endpoint is that of its segments, and these hold no slashes. -/
theorem pattern_eq {endpoint : Endpoint} (h : endpoint ∈ root :: belowRoot) :
    endpoint.pattern = endpoint.segments.flatMap items ∧
      ∀ pattern ∈ endpoint.segments, pattern.Whole := by
  revert endpoint
  decide +kernel

/-- The segments of the path that leads to an endpoint for a subject. -/
def path (subject : String) (endpoint : Endpoint) : List String :=
  endpoint.segments.map (fill subject)

theorem path_autocomplete (route : Autocomplete) (subject : String) :
    (autocomplete route).path subject = "util" :: route.path := by
  rw [path, segments, List.map_cons, List.map_map]
  exact congrArg (List.cons "util") (List.map_id route.path)

/-- The routes for completions that are endpoints are those that there are. -/
theorem mem_routes {route : Autocomplete} (h : autocomplete route ∈ belowRoot) :
    route ∈ Autocomplete.routes := by
  rw [belowRoot, List.mem_append] at h
  rcases h with h | h
  · simp at h
  · obtain ⟨other, hother, heq⟩ := List.mem_map.mp h
    cases heq
    exact hother

/-- No segment of such a path holds a slash, unless the subject does. -/
theorem whole_path {endpoint : Endpoint} (h : endpoint ∈ root :: belowRoot) {subject : String}
    (hsubject : '/' ∉ subject.toList) :
    ∀ segment ∈ endpoint.path subject, '/' ∉ segment.toList := by
  refine List.forall_mem_map.mpr fun pattern hmem => ?_
  have hwhole := (pattern_eq h).2 pattern hmem
  cases pattern with
  | literal text => exact hwhole
  | parameter name => exact hsubject

/-- The first segment of such a path is written out. -/
theorem path_cons {endpoint : Endpoint} (h : endpoint ∈ belowRoot) (subject : String) :
    ∃ first ∈ ["action", "i18n", "util"],
      endpoint.path subject = first :: (endpoint.path subject).tail := by
  cases endpoint with
  | root => exact absurd h (by decide)
  | action => exact ⟨"action", by decide, rfl⟩
  | translations => exact ⟨"i18n", by decide, rfl⟩
  | autocomplete route => exact ⟨"util", by decide, rfl⟩

/-- Such a path as a text. -/
def pathText (subject : String) : Endpoint → String
  | root => ""
  | action => "/action/" ++ subject
  | translations => "/i18n/" ++ subject
  | autocomplete route => "/util/" ++ route.pathText

/-- The text of such a path is that of its segments. -/
theorem toList_pathText {endpoint : Endpoint} (h : endpoint ∈ belowRoot) (subject : String) :
    (endpoint.pathText subject).toList = pathOf (endpoint.path subject) := by
  cases endpoint with
  | root => rfl
  | action => simp [pathText, pathOf, path, segments, fill]
  | translations => simp [pathText, pathOf, path, segments, fill]
  | autocomplete route =>
    have hroutes : ∀ route ∈ Autocomplete.routes,
        ("/util/" ++ route.pathText).toList = pathOf ("util" :: route.path) := by decide +kernel
    rw [path_autocomplete, pathText, hroutes route (mem_routes h)]

/-- What such a path gives to the parameters of the endpoint. -/
def given (subject : String) (endpoint : Endpoint) : List (String × String) :=
  (endpoint.parameter?.map fun name => (name, subject)).toList

/-- The endpoint that a path of segments leads to. -/
def find? (segments : List String) : Option (Endpoint × List (String × String)) :=
  (root :: belowRoot).findSome? fun endpoint =>
    (match? endpoint.segments segments).map fun found => (endpoint, found)

/-- **A path leads to the endpoint that it is made for**, unless it should name a subject and the
name is empty. -/
theorem find?_path {endpoint : Endpoint} (h : endpoint ∈ root :: belowRoot) (subject : String) :
    find? (endpoint.path subject) =
      if endpoint.parameter?.isSome && subject.isEmpty then none
      else some (endpoint, endpoint.given subject) := by
  -- the endpoints are asked in the order of the table, and the first two texts tell them apart
  cases endpoint with
  | root => rfl
  | action =>
    by_cases hempty : subject = ""
    · subst hempty
      decide
    · have hfits : match? action.segments (action.path subject) = some [("name", subject)] := by
        simp [segments, path, fill, match?, hempty]
      have hroot : match? root.segments (action.path subject) = none := rfl
      simp only [find?, belowRoot, List.cons_append, List.findSome?_cons, hroot, hfits]
      simp [parameter?, given, hempty]
  | translations =>
    by_cases hempty : subject = ""
    · subst hempty
      decide
    · have hfits : match? translations.segments (translations.path subject) =
          some [("lang", subject)] := by
        simp [segments, path, fill, match?, hempty]
      have hroot : match? root.segments (translations.path subject) = none := rfl
      have haction : match? action.segments (translations.path subject) = none := rfl
      simp only [find?, belowRoot, List.cons_append, List.findSome?_cons, hroot, haction, hfits]
      simp [parameter?, given, hempty]
  | autocomplete route =>
    have hfind : ∀ route ∈ Autocomplete.routes,
        find? ("util" :: route.path) = some (autocomplete route, []) := by decide
    have hmem : autocomplete route ∈ belowRoot := List.mem_of_ne_of_mem (by simp) h
    rw [path_autocomplete, hfind route (mem_routes hmem)]
    rfl

/-- No path of one segment leads to an endpoint. -/
theorem find?_singleton (segment : String) : find? [segment] = none := by
  have hlength : ∀ endpoint ∈ root :: belowRoot, endpoint.segments.length ≠ 1 := by decide
  refine List.findSome?_eq_none_iff.mpr fun endpoint hmem => Option.map_eq_none_iff.mpr ?_
  rw [Option.eq_none_iff_forall_ne_some]
  intro found hfound
  exact hlength endpoint hmem (length_eq_of_match? hfound)

/-- A path leads nowhere if its first segment is none of those that are written out. -/
theorem find?_of_unnamed {first : String} (h : first ∉ ["action", "i18n", "util"])
    (rest : List String) : find? (first :: rest) = none := by
  refine List.findSome?_eq_none_iff.mpr fun endpoint _ => Option.map_eq_none_iff.mpr ?_
  simp only [List.mem_cons, List.not_mem_nil, or_false, not_or] at h
  cases endpoint with
  | root => rfl
  | action => rw [segments, match?, if_neg (Ne.symm h.1)]
  | translations => rw [segments, match?, if_neg (Ne.symm h.2.1)]
  | autocomplete route => rw [segments, match?, if_neg (Ne.symm h.2.2)]

/-- **What follows the first segment of such a path leads nowhere.** So the path is not also one at
a version, with its first segment for the version. -/
theorem find?_tail_path {endpoint : Endpoint} (h : endpoint ∈ belowRoot) (subject : String) :
    find? (endpoint.path subject).tail = none := by
  cases endpoint with
  | root => exact absurd h (by decide)
  | action => exact find?_singleton subject
  | translations => exact find?_singleton subject
  | autocomplete route =>
    have hfind : ∀ route ∈ Autocomplete.routes, find? route.path = none := by decide
    rw [path_autocomplete, List.tail_cons, hfind route (mem_routes h)]

end Endpoint

end ActionGateway
