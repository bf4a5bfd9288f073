import ActionGateway.Proofs.Layers
import ActionGateway.Proofs.Numeral
import ActionGateway.Proofs.Segments

/-!
# Where paths lead

A target is read back from its path and its query (`Target.parse_of_path`). Below a path of **plain
segments** the table is read segment by segment (`Route.find?_below`), and so it is known where the
path of each endpoint leads, without a version (`Route.find?_unversioned`) and with one
(`Route.find?_versioned`): to that endpoint and to no other, or nowhere if it should name a subject
and the name is empty. In particular a request for the path of an action at a version gets to the
action (`Gateway.reaches_actionPath`).

The proofs go from characters to segments first: the patterns of the table are those of segments
(`ActionGateway.Proofs.Segments`), and the path of the API is compared as it stands
(`Route.match?_below`). From there on a path is a list of segments, and the question is which of the
rows fits it first.
-/

namespace ActionGateway

/-! ## Targets

A client writes a target as a path and a query. It is read by splitting it at the question mark,
after what could be an authority or a fragment has been taken off; a path that begins with a slash
has no authority. -/

namespace Target

/-- A text that begins with a slash names no authority. -/
theorem afterAuthority_slash (rest : List Char) : afterAuthority ('/' :: rest) = '/' :: rest := by
  rw [afterAuthority]
  split
  · rw [if_pos (by simp)]
  · rfl

/-- **A target is its path and what follows the question mark.** -/
theorem parse_of_path {path query : List Char} (hslash : path.head? = some '/')
    (hquestion : '?' ∉ path) (hpath : '#' ∉ path) (hquery : '#' ∉ query) :
    parse (String.ofList (path ++ '?' :: query)) =
      ⟨String.ofList path, some (String.ofList query)⟩ := by
  have hauthority : afterAuthority (path ++ '?' :: query) = path ++ '?' :: query := by
    obtain ⟨rest, rfl⟩ := List.head?_eq_some_iff.mp hslash
    exact afterAuthority_slash _
  have hhash : '#' ∉ path ++ '?' :: query := by
    rw [List.mem_append, List.mem_cons, not_or, not_or]
    exact ⟨hpath, by decide, hquery⟩
  have hfragment : (path ++ '?' :: query).takeWhile (· ≠ '#') = path ++ '?' :: query :=
    List.takeWhile_eq_self_iff.mpr fun c hc => decide_eq_true (ne_of_mem_of_not_mem hc hhash)
  have hempty : path.isEmpty = false := by
    obtain ⟨rest, rfl⟩ := List.head?_eq_some_iff.mp hslash
    rfl
  simp only [parse, String.toList_ofList, hauthority, hfragment,
    Text.takeWhile_ne_append hquestion, Text.dropWhile_ne_append hquestion]
  simp [hempty]

end Target

/-! ## Versions

A version is written in digits, so its text is none of the words of the table. -/

/-- A version is no text that begins with anything but a digit. -/
theorem ApiVersion.text_not_mem {texts : List String}
    (h : ∀ text ∈ texts, text.toList.head?.all (fun c => !c.isDigit)) (version : ApiVersion) :
    version.text ∉ texts := by
  intro hmem
  obtain ⟨d, digits, hversion, hdigit⟩ := version.text_cons
  have hfirst := h version.text hmem
  rw [hversion, List.head?_cons, Option.all_some, hdigit] at hfirst
  cases hfirst

/-! ## Patterns

A pattern is read from a text in which braces mark the parameters. A text without braces is a
pattern of characters that stand for themselves. -/

namespace PathPattern

/-- Without a brace every character stands for itself. -/
theorem readFrom_of_no_brace {chars : List Char} (h : ∀ c ∈ chars, c ≠ '\x7b' ∧ c ≠ '\x7d') :
    readFrom none chars = chars.map .literal := by
  induction chars with
  | nil => rfl
  | cons c rest ih =>
    obtain ⟨⟨hopen, hclose⟩, hrest⟩ := List.forall_mem_cons.mp h
    rw [List.map_cons, ← ih hrest]
    simp [readFrom, hopen, hclose]

/-- A text fits itself, and leaves what follows to the rest of the pattern. -/
theorem match?_literals (chars rest : List Char) (pattern : PathPattern) :
    match? (chars.map .literal ++ pattern) (chars ++ rest) = match? pattern rest := by
  induction chars with
  | nil => rfl
  | cons c chars ih =>
    rw [List.map_cons, List.cons_append, List.cons_append, match?, if_pos rfl, ih]

end PathPattern

/-! ## Plain paths

The path of the API is configured. As long as it is made of plain segments it can be read as a
pattern without parameters and be a part of a target, so that the table below it is as it is
written. -/

/-- A segment that stands for itself: no character of it means anything in a pattern or a target. -/
def PlainSegment (segment : String) : Prop :=
  segment ≠ "" ∧ ∀ c ∈ segment.toList, c ∉ ['/', '\x7b', '\x7d', '?', '#']

/-- A path of plain segments with a slash before each. There may be none. -/
def PlainPath (path : String) : Prop :=
  ∃ segments : List String, (∀ segment ∈ segments, PlainSegment segment) ∧
    path.toList = segments.flatMap fun segment => '/' :: segment.toList

namespace PlainPath

variable {path : String}

/-- No character of a plain path means anything in a pattern or a target. -/
theorem not_special (h : PlainPath path) {c : Char} (hc : c ∈ path.toList) :
    c ∉ ['\x7b', '\x7d', '?', '#'] := by
  obtain ⟨segments, hplain, hpath⟩ := h
  rw [hpath, List.mem_flatMap] at hc
  obtain ⟨segment, hsegment, hc⟩ := hc
  rcases List.mem_cons.mp hc with rfl | hc
  · decide
  · exact fun hmem => (hplain segment hsegment).2 c hc (List.mem_cons_of_mem _ hmem)

/-- What follows a plain path after a slash begins with a slash. -/
theorem head?_append (h : PlainPath path) (rest : List Char) :
    (path.toList ++ '/' :: rest).head? = some '/' := by
  obtain ⟨segments, -, hpath⟩ := h
  rw [hpath]
  cases segments with
  | nil => rfl
  | cons segment segments => rfl

/-- As a pattern a plain path fits itself alone. -/
theorem read_eq (h : PlainPath path) : PathPattern.read path = path.toList.map .literal := by
  refine PathPattern.readFrom_of_no_brace fun c hc => ?_
  have hspecial := h.not_special hc
  constructor
  · rintro rfl
    exact hspecial (by decide)
  · rintro rfl
    exact hspecial (by decide)

end PlainPath

namespace Route

/-- What a row of the table says of a path. -/
def rowFor? (path : List Char) (row : PathPattern × Route) :
    Option (Route × List (String × String)) :=
  (row.1.match? path).map fun found => (row.2, found)

/-- The rows are asked one after the other. -/
theorem find?_eq (base path : String) :
    find? base path = (table (PathPattern.read base)).findSome? (rowFor? path.toList) :=
  rfl

/-- The first row of a table that fits decides. -/
theorem find?_eq_some {base path : String} {front back : List (PathPattern × Route)}
    {pattern : PathPattern} {route : Route} {found : List (String × String)}
    (htable : table (PathPattern.read base) = front ++ (pattern, route) :: back)
    (hfront : ∀ row ∈ front, row.1.match? path.toList = none)
    (hmatch : pattern.match? path.toList = some found) : find? base path = some (route, found) := by
  have hrow : rowFor? path.toList (pattern, route) = some (route, found) := by
    rw [rowFor?, hmatch, Option.map_some]
  rw [find?_eq, htable, List.findSome?_append, List.findSome?_eq_none_iff.mpr, List.findSome?_cons,
    hrow]
  · rfl
  · intro row hrow
    exact Option.map_eq_none_iff.mpr (hfront row hrow)

/-! ## Paths below the API

The table has three rows for health first, then one for the path of the API itself and one for that
path with a slash after it, and then the endpoints, first without a version and then with one. For a
path below the API these rows are asked in turn. -/

/-- The path of segments below a path. -/
def below (base : String) (segments : List String) : String :=
  base ++ String.ofList (pathOf segments)

section

variable {base first : String} {segments rest : List String}

/-- The characters of a path below a path. -/
theorem toList_below (base : String) (segments : List String) :
    (below base segments).toList = base.toList ++ pathOf segments := by
  rw [below, String.toList_append, String.toList_ofList]

/-- Such a path begins with a slash. -/
theorem head?_below (hbase : PlainPath base) (first : String) (rest : List String) :
    (below base (first :: rest)).toList.head? = some '/' := by
  rw [toList_below]
  exact hbase.head?_append _

/-- A pattern below the path asks about the segments below it. -/
theorem match?_below (hbase : PlainPath base) (pattern : PathPattern) (segments : List String) :
    (PathPattern.read base ++ pattern).match? (below base segments).toList =
      pattern.match? (pathOf segments) := by
  rw [toList_below, hbase.read_eq, PathPattern.match?_literals]

/-- A path of health's own does not fit where a segment stands that it does not have. -/
theorem match?_health (hbase : PlainPath base) (hwhole : ∀ s ∈ first :: rest, '/' ∉ s.toList)
    (texts : List String) (htexts : ∀ text ∈ texts, '/' ∉ text.toList) (hfirst : first ∉ texts) :
    PathPattern.match? ((texts.map SegmentPattern.literal).flatMap SegmentPattern.items)
      (below base (first :: rest)).toList = none := by
  obtain ⟨segments, hplain, hpath⟩ := hbase
  have hall : ∀ s ∈ segments ++ first :: rest, '/' ∉ s.toList := by
    intro s hs
    rcases List.mem_append.mp hs with hs | hs
    · exact fun hslash => (hplain s hs).2 '/' hslash List.mem_cons_self
    · exact hwhole s hs
  have hsegments : (below base (first :: rest)).toList = pathOf (segments ++ first :: rest) := by
    rw [toList_below, hpath, pathOf, pathOf, List.flatMap_append]
  rw [hsegments, SegmentPattern.match?_items (List.forall_mem_map.mpr htexts) hall,
    SegmentPattern.match?_literals_eq_none hfirst]

/-- With a slash after it the path of the API has one more segment, which is empty. -/
theorem match?_slash (hbase : PlainPath base) (hwhole : ∀ s ∈ first :: rest, '/' ∉ s.toList) :
    PathPattern.match? (PathPattern.read base ++ PathPattern.text "/")
      (below base (first :: rest)).toList = if first :: rest = [""] then some [] else none := by
  have hempty : ∀ pattern ∈ [SegmentPattern.literal ""], pattern.Whole := by decide
  have hitems :
      PathPattern.text "/" = [SegmentPattern.literal ""].flatMap SegmentPattern.items := rfl
  rw [match?_below hbase, hitems, SegmentPattern.match?_items hempty hwhole, SegmentPattern.match?]
  cases rest with
  | nil => simp [SegmentPattern.match?, eq_comm]
  | cons second rest => simp [SegmentPattern.match?]

/-- Without a version the rows of the endpoints say where the segments lead. -/
theorem findSome?_unversioned (hbase : PlainPath base)
    (hwhole : ∀ s ∈ first :: rest, '/' ∉ s.toList) :
    (Endpoint.belowRoot.map fun endpoint =>
        (PathPattern.read base ++ endpoint.pattern, api false endpoint)).findSome?
        (rowFor? (below base (first :: rest)).toList) =
      (Endpoint.find? (first :: rest)).map fun (endpoint, found) =>
        (api false endpoint, found) := by
  have hroot : SegmentPattern.match? (Endpoint.segments .root) (first :: rest) = none := rfl
  rw [Endpoint.find?, List.findSome?_cons, hroot, Option.map_none, List.map_findSome?,
    List.findSome?_map]
  refine findSome?_congr fun endpoint hmem => ?_
  obtain ⟨hpattern, hsegments⟩ := Endpoint.pattern_eq (List.mem_cons_of_mem .root hmem)
  rw [Function.comp_apply, Function.comp_apply, rowFor?, match?_below hbase, hpattern,
    SegmentPattern.match?_items hsegments hwhole, Option.map_map]
  rfl

/-- At a version they say where the segments after it lead. -/
theorem findSome?_versioned (hbase : PlainPath base)
    (hwhole : ∀ s ∈ first :: rest, '/' ∉ s.toList) (hne : first :: rest ≠ [""]) :
    ((Endpoint.root :: Endpoint.belowRoot).map fun endpoint =>
        (PathPattern.read base ++ PathPattern.text "/" ++ .parameter "ver" :: endpoint.pattern,
          api true endpoint)).findSome? (rowFor? (below base (first :: rest)).toList) =
      (Endpoint.find? rest).map fun (endpoint, found) =>
        (api true endpoint, ("ver", first) :: found) := by
  rw [Endpoint.find?, List.map_findSome?, List.findSome?_map]
  refine findSome?_congr fun endpoint hmem => ?_
  obtain ⟨hpattern, hsegments⟩ := Endpoint.pattern_eq hmem
  have hitems : PathPattern.text "/" ++ .parameter "ver" :: endpoint.pattern =
      (SegmentPattern.parameter "ver" :: endpoint.segments).flatMap SegmentPattern.items := by
    rw [hpattern]
    rfl
  have hversioned :
      ∀ pattern ∈ SegmentPattern.parameter "ver" :: endpoint.segments, pattern.Whole :=
    List.forall_mem_cons.mpr ⟨trivial, hsegments⟩
  rw [Function.comp_apply, Function.comp_apply, rowFor?, List.append_assoc, match?_below hbase,
    hitems, SegmentPattern.match?_items hversioned hwhole, SegmentPattern.match?]
  split
  next hempty =>
    -- the version would be empty and the last segment, but there are others
    rw [Bool.and_eq_true, List.isEmpty_iff, String.isEmpty_iff] at hempty
    obtain ⟨hnil, rfl⟩ := hempty
    cases rest with
    | nil => exact absurd rfl hne
    | cons second rest =>
      rw [hnil]
      rfl
  next =>
    rw [Option.map_map, Option.map_map]
    rfl

/-- **Where a path below the API leads.** One slash alone leads to the root. Any other path leads
where its segments lead without a version, or else where those after the first lead at a version,
which is then the first. -/
theorem find?_below (hbase : PlainPath base) (hwhole : ∀ s ∈ first :: rest, '/' ∉ s.toList)
    (hfirst : first ∉ ["health", "live", "ready"]) :
    find? base (below base (first :: rest)) =
      if first :: rest = [""] then some (api false .root, [])
      else
        ((Endpoint.find? (first :: rest)).map fun (endpoint, found) =>
            (api false endpoint, found)).or
          ((Endpoint.find? rest).map fun (endpoint, found) =>
            (api true endpoint, ("ver", first) :: found)) := by
  -- the three rows of health do not fit, since the path has a segment that they do not have
  have hhealth : List.findSome? (rowFor? (below base (first :: rest)).toList)
      [(PathPattern.text "/health", health), (PathPattern.text "/health/live", alive),
        (PathPattern.text "/health/ready", readiness)] = none := by
    simp only [List.mem_cons, List.not_mem_nil, or_false, not_or] at hfirst
    refine List.findSome?_eq_none_iff.mpr fun row hrow => Option.map_eq_none_iff.mpr ?_
    simp only [List.mem_cons, List.not_mem_nil, or_false] at hrow
    rcases hrow with rfl | rfl | rfl
    · exact match?_health hbase hwhole ["health"] (by decide) (by simp [hfirst])
    · exact match?_health hbase hwhole ["health", "live"] (by decide) (by simp [hfirst])
    · exact match?_health hbase hwhole ["health", "ready"] (by decide) (by simp [hfirst])
  have hbare : List.findSome? (rowFor? (below base (first :: rest)).toList)
      (if (PathPattern.read base).isEmpty then []
        else [(PathPattern.read base, api false .root)]) = none := by
    have hempty := match?_below hbase [] (first :: rest)
    rw [List.append_nil] at hempty
    split
    · rfl
    · rw [List.findSome?_cons, rowFor?, hempty]
      rfl
  rw [find?_eq, table, List.findSome?_append, hhealth, Option.none_or, apiTable,
    List.findSome?_append, List.findSome?_append, hbare, Option.none_or, List.findSome?_cons,
    rowFor?, match?_slash hbase hwhole, findSome?_unversioned hbase hwhole]
  -- one slash alone has a row of its own, which comes before the endpoints
  by_cases hslash : first :: rest = [""]
  · rw [if_pos hslash, if_pos hslash]
    rfl
  · rw [if_neg hslash, if_neg hslash, findSome?_versioned hbase hwhole hslash]
    rfl

/-! ## Endpoints

The segments of the path of an endpoint are looked up as they are, and those after a version without
it. That they lead to the endpoint is `Endpoint.find?_path`; the lemmas here add that no other row
is asked before or instead. -/

variable {endpoint : Endpoint} {subject : String}

/-- With a slash after it the path of the API leads to the root. -/
theorem find?_root (hbase : PlainPath base) :
    find? base (below base [""]) = some (api false .root, []) := by
  rw [find?_below hbase (by decide) (by decide), if_pos rfl]

/-- **Without a version the path of an endpoint leads to that endpoint**, or nowhere: a parameter
ends the pattern, and then it must take something. Such a path is not one at a version either, since
what follows its first segment leads nowhere. -/
theorem find?_unversioned (hbase : PlainPath base) (hendpoint : endpoint ∈ Endpoint.belowRoot)
    (hsubject : '/' ∉ subject.toList) :
    find? base (below base (endpoint.path subject)) =
      if endpoint.parameter?.isSome && subject.isEmpty then none
      else some (api false endpoint, endpoint.given subject) := by
  have hmem : endpoint ∈ .root :: Endpoint.belowRoot := List.mem_cons_of_mem _ hendpoint
  obtain ⟨first, hfirst, hpath⟩ := Endpoint.path_cons hendpoint subject
  have hwhole := Endpoint.whole_path hmem hsubject
  rw [hpath] at hwhole
  have hfirsts : ∀ first ∈ ["action", "i18n", "util"],
      first ≠ "" ∧ first ∉ ["health", "live", "ready"] := by decide
  obtain ⟨hne, hhealth⟩ := hfirsts first hfirst
  have hslash : first :: (endpoint.path subject).tail ≠ [""] := fun h => hne (List.cons.inj h).1
  rw [hpath, find?_below hbase hwhole hhealth, if_neg hslash, ← hpath, Endpoint.find?_path hmem,
    Endpoint.find?_tail_path hendpoint]
  split <;> rfl

/-- **With a version before it the path leads to the endpoint at that version**, or nowhere. A
version begins with a digit and no word of the table does, so none of the rows without a version
fits. -/
theorem find?_versioned (hbase : PlainPath base)
    (hendpoint : endpoint ∈ .root :: Endpoint.belowRoot) (hsubject : '/' ∉ subject.toList)
    (version : ApiVersion) :
    find? base (below base (version.text :: endpoint.path subject)) =
      if endpoint.parameter?.isSome && subject.isEmpty then none
      else some (api true endpoint, ("ver", version.text) :: endpoint.given subject) := by
  have hwhole : ∀ s ∈ version.text :: endpoint.path subject, '/' ∉ s.toList :=
    List.forall_mem_cons.mpr
      ⟨ApiVersion.not_mem_text (by decide) version, Endpoint.whole_path hendpoint hsubject⟩
  have hempty : version.text ∉ [""] := ApiVersion.text_not_mem (by decide) version
  have hslash : version.text :: endpoint.path subject ≠ [""] := fun h =>
    hempty (List.mem_singleton.mpr (List.cons.inj h).1)
  rw [find?_below hbase hwhole (ApiVersion.text_not_mem (by decide) version), if_neg hslash,
    Endpoint.find?_of_unnamed (ApiVersion.text_not_mem (by decide) version),
    Endpoint.find?_path hendpoint]
  split <;> rfl

end

/-! ## Actions at a version

The path of an action is written by the links in envelopes, and here it is followed to its endpoint:
the row is found, its parts are decoded, and the version is parsed. Each step has a condition on the
name or the version, and they are put together in `Gateway.reaches_actionPath`. -/

/-- The path of an action at a version, below a path. -/
def actionPath (base : String) (version : ApiVersion) (name : String) : String :=
  base ++ "/" ++ version.text ++ "/action/" ++ name

section

variable {base name : String} {version : ApiVersion}

/-- It is the path of the endpoint. -/
theorem actionPath_eq (base : String) (version : ApiVersion) (name : String) :
    actionPath base version name = below base (version.text :: Endpoint.path name .action) := by
  apply String.toList_inj.mp
  rw [toList_below]
  simp [actionPath, pathOf, Endpoint.path, Endpoint.segments, SegmentPattern.fill]

/-- It begins with a slash. -/
theorem head?_actionPath (hbase : PlainPath base) (version : ApiVersion) (name : String) :
    (actionPath base version name).toList.head? = some '/' := by
  rw [actionPath_eq, head?_below hbase]

/-- The path of an action has no query and no fragment, unless its name does. -/
theorem not_mem_actionPath (hbase : PlainPath base) (version : ApiVersion) {c : Char}
    (hspecial : c = '?' ∨ c = '#') (hname : c ∉ name.toList) :
    c ∉ (actionPath base version name).toList := by
  have hslash : c ∉ "/".toList := by rcases hspecial with rfl | rfl <;> decide
  have hdigit : c.isDigit = false := by rcases hspecial with rfl | rfl <;> decide
  have haction : c ∉ "/action/".toList := by rcases hspecial with rfl | rfl <;> decide
  have hpath : c ∉ base.toList := by
    intro hmem
    refine hbase.not_special hmem ?_
    rcases hspecial with rfl | rfl <;> decide
  simp only [actionPath, String.toList_append, List.mem_append, not_or]
  exact ⟨⟨⟨⟨hpath, hslash⟩, ApiVersion.not_mem_text hdigit version⟩, haction⟩, hname⟩

/-- **The path of an action at a version leads to the action**, with both parameters as they stand
in the path. Links to documentation have paths of this kind. -/
theorem find?_actionPath (hbase : PlainPath base) (version : ApiVersion) (hname : name ≠ "")
    (hslash : '/' ∉ name.toList) :
    find? base (actionPath base version name) =
      some (.api true .action, [("ver", version.text), ("name", name)]) := by
  have hnonempty : name.isEmpty = false := by
    rw [← Bool.not_eq_true, String.isEmpty_iff]
    exact hname
  rw [actionPath_eq, find?_versioned hbase (by decide) hslash, hnonempty, Bool.and_false,
    if_neg Bool.false_ne_true]
  rfl

/-- A part of a path without a percent sign is the text that it stands for. -/
theorem decodeAll_cons {part : String} (h : '%' ∉ part.toList) (parameter : String)
    (rest : List (String × String)) :
    decodeAll ((parameter, part) :: rest) = (decodeAll rest).map (part :: ·) := by
  have hpercent : 0x25 ∉ Utf8.encode part := fun hmem =>
    h (Utf8.mem_of_mem_encode (c := '%') (by decide) hmem)
  rw [decodeAll, UrlEncoded.percentDecode_of_not_mem hpercent, Utf8.decode?_encode]

/-- There are as many texts as parts. -/
theorem length_of_decodeAll {found : List (String × String)} {texts : List String}
    (h : decodeAll found = .ok texts) : texts.length = found.length := by
  induction found generalizing texts with
  | nil =>
    cases h
    rfl
  | cons part rest ih =>
    rw [decodeAll] at h
    split at h
    case h_1 => cases h
    case h_2 text _ =>
      obtain ⟨below, hbelow, rfl⟩ :
          ∃ below, decodeAll rest = .ok below ∧ text :: below = texts := by
        rcases hrest : decodeAll rest with fault | below
        · rw [hrest] at h
          cases h
        · rw [hrest] at h
          exact ⟨below, rfl, Except.ok.inj h⟩
      rw [List.length_cons, List.length_cons, ih hbelow]

/-- As many parts as a route needs give it its values, if they are texts. -/
theorem values_eq {route : Route} {found : List (String × String)} (hneeds : route.parameters ≠ [])
    (hlength : found.length = route.parameters.length) :
    route.values found = (decodeAll found).map fun texts =>
      ⟨if route.parameters.contains "ver" then texts.head? else none, texts.getLastD ""⟩ := by
  have hsome : route.parameters.isEmpty = false := List.isEmpty_eq_false_iff.mpr hneeds
  rw [values, hsome, if_neg Bool.false_ne_true]
  rcases htexts : decodeAll found with fault | texts
  · rfl
  · rw [← length_of_decodeAll htexts] at hlength
    simp only [if_pos hlength]
    rfl

/-- The parts of that path are the version and the name, if the name has no percent sign to be
decoded. -/
theorem values_actionPath (version : ApiVersion) (hpercent : '%' ∉ name.toList) :
    (api true .action).values [("ver", version.text), ("name", name)] =
      .ok ⟨some version.text, name⟩ := by
  have hplain : '%' ∉ version.text.toList := ApiVersion.not_mem_text (by decide) version
  have htexts : decodeAll [("ver", version.text), ("name", name)] = .ok [version.text, name] := by
    rw [decodeAll_cons hplain, decodeAll_cons hpercent]
    rfl
  rw [values, htexts]
  rfl

end

end Route

/-- **A request for the path of an action at a version gets to the action**, if the version is
within the range and the method is served. -/
theorem Gateway.reaches_actionPath {g : Gateway} {request : Request} {version : ApiVersion}
    {name : String} {limit : Nat} (hbase : PlainPath g.config.basePath)
    (hleast : 3 ≤ version.number) (hgreatest : version.number ≤ g.config.maxVersion.number)
    (hname : name ≠ "") (hslash : '/' ∉ name.toList) (hpercent : '%' ∉ name.toList)
    (hpath : request.target.path = Route.actionPath g.config.basePath version name)
    (hserves : (Route.api true .action).serves request.method = true)
    (hlimit : g.bodyLimit? request = some limit) :
    g.Reaches request .action limit version name := by
  have hroute : g.route? request =
      some (.api true .action, [("ver", version.text), ("name", name)]) := by
    rw [Gateway.route?, hpath]
    exact Route.find?_actionPath hbase version hname hslash
  exact .intro true _ _ hlimit hroute hserves (Route.values_actionPath version hpercent)
    (ApiVersion.parseWithin_text hleast hgreatest)

end ActionGateway
