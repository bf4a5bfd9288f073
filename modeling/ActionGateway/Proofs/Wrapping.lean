import ActionGateway.Proofs.Responses

/-!
# What wrapping changes

A framing may name a callback, and then it **wraps**: it hands the body to the callback and says
that the response is a script. `Framing.FrameContract` compares the framing that a request asks for
with the plain one, over every status, body and kind of body and over any headers. The two make the
same response except in one case, and in that case the body and the content type are all that they
make differently.

Both responses are framed by one function, so the comparison is between two arguments of it. Headers
are given as a list in which a name may come more than once, and what is said of them is said of all
values of a name.
-/

namespace ActionGateway

/-! ## Headers

To set a header is to drop all values of its name and to put one at the end. -/

namespace Headers

/-- A name that is given a value has no other. -/
theorem all_set_self (name : String) (headers : Headers) (value : Bytes) :
    (headers.set name value).all name = [value] := by
  have hothers : (headers.filter fun header => header.1 ≠ name).filter
      (fun header => decide (header.1 = name)) = [] := by
    rw [List.filter_eq_nil_iff]
    intro header hheader
    simpa using (List.mem_filter.mp hheader).2
  rw [all, set, List.filter_append, hothers, List.nil_append]
  simp

/-- A name that is given a value leaves the values of other names as they are. -/
theorem all_set_ne {name other : String} (h : other ≠ name) (headers : Headers) (value : Bytes) :
    (headers.set name value).all other = headers.all other := by
  have hnew : [(name, value)].filter (fun header => decide (header.1 = other)) = [] := by
    simp [Ne.symm h]
  rw [all, set, List.filter_append, hnew, List.append_nil, List.filter_filter, all]
  congr 1
  refine List.filter_congr fun header _ => ?_
  by_cases hheader : header.1 = other
  · simp [hheader, h]
  · simp [hheader]

end Headers

namespace Framing

variable {framing : Framing} {method : Method} {query : Params} {callback : String}

/-! ## One response

Whether a response is wrapped is asked of three things: the status, the body and the callback. Where
all three are as they should be the response is a script, and where one is not it is the plain one.
-/

/-- The script is longer than the body that it hands over. -/
theorem wrap_ne (callback body : String) : wrap callback body ≠ body := by
  intro h
  have hlength := congrArg String.length h
  simp only [wrap, String.length_append] at hlength
  have hopen : "(".length = 1 := rfl
  omega

/-- A framing wraps a response that is successful and has a body, if it names a callback. -/
structure Wraps (framing : Framing) (status : Nat) (body : Option ResponseBody)
    (callback : String) (given : ResponseBody) : Prop where
  /-- only success is wrapped -/
  status : status = 200
  /-- and only what there is -/
  body : body = some given
  /-- for whoever asked for it -/
  callback : framing.callback = some callback

/-- **What is wrapped** is a script that hands over the body. -/
theorem Wraps.frame_eq {status : Nat} {body : Option ResponseBody} {given : ResponseBody}
    (h : framing.Wraps status body callback given) (kind : ContentKind) (headers : Headers) :
    framing.frame status body kind headers =
      ⟨200, headers.set "content-type" (Utf8.encode ContentKind.javascript.mediaType),
        wrap callback given.render⟩ := by
  obtain ⟨rfl, rfl, hcallback⟩ := h
  simp only [frame, hcallback, if_true]

/-- **What is not wrapped** is framed as if no callback had been named. -/
theorem frame_eq_plain {status : Nat} {body : Option ResponseBody}
    (h : ¬ ∃ callback given, framing.Wraps status body callback given) (kind : ContentKind)
    (headers : Headers) :
    framing.frame status body kind headers = plain.frame status body kind headers := by
  by_cases hstatus : status = 200
  · rcases body with _ | given
    · rfl
    · rcases hcallback : framing.callback with _ | callback
      · simp only [frame, hcallback, plain]
      · exact absurd ⟨callback, given, hstatus, rfl, hcallback⟩ h
  · exact frame_of_status_ne_200 hstatus framing body kind headers

/-- **A framing changes a response exactly if it wraps it.** That it always does so where it wraps
is seen from the length of the body. -/
theorem frame_ne_plain_iff {status : Nat} {body : Option ResponseBody} {kind : ContentKind}
    {headers : Headers} :
    framing.frame status body kind headers ≠ plain.frame status body kind headers ↔
      ∃ callback given, framing.Wraps status body callback given := by
  constructor
  · exact fun hne => Classical.byContradiction fun hnone => hne (frame_eq_plain hnone kind headers)
  · rintro ⟨callback, given, hwraps⟩ heq
    have hbody := congrArg Response.body heq
    rw [hwraps.frame_eq, hwraps.body] at hbody
    exact wrap_ne callback given.render hbody

/-- Headers other than the content type go out as they are given. -/
theorem all_frame {name : String} (h : name ≠ "content-type") (framing : Framing) (status : Nat)
    (body : Option ResponseBody) (kind : ContentKind) (headers : Headers) :
    (framing.frame status body kind headers).headers.all name = headers.all name := by
  cases body with
  | none => rfl
  | some given => exact Headers.all_set_ne h headers _

/-- **The callback that a request asks for** is the first that the query of a retrieval names. A
name that is empty is a name too. -/
theorem callback_ofParams_eq_some_iff :
    (ofParams method query).callback = some callback ↔
      (method = .get ∨ method = .head) ∧
        ∃ name, query.first? "callback" = some name ∧ escapeCallback name = callback := by
  rw [← Method.isRetrieval_iff, ofParams]
  split
  next h => simp [h]
  next h => simp [h, plain]

/-! ## The contract -/

/-- How the response in the framing that a method and a query ask for relates to the plain one. The
two responses are parameters; `frameContract` puts in what the two framings make of one status, one
body, one kind and one list of headers. The first field is an equivalence, so that the fields after
it can speak of responses that differ instead of repeating when they do. -/
structure FrameContract (method : Method) (query : Params) (status : Nat)
    (body : Option ResponseBody) (kind : ContentKind) (headers : Headers)
    (framed bare : Response) : Prop where
  /-- they differ where a retrieval that names a callback is successful and gets a body, and there
  alone -/
  ne_iff : framed ≠ bare ↔
    status = 200 ∧ body.isSome = true ∧ (method = .get ∨ method = .head) ∧
      ∃ name, ("callback", name) ∈ query
  /-- where they differ, the first callback is handed the bare body -/
  body_of_ne : framed ≠ bare → ∃ name, query.first? "callback" = some name ∧
    framed.body = escapeCallback name ++ "(" ++ bare.body ++ ");"
  /-- and the response is said to be a script, and nothing else -/
  contentType_of_ne : framed ≠ bare → framed.headers.all "content-type" =
    [Utf8.encode "application/javascript;charset=utf-8"]
  /-- the status is the one given -/
  status_eq : framed.status = status ∧ bare.status = status
  /-- all headers but the content type are the ones given, with all their values in order -/
  all_eq : ∀ name ≠ "content-type",
    framed.headers.all name = headers.all name ∧ bare.headers.all name = headers.all name
  /-- a body is written out, and its kind is the only content type, whatever was given -/
  of_body : ∀ given, body = some given → bare.body = given.render ∧
    bare.headers.all "content-type" = [Utf8.encode kind.mediaType]
  /-- without a body, what was given goes out as it is -/
  of_no_body : body = none → framed = ⟨status, headers, ""⟩ ∧ bare = ⟨status, headers, ""⟩
  /-- the response for what has been created is never wrapped -/
  created_eq : ∀ given location,
    (ofParams method query).created given kind location = plain.created given kind location
  /-- nor is that to a bad request -/
  badRequest_eq : ∀ details, (ofParams method query).badRequest details = plain.badRequest details

/-- **Framing changes the body and the content type of a successful retrieval that names a
callback**, and nothing else. It holds of any status, also of those that the gateway never gives
with a body, and of any headers. -/
theorem frameContract (method : Method) (query : Params) (status : Nat)
    (body : Option ResponseBody) (kind : ContentKind) (headers : Headers) :
    FrameContract method query status body kind headers
      ((ofParams method query).frame status body kind headers)
      (plain.frame status body kind headers) := by
  constructor
  case ne_iff =>
    rw [frame_ne_plain_iff]
    constructor
    · rintro ⟨callback, given, hstatus, hbody, hcallback⟩
      obtain ⟨hmethod, name, hfirst, -⟩ := callback_ofParams_eq_some_iff.mp hcallback
      exact ⟨hstatus, hbody ▸ rfl, hmethod, name, Entries.mem_of_find?_eq_some hfirst⟩
    · rintro ⟨hstatus, hbody, hmethod, hnamed⟩
      obtain ⟨given, hgiven⟩ := Option.isSome_iff_exists.mp hbody
      obtain ⟨name, hfirst⟩ :=
        Option.isSome_iff_exists.mp (Entries.isSome_find?_iff.mpr hnamed)
      exact ⟨escapeCallback name, given, hstatus, hgiven,
        callback_ofParams_eq_some_iff.mpr ⟨hmethod, name, hfirst, rfl⟩⟩
  case body_of_ne =>
    intro hne
    obtain ⟨callback, given, hwraps⟩ := frame_ne_plain_iff.mp hne
    obtain ⟨-, name, hfirst, rfl⟩ := callback_ofParams_eq_some_iff.mp hwraps.callback
    refine ⟨name, hfirst, ?_⟩
    rw [hwraps.frame_eq, hwraps.body]
    rfl
  case contentType_of_ne =>
    intro hne
    obtain ⟨callback, given, hwraps⟩ := frame_ne_plain_iff.mp hne
    rw [hwraps.frame_eq]
    exact Headers.all_set_self _ _ _
  case status_eq => cases body <;> exact ⟨rfl, rfl⟩
  case all_eq =>
    intro name hname
    exact ⟨all_frame hname _ status body kind headers, all_frame hname _ status body kind headers⟩
  case of_body =>
    rintro given rfl
    exact ⟨rfl, Headers.all_set_self _ _ _⟩
  case of_no_body =>
    rintro rfl
    exact ⟨rfl, rfl⟩
  case created_eq =>
    intro given location
    simp only [created, frame_of_status_ne_200 (show 201 ≠ 200 by decide)]
  case badRequest_eq =>
    intro details
    simp only [badRequest, frame_of_status_ne_200 (show 400 ≠ 200 by decide)]

end Framing

end ActionGateway
