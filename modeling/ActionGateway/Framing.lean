import ActionGateway.Call
import ActionGateway.Envelope

/-!
# Framing of responses

How a body becomes a response: it is written out, its kind gives the content type, and where the
caller asked for a script that hands the result to a **callback**, the body of a successful response
is wrapped into one. Only retrieval methods ask for a callback, and only a response with status 200
and a body is wrapped.
-/

namespace ActionGateway

/-! ## Bodies -/

/-- The kind of a body. -/
inductive ContentKind
  | text
  | html
  | json
  | javascript
  deriving DecidableEq, Repr

/-- What stands in the content type of a response with such a body. -/
def ContentKind.mediaType : ContentKind → String
  | text => "text/plain;charset=utf-8"
  | html => "text/html;charset=utf-8"
  | json => "application/json;charset=utf-8"
  | javascript => "application/javascript;charset=utf-8"

/-- A body before it is written out. -/
inductive ResponseBody
  | json (value : Json)
  /-- a text that is written out as it is -/
  | text (text : String)

/-- The text of a body. -/
def ResponseBody.render : ResponseBody → String
  | json value => value.text
  | text s => s

/-- A location that cannot stand in a header. The error keeps it, so that whoever framed the
response can say which it was. -/
structure UnusableLocation where
  location : String
  deriving DecidableEq, Repr

namespace UnusableLocation

def message (error : UnusableLocation) : String :=
  "Couldn't convert 'Location' header value '" ++ error.location ++
    "' to string: failed to parse header value"

/-- What the caller is told in place of the response. -/
def response (_ : UnusableLocation) : Response :=
  ⟨500, [("content-type", Utf8.encode ContentKind.text.mediaType)], "Internal Server Error"⟩

end UnusableLocation

/-! ## Callbacks

The name of a callback is the one text of a request that stands unquoted in a response. It is
escaped once, when the framing is made, so that no body is ever handed to a name as it came in. -/

/-- How a character stands in a callback: what could end the script or open a tag is spelled out. -/
def escapeChar (c : Char) : List Char :=
  if c = '&' then "&amp;".toList
  else if c = '<' then "&lt;".toList
  else if c = '>' then "&gt;".toList
  else if c = '\x22' then "&quot;".toList
  else if c = '\'' then "&#x27;".toList
  else [c]

/-- A callback in the form in which it stands in the script. -/
def escapeCallback (callback : String) : String :=
  String.ofList (callback.toList.flatMap escapeChar)

/-! ## Framings -/

/-- How the responses to one request are framed. -/
structure Framing where
  /-- the escaped name of the callback that the result goes to, if there is one -/
  callback : Option String
  deriving DecidableEq, Repr

namespace Framing

/-- Nothing is wrapped. -/
def plain : Framing :=
  ⟨none⟩

/-- The framing that a method and its query ask for. -/
def ofParams (method : Method) (query : Params) : Framing :=
  if method.isRetrieval then ⟨(query.first? "callback").map escapeCallback⟩ else plain

/-- The framing that a method and the text of its query ask for. -/
def ofQuery (method : Method) (query : Option String) : Framing :=
  ofParams method (queryParams query)

/-- A body handed to a callback. -/
def wrap (callback body : String) : String :=
  callback ++ "(" ++ body ++ ");"

/-- The response with a status, a body, and headers, of which the content type is replaced if there
is a body. A response without a body keeps its headers as they are. -/
def frame (framing : Framing) (status : Nat) (body : Option ResponseBody) (kind : ContentKind)
    (headers : Headers) : Response :=
  match body with
  | none => ⟨status, headers, ""⟩
  | some body =>
    let (text, kind) :=
      match framing.callback with
      | some callback =>
        -- Only a result is handed on; whatever has another status is written as it is.
        if status = 200 then (wrap callback body.render, ContentKind.javascript)
        else (body.render, kind)
      | none => (body.render, kind)
    ⟨status, headers.set "content-type" (Utf8.encode kind.mediaType), text⟩

/-- Status 200 and a body. -/
def ok (framing : Framing) (body : ResponseBody) (kind : ContentKind) : Response :=
  framing.frame 200 (some body) kind []

/-- Status 201, a body, and where the new resource is. -/
def created (framing : Framing) (body : ResponseBody) (kind : ContentKind) (location : String) :
    Except UnusableLocation Response :=
  match HeaderValue.ofString? location with
  | none => .error ⟨location⟩
  | some value => .ok (framing.frame 201 (some body) kind [("location", value)])

/-- Status 400 and a text as JSON, with details if there are any. -/
def badRequest (framing : Framing) (details : Option String) : Response :=
  let message :=
    match details with
    | some details => "Bad request - " ++ details
    | none => "Bad request"
  framing.frame 400 (some (.json (.str message))) .json []

/-- An envelope as JSON. -/
def envelope (framing : Framing) (status : Nat) (envelope : Envelope) : Response :=
  framing.frame status (some (.json envelope.toJson)) .json []

end Framing

end ActionGateway
