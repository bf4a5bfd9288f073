import ActionGateway.Form.UrlEncoded
import ActionGateway.Http.Message
import ActionGateway.Refusal

/-!
# Received calls

A call as it was received, whatever it was sent over: its method and the three places from which
its payload can come, and the files that came with it. `Call.read` makes one from an HTTP
request: a url-encoded body becomes form fields, a form in several parts is taken apart into fields
and files, and any other body is kept as it is.
-/

namespace ActionGateway

/-- The parameters that a query holds; without a query there are none. -/
def queryParams : Option String → Params
  | none => []
  | some query => UrlEncoded.parse (Utf8.encode query)

/-! ## Calls

A call can also be put together by hand, which is how it is made where no request comes in. -/

/-- A call: its method, and what came with it. Which of the three places the payload comes from is
not decided here. -/
structure Call where
  method : Method
  contentType : Option String
  body : Bytes
  query : Params
  form : Params
  /-- uploaded files by form field, in the order in which they came -/
  files : List (String × Upload)

namespace Call

/-- The media type of a form in several parts, without its boundary. -/
def multipartForm : String :=
  "multipart/form-data"

/-- The media type of a url-encoded form. -/
def urlEncodedForm : String :=
  "application/x-www-form-urlencoded"

/-- The call of a method that brings nothing. -/
def new (method : Method) : Call :=
  ⟨method, none, [], [], [], []⟩

/-- The call with the parameters of a query. -/
def withQuery (call : Call) (query : String) : Call :=
  { call with query := queryParams (some query) }

/-- The call with a body of a content type. -/
def withBody (call : Call) (contentType : String) (body : Bytes) : Call :=
  { call with contentType := some contentType, body := body }

/-- The call with form fields. -/
def withForm (call : Call) (form : Params) : Call :=
  { call with contentType := some urlEncodedForm, form := form }

/-- The call with one more file under a form field. -/
def withFile (call : Call) (name : String) (file : Upload) : Call :=
  { call with contentType := some multipartForm, files := call.files ++ [(name, file)] }

/-- The callback that the query names: the result is to be handed to it. -/
def callback? (call : Call) : Option String :=
  call.query.first? "callback"

/-- Whether a content type begins with a media type. -/
def declares (contentType : Option String) (mediaType : String) : Bool :=
  match contentType with
  | none => false
  | some s => mediaType.toList.isPrefixOf s.toList

/-! ## Calls from requests

What becomes of a body is decided by its content type. Only the beginning of that is compared, so
parameters do not matter, and a longer word that begins alike counts too. -/

/-- The call declares a form in several parts. -/
def isMultipart (call : Call) : Bool :=
  declares call.contentType multipartForm

/-- The call with the parts of a form: a part with a file name is a file, any other a field. A name
that is missing is empty. -/
def addParts (call : Call) (parts : List Part) : Call :=
  { call with
    form := call.form ++ parts.filterMap fun part =>
      if part.filename.isSome then none else some (part.name.getD "", part.text)
    files := call.files ++ parts.filterMap fun part =>
      part.filename.map fun filename =>
        (part.name.getD "", ⟨some filename, part.mediaType.map MediaType.text, part.data⟩) }

/-- The call with the body of a request, which may be no longer than the limit. -/
def readBody (call : Call) (limit : Option Nat) (request : Request) :
    Except Refusal Call :=
  match request.readBody limit with
  | none => .error .tooLarge
  | some body =>
    if declares call.contentType urlEncodedForm then
      .ok { call with form := UrlEncoded.parse body }
    else .ok { call with body := body }

/-- The call with the parts of the body of a request. The boundary is looked for first. -/
def readParts (call : Call) (limit : Option Nat) (request : Request) :
    Except Refusal Call :=
  match (call.contentType.bind MediaType.parse?).bind MediaType.boundary? with
  -- Without a boundary the body is not read, so not even its length is a fault.
  | none => .error (.unreadable .noBoundary)
  | some boundary =>
    match request.readBody limit with
    | none => .error .tooLarge
    | some body =>
      match Multipart.parse boundary body with
      | .error fault => .error (.unreadable (.multipart fault))
      | .ok parts => .ok (call.addParts parts)

/-- What a request says before its body is read. -/
def ofHead (request : Request) : Call :=
  { method := request.method
    contentType := (request.headers.first? "content-type").bind HeaderValue.text?
    body := []
    query := queryParams request.target.query
    form := []
    files := [] }

/-- The call that a request makes; `limit` is the greatest length of a body, if there is one. -/
def read (limit : Option Nat) (request : Request) : Except Refusal Call :=
  let call := ofHead request
  if call.isMultipart then call.readParts limit request else call.readBody limit request

/-- The limit where none is configured. -/
def defaultLimit : Nat := 2097152

end Call

end ActionGateway
