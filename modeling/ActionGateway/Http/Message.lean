import ActionGateway.Http.Header

/-!
# HTTP messages

Requests as they arrive and responses as they leave. The body of a request arrives in **chunks**;
reading it under a limit fails at the first chunk with which the limit is passed, so what counts is
the number of bytes and not how they are cut.
-/

namespace ActionGateway

/-! ## Methods -/

/-- A request method, by what the gateway makes of it. -/
inductive Method
  | get
  | head
  | post
  | put
  | options
  | other (token : String)
  deriving DecidableEq, Repr

namespace Method

/-- The method of a name, which must be a token. Case matters. -/
def ofToken? (token : String) : Option Method :=
  if token.isEmpty || !token.toList.all Token.isTokenChar then none
  else some <|
    if token = "GET" then get
    else if token = "HEAD" then head
    else if token = "POST" then post
    else if token = "PUT" then put
    else if token = "OPTIONS" then options
    else other token

/-- The method only retrieves: its requests have no body to speak of. -/
def isRetrieval : Method → Bool
  | get => true
  | head => true
  | _ => false

/-- Form fields are read for the method. -/
def carriesForm : Method → Bool
  | post => true
  | put => true
  | _ => false

/-- The method updates, and must come with something to update. -/
def isUpdate : Method → Bool
  | put => true
  | _ => false

end Method

/-! ## Targets -/

/-- The target of a request: its path and, after a question mark, its query. -/
structure Target where
  path : String
  query : Option String
  deriving DecidableEq, Repr

namespace Target

/-- What follows scheme and authority, if the target begins with them. -/
def afterAuthority (chars : List Char) : List Char :=
  match chars.dropWhile (· ≠ ':') with
  | ':' :: '/' :: '/' :: rest =>
    -- A slash before the colon means that the colon belongs to the path.
    if (chars.takeWhile (· ≠ ':')).contains '/' then chars
    else rest.dropWhile fun c => c ≠ '/' && c ≠ '?' && c ≠ '#'
  | _ => chars

/-- The target of a text. A fragment is left out, and an empty path is the root. -/
def parse (s : String) : Target :=
  let chars := (afterAuthority s.toList).takeWhile (· ≠ '#')
  let path := chars.takeWhile (· ≠ '?')
  { path := if path.isEmpty then "/" else String.ofList path
    query :=
      match chars.dropWhile (· ≠ '?') with
      | [] => none
      | _ :: query => some (String.ofList query) }

end Target

/-! ## Requests

A request is known in full before it is handled, but for its body, which is read chunk by chunk and
only if something asks for it. -/

/-- A request as it arrives. -/
structure Request where
  method : Method
  target : Target
  headers : Headers
  /-- the chunks of the body, in the order in which they arrive -/
  body : List Bytes

/-- Chunks that are listed in reverse, put together in front of `after`. -/
def joinChunks (after : Bytes) : List Bytes → Bytes
  | [] => after
  | chunk :: earlier => joinChunks (if after.isEmpty then chunk else chunk ++ after) earlier

/-- The body under a limit, or nothing if it is longer. `read` holds, in reverse, what came before
the chunks, `room` what may still come. -/
def readChunks (read : List Bytes) : Nat → List Bytes → Option Bytes
  | _, [] => some (joinChunks [] read)
  | room, chunk :: rest =>
    if chunk.length ≤ room then readChunks (chunk :: read) (room - chunk.length) rest else none

/-- The body of a request, unless it is longer than the limit. -/
def Request.readBody (request : Request) : Option Nat → Option Bytes
  | none => some (joinChunks [] request.body.reverse)
  | some limit => readChunks [] limit request.body

/-! ## Responses -/

/-- A response as it leaves. Every body that the gateway writes is text. -/
structure Response where
  status : Nat
  headers : Headers
  body : String
  deriving DecidableEq, Repr

namespace Response

/-- A response with a status and nothing else. -/
def empty (status : Nat) : Response :=
  ⟨status, [], ""⟩

/-- A response whose body is plain text. -/
def plain (status : Nat) (body : String) : Response :=
  ⟨status, [("content-type", Utf8.encode "text/plain; charset=utf-8")], body⟩

end Response

end ActionGateway
