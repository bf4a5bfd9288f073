import ActionGateway.Http.Header
import ActionGateway.Identity
import ActionGateway.Text.Basic
import ActionGateway.Text.Quoted

/-!
# Tokens

A caller proves who it is with a token in a header. The tokens that are known are configured as a
text of entries `<token>=<user>` with commas between them, and each stands for one principal; where
a token is given twice, the last entry counts.

Two headers can carry a token, bare or after `Bearer`. The second is asked only when the first
carries no known token.
-/

namespace ActionGateway

/-- What is wrong with an entry. -/
inductive TokenFault
  /-- no equals sign, or no user after it -/
  | malformed (entry : String)
  | emptyToken (user : String)
  deriving DecidableEq, Repr

/-- The text of a fault. It shows the entry that is wrong, and of a missing token only the user. -/
def TokenFault.message : TokenFault → String
  | malformed entry =>
    "token entry " ++ Text.quoted entry ++ " is not of the form <token>=<user>"
  | emptyToken user => "token entry for user " ++ Text.quoted user ++ " has an empty token"

/-- The tokens that are known, each with the principal that it stands for. -/
structure Tokens where
  entries : List (String × Principal)
  deriving DecidableEq, Repr

namespace Tokens

/-- No token is known, so every caller is anonymous. -/
def empty : Tokens :=
  ⟨[]⟩

/-- One more token, which from now on counts before those given earlier. -/
def withToken (tokens : Tokens) (token : String) (principal : Principal) : Tokens :=
  ⟨tokens.entries ++ [(token, principal)]⟩

/-- How many entries there are, repeated tokens counted each time. -/
def size (tokens : Tokens) : Nat :=
  tokens.entries.length

/-- The description for logs, which shows no token. -/
def describe (tokens : Tokens) : String :=
  "ApiTokenResolver \x7b tokens: <" ++ toString tokens.size ++ " redacted> \x7d"

/-! ## Configuration

Blanks count nowhere in the text but inside a token or a user. The first entry that is wrong makes
the whole text wrong. -/

/-- Characters without the blanks at their ends. -/
def trimmed (chars : List Char) : List Char :=
  Text.trimList Text.isBlank chars

/-- The token and the user of an entry that has no blanks at its ends. -/
def parseEntry (entry : List Char) : Except TokenFault (String × String) :=
  match Text.splitFirst? '=' entry with
  | none => .error (.malformed (String.ofList entry))
  | some (token, user) =>
    -- The equals sign is the first one, so a user may contain others and a token none.
    let token := trimmed token
    let user := trimmed user
    if user.isEmpty then .error (.malformed (String.ofList entry))
    else if token.isEmpty then .error (.emptyToken (String.ofList user))
    else .ok (String.ofList token, String.ofList user)

/-- The tokens of entries; the first entry that is wrong counts. -/
def parseEntries : List (List Char) → Except TokenFault (List (String × String))
  | [] => .ok []
  | entry :: rest =>
    match parseEntry entry with
    | .error fault => .error fault
    | .ok pair =>
      match parseEntries rest with
      | .error fault => .error fault
      | .ok pairs => .ok (pair :: pairs)

/-- The pieces between the commas that are not blank, without the blanks at their ends. -/
def pieces (text : String) : List (List Char) :=
  ((Text.splitOn ',' text.toList).map trimmed).filter fun piece => !piece.isEmpty

/-- The tokens that a text configures. -/
def parse (text : String) : Except TokenFault Tokens :=
  (parseEntries (pieces text)).map fun pairs =>
    ⟨pairs.map fun (token, user) => (token, Principal.named user)⟩

/-! ## Resolution

A header without a known token is passed over, whether it carries none, one that is blank, or one
that nobody has been given. -/

/-- The principal that a token stands for. -/
def find? (tokens : Tokens) (token : String) : Option Principal :=
  (tokens.entries.reverse.find? fun entry => entry.1 = token).map (·.2)

/-- What follows a beginning, or all if the characters do not begin so. -/
def withoutStart (start chars : List Char) : List Char :=
  if start.isPrefixOf chars then chars.drop start.length else chars

/-- The token in the text of a header, if there is one. -/
def tokenOfText? (text : String) : Option String :=
  let token := trimmed (withoutStart "Bearer ".toList (trimmed text.toList))
  if token.isEmpty then none else some (String.ofList token)

/-- The token that a header carries. -/
def presented? (headers : Headers) (name : String) : Option String :=
  ((headers.first? name).bind HeaderValue.text?).bind tokenOfText?

/-- The headers that can carry a token, in the order in which they are asked. -/
def headerNames : List String :=
  ["authorization", "x-ckan-api-key"]

/-- The caller who sent the headers. -/
def resolve (tokens : Tokens) (headers : Headers) : Identity :=
  match headerNames.findSome? fun name => (presented? headers name).bind tokens.find? with
  | some principal => .authenticated principal
  | none => .anonymous

end Tokens

end ActionGateway
