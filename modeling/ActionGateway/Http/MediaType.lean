import ActionGateway.Http.Header

/-!
# Media types

A media type names the format of a body: a type, a subtype, and parameters after semicolons. A value
of a parameter stands in quotes or is a token. Case matters only in the values of parameters, and
not in that of `charset`; where it does not matter, lower case is what is kept.

The text of a media type is kept as it was written but for the case. A list of parameters that is
empty is left out, with its semicolon.
-/

namespace ActionGateway

/-- A media type, in the parts that it is compared by, and as a text. -/
structure MediaType where
  topLevel : String
  /-- the subtype without the suffix that follows its last `+` -/
  subtype : String
  /-- names and values of the parameters, in order -/
  parameters : List (String × String)
  text : String
  deriving DecidableEq, Repr

namespace MediaType

/-! ## Parameters

A parameter is read with the text of it, since the text of the media type is put together from those
of its parameters. -/

/-- The characters in lower case. -/
def lower (chars : List Char) : List Char :=
  chars.map Char.toLower

/-- Whether a character may stand between the quotes of a value. -/
def isQuotable (c : Char) : Bool :=
  32 ≤ c.toNat && c.toNat ≠ 127

/-- A parameter: its name, its value, the text of both, and what follows. -/
structure Parameter where
  name : List Char
  value : List Char
  written : List Char
  rest : List Char

/-- A value in quotes, after the opening quote, and what follows up to the next parameter. The first
character belongs to the value even if it is a quote. -/
def quotedValue? (name : List Char) (chars : List Char) : Option Parameter :=
  match chars with
  | [] => none
  | first :: chars =>
    -- The first character is taken without a look, so `""` is no empty value.
    let value := first :: chars.takeWhile (· ≠ '\x22')
    match chars.dropWhile (· ≠ '\x22') with
    | [] => none
    | _ :: after =>
      let value := if name = "charset".toList then lower value else value
      let written := name ++ ['=', '\x22'] ++ value ++ '\x22' :: after.takeWhile (· = ' ')
      if value.all isQuotable then
        match after.dropWhile (· = ' ') with
        | [] => some ⟨name, value, written, []⟩
        | ';' :: rest => some ⟨name, value, written ++ [';'], rest⟩
        | _ => none
      else none

/-- A value that is a token, and what follows up to the next parameter. -/
def tokenValue? (name : List Char) (chars : List Char) : Option Parameter :=
  let token := chars.takeWhile Token.isTokenChar
  let value := if name = "charset".toList then lower token else token
  let written := name ++ '=' :: value
  match chars.dropWhile Token.isTokenChar with
  | [] => some ⟨name, value, written, []⟩
  | ';' :: rest => if token.isEmpty then none else some ⟨name, value, written ++ [';'], rest⟩
  | _ => none

/-- A parameter and what follows up to the next one. -/
def parameter? (chars : List Char) : Option Parameter :=
  let name := lower (chars.takeWhile Token.isTokenChar)
  if name.isEmpty then none
  else
    match chars.dropWhile Token.isTokenChar with
    | '=' :: '\x22' :: rest => quotedValue? name rest
    | '=' :: rest => tokenValue? name rest
    | _ => none

/-- The parameters after a semicolon, at most `turns`, and their text. -/
def parameters? : Nat → List Char → Option (List (String × String) × List Char)
  | 0, _ => none
  | turns + 1, chars =>
    let blanks := chars.takeWhile (· = ' ')
    match chars.dropWhile (· = ' ') with
    | [] => some ([], blanks)
    | chars =>
      match parameter? chars with
      | none => none
      | some p =>
        (parameters? turns p.rest).map fun (parameters, text) =>
          ((String.ofList p.name, String.ofList p.value) :: parameters,
            blanks ++ p.written ++ text)

/-! ## Media types -/

/-- A subtype without the suffix that follows its last `+`. -/
def withoutSuffix (subtype : List Char) : List Char :=
  match subtype.reverse.dropWhile (· ≠ '+') with
  | '+' :: c :: rest => (c :: rest).reverse
  | _ => subtype

/-- The media type that a text denotes. -/
def parse? (s : String) : Option MediaType :=
  let topLevel := lower (s.toList.takeWhile Token.isTokenChar)
  if topLevel.isEmpty then none
  else
    match s.toList.dropWhile Token.isTokenChar with
    | '/' :: rest =>
      let subtype := lower (rest.takeWhile Token.isTokenChar)
      let essence := topLevel ++ '/' :: subtype
      let build (parameters : List (String × String)) (text : List Char) : MediaType :=
        ⟨String.ofList topLevel, String.ofList (withoutSuffix subtype), parameters,
          String.ofList text⟩
      match rest.dropWhile Token.isTokenChar with
      | [] => some (build [] essence)
      | ';' :: rest =>
        if subtype.isEmpty then none
        else
          (parameters? (rest.length + 1) rest).map fun (parameters, text) =>
            build parameters (if parameters.isEmpty then essence else essence ++ ';' :: text)
      | _ => none
    | _ => none

/-- The value of the first parameter of a name in lower case. -/
def parameter (m : MediaType) (name : String) : Option String :=
  (m.parameters.find? fun p => p.1 = name).map (·.2)

/-- What separates the parts of a form in several parts; only the media type of such a form has a
boundary. -/
def boundary? (m : MediaType) : Option String :=
  if m.topLevel = "multipart" ∧ m.subtype = "form-data" then m.parameter "boundary" else none

end MediaType

end ActionGateway
