import ActionGateway.Form.Multipart
import ActionGateway.Json.Fault

/-!
# Refusals

Why a call is refused before its action runs: its input cannot be taken. Every refusal is answered
in the same way; only a body that is too large has a status of its own.
-/

namespace ActionGateway

/-- Why a body cannot be read. -/
inductive BodyFault
  /-- a form in several parts whose media type names no boundary -/
  | noBoundary
  | multipart (fault : MultipartFault)
  deriving DecidableEq, Repr

def BodyFault.message : BodyFault → String
  | noBoundary => "Invalid \x60boundary\x60 for \x60multipart/form-data\x60 request"
  | multipart fault => fault.message

/-- Why the input of a call is not taken. -/
inductive Refusal
  /-- a retrieval method, where input from a query is not taken -/
  | methodNotAllowed
  /-- a document that is no JSON, and the text of it -/
  | malformedJson (error : Json.LocatedFault) (raw : String)
  /-- a document that is no object -/
  | notAMapping (document : Json)
  /-- an update that comes with nothing -/
  | emptyUpdate
  | unreadable (fault : BodyFault)
  | tooLarge

namespace Refusal

def message : Refusal → String
  | methodNotAllowed =>
    "Invalid request: method not allowed for this payload extraction mode. " ++
      "Please use the POST method for your request"
  | malformedJson error raw =>
    "Error decoding JSON data. Error: " ++ error.message ++
      " JSON data extracted from the request: " ++ Text.quoted raw
  | notAMapping document =>
    "Request data JSON decoded to " ++ document.text ++ " but it needs to be a dictionary."
  | emptyUpdate => "Invalid request: update requires a non-empty payload"
  | unreadable fault => "Unable to read request data: " ++ fault.message
  | tooLarge => "Request body exceeds the configured size limit"

/-- The status that answers the refusal. -/
def status : Refusal → Nat
  | tooLarge => 413
  | _ => 400

end Refusal

end ActionGateway
