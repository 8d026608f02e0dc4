import Courier.Http.Header
import Courier.Json.Parser

/-!
# Responses
-/

namespace Courier

/-- A response with a status of 200 to 299, and how many attempts failed before it. -/
structure Response where
  status : Nat
  fields : Http.Fields
  body : List UInt8
  retryCount : UInt32
  deriving DecidableEq

namespace Response

/-- The JSON value of the body. -/
def json (r : Response) : Except Json.Error Json.Value := Json.parseBytes r.body

/-- The text of the body, each ill-formed part replaced. -/
def text (r : Response) : String := Text.Utf8.stringLossy r.body

/-- The first field of a name in any case, if it is plain ASCII. -/
def header? (r : Response) (name : String) : Option String := r.fields.text? name

end Response

end Courier
