/-!
# Failure codes

Every response outside 200 to 299 falls under one of twelve codes, which say what kind of failure it
is and whether sending the same request again may help.
-/

namespace Courier.Http

/-- The kinds of failures that a server reports. -/
inductive FailureCode where
  | invalidRequest
  | authentication
  | permissionDenied
  | notFound
  | requestTooLarge
  | unprocessable
  | rateLimited
  | serverError
  | unavailable
  | timeout
  | conflict
  | unknown
  deriving DecidableEq, Repr, Inhabited

/-- Whose concern a failure is. -/
inductive FailureCategory where
  | client
  | rate
  | server
  | operational
  | unknown
  deriving DecidableEq, Repr

/-- The name of a category. -/
def FailureCategory.name : FailureCategory → String
  | .client => "client"
  | .rate => "rate"
  | .server => "server"
  | .operational => "operational"
  | .unknown => "unknown"

namespace FailureCode

/-- The code of a status; a status without a code of its own is unknown. -/
def ofStatus (status : Nat) : FailureCode :=
  match status with
  | 400 => .invalidRequest
  | 401 => .authentication
  | 403 => .permissionDenied
  | 404 => .notFound
  | 408 => .timeout
  | 409 => .conflict
  | 413 => .requestTooLarge
  | 422 => .unprocessable
  | 429 => .rateLimited
  | 500 => .serverError
  | 502 => .unavailable
  | 503 => .unavailable
  | 504 => .timeout
  | _ => .unknown

/-- The short form of a code. -/
def text : FailureCode → String
  | .invalidRequest => "E1001"
  | .authentication => "E1002"
  | .permissionDenied => "E1003"
  | .notFound => "E1004"
  | .requestTooLarge => "E1005"
  | .unprocessable => "E1006"
  | .rateLimited => "E2001"
  | .serverError => "E3001"
  | .unavailable => "E3002"
  | .timeout => "E3003"
  | .conflict => "E4001"
  | .unknown => "E9999"

/-- The name of a code. -/
def name : FailureCode → String
  | .invalidRequest => "invalid_request"
  | .authentication => "authentication"
  | .permissionDenied => "permission_denied"
  | .notFound => "not_found"
  | .requestTooLarge => "request_too_large"
  | .unprocessable => "unprocessable"
  | .rateLimited => "rate_limited"
  | .serverError => "server_error"
  | .unavailable => "unavailable"
  | .timeout => "timeout"
  | .conflict => "conflict"
  | .unknown => "unknown"

/-- The category of a code. -/
def category : FailureCode → FailureCategory
  | .rateLimited => .rate
  | .serverError => .server
  | .unavailable => .server
  | .timeout => .server
  | .conflict => .operational
  | .unknown => .unknown
  | _ => .client

/-- Whether sending again may succeed. -/
def retryable : FailureCode → Bool
  | .rateLimited => true
  | .serverError => true
  | .unavailable => true
  | .timeout => true
  | _ => false

end FailureCode

end Courier.Http
