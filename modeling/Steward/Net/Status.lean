import Steward.Failure
import Steward.Text.Search
/-!
# HTTP status codes

The reason phrases of the known codes, and what a response other than a success calls for.
-/

set_option autoImplicit false

namespace Steward.Net

def reasonPhrase? : Nat → Option String
  | 100 => some "Continue"
  | 101 => some "Switching Protocols"
  | 102 => some "Processing"
  | 103 => some "Early Hints"
  | 200 => some "OK"
  | 201 => some "Created"
  | 202 => some "Accepted"
  | 203 => some "Non Authoritative Information"
  | 204 => some "No Content"
  | 205 => some "Reset Content"
  | 206 => some "Partial Content"
  | 207 => some "Multi-Status"
  | 208 => some "Already Reported"
  | 226 => some "IM Used"
  | 300 => some "Multiple Choices"
  | 301 => some "Moved Permanently"
  | 302 => some "Found"
  | 303 => some "See Other"
  | 304 => some "Not Modified"
  | 305 => some "Use Proxy"
  | 307 => some "Temporary Redirect"
  | 308 => some "Permanent Redirect"
  | 400 => some "Bad Request"
  | 401 => some "Unauthorized"
  | 402 => some "Payment Required"
  | 403 => some "Forbidden"
  | 404 => some "Not Found"
  | 405 => some "Method Not Allowed"
  | 406 => some "Not Acceptable"
  | 407 => some "Proxy Authentication Required"
  | 408 => some "Request Timeout"
  | 409 => some "Conflict"
  | 410 => some "Gone"
  | 411 => some "Length Required"
  | 412 => some "Precondition Failed"
  | 413 => some "Payload Too Large"
  | 414 => some "URI Too Long"
  | 415 => some "Unsupported Media Type"
  | 416 => some "Range Not Satisfiable"
  | 417 => some "Expectation Failed"
  | 418 => some "I'm a teapot"
  | 421 => some "Misdirected Request"
  | 422 => some "Unprocessable Entity"
  | 423 => some "Locked"
  | 424 => some "Failed Dependency"
  | 425 => some "Too Early"
  | 426 => some "Upgrade Required"
  | 428 => some "Precondition Required"
  | 429 => some "Too Many Requests"
  | 431 => some "Request Header Fields Too Large"
  | 451 => some "Unavailable For Legal Reasons"
  | 500 => some "Internal Server Error"
  | 501 => some "Not Implemented"
  | 502 => some "Bad Gateway"
  | 503 => some "Service Unavailable"
  | 504 => some "Gateway Timeout"
  | 505 => some "HTTP Version Not Supported"
  | 506 => some "Variant Also Negotiates"
  | 507 => some "Insufficient Storage"
  | 508 => some "Loop Detected"
  | 510 => some "Not Extended"
  | 511 => some "Network Authentication Required"
  | _ => none

def statusText (status : Nat) : String :=
  toString status ++ " " ++ (reasonPhrase? status).getD "<unknown status code>"

def isSuccess (status : Nat) : Bool := 200 ≤ status && status < 300

/-- Phrases by which a token endpoint refuses a token.  It answers a revoked token with 400, so
only the body tells it from a malformed request. -/
def refusalPhrases : List String := ["invalid_grant", "invalid_token", "unauthorized_client"]

/-- Phrases with which the service announces maintenance. -/
def maintenancePhrases : List String :=
  ["maintenance", "temporarily unavailable", "service unavailable"]

def classifyStatus (status : Nat) (body : String) : Classification :=
  if status = 400 ∧ Text.mentionsAny refusalPhrases body then .authentication
  else if status = 401 ∨ status = 403 then .authentication
  else if status = 503 then .unavailable
  else if 500 ≤ status ∧ status ≤ 599 then
    if Text.mentionsAny maintenancePhrases body then .unavailable else .transient
  else if status = 408 ∨ status = 429 then .transient
  else if 400 ≤ status ∧ status ≤ 499 then .permanent
  else .transient

def excerptLength : Nat := 256

/-- The failure that a response other than a success reports. -/
def responseError (context : String) (status : Nat) (body : String) : RemoteError where
  classification := classifyStatus status body
  detail := context ++ " returned " ++ statusText status ++ ": "
    ++ String.ofList (body.toList.take excerptLength)

end Steward.Net
