namespace Disburse.Http

/-- The phrases that go with status codes of refusal. -/
def reason? : Nat → Option String
  | 400 => some "Bad Request"
  | 401 => some "Unauthorized"
  | 402 => some "Payment Required"
  | 403 => some "Forbidden"
  | 404 => some "Not Found"
  | 405 => some "Method Not Allowed"
  | 406 => some "Not Acceptable"
  | 407 => some "Proxy Authentication Required"
  | 408 => some "Request Timeout"
  | 409 => some "Conflict"
  | 410 => some "Gone"
  | 411 => some "Length Required"
  | 412 => some "Precondition Failed"
  | 413 => some "Payload Too Large"
  | 414 => some "URI Too Long"
  | 415 => some "Unsupported Media Type"
  | 416 => some "Range Not Satisfiable"
  | 417 => some "Expectation Failed"
  | 418 => some "I'm a teapot"
  | 421 => some "Misdirected Request"
  | 422 => some "Unprocessable Entity"
  | 423 => some "Locked"
  | 424 => some "Failed Dependency"
  | 426 => some "Upgrade Required"
  | 428 => some "Precondition Required"
  | 429 => some "Too Many Requests"
  | 431 => some "Request Header Fields Too Large"
  | 451 => some "Unavailable For Legal Reasons"
  | 500 => some "Internal Server Error"
  | 501 => some "Not Implemented"
  | 502 => some "Bad Gateway"
  | 503 => some "Service Unavailable"
  | 504 => some "Gateway Timeout"
  | 505 => some "HTTP Version Not Supported"
  | 506 => some "Variant Also Negotiates"
  | 507 => some "Insufficient Storage"
  | 508 => some "Loop Detected"
  | 510 => some "Not Extended"
  | 511 => some "Network Authentication Required"
  | _ => none

/-- Why an exchange gave no usable answer. -/
inductive Fault where
  /-- No answer arrived from this address. -/
  | sending (url : String)
  /-- The answer's status says that the request failed. -/
  | status (code : Nat) (url : String)
  /-- The body is not of the expected form. -/
  | decoding
  deriving DecidableEq, Repr

def Fault.message : Fault → String
  | .sending url => s!"error sending request for url ({url})"
  | .status code url =>
    let side := if code < 500 then "client" else "server"
    let phrase := (reason? code).getD "<unknown status code>"
    s!"HTTP status {side} error ({code} {phrase}) for url ({url})"
  | .decoding => "error decoding response body"

end Disburse.Http
