/-!
# Requests over HTTP
-/

namespace ClusterOperator.Http

inductive Method where
  | get
  | post
  | put
  | delete
  deriving DecidableEq, Repr

def Method.text : Method → String
  | .get => "GET"
  | .post => "POST"
  | .put => "PUT"
  | .delete => "DELETE"

structure Request where
  method : Method
  url : String
  /-- Names in small letters. -/
  headers : List (String × String)
  body : Option String
  deriving DecidableEq, Repr

def Request.header? (r : Request) (name : String) : Option String := r.headers.lookup name

/-- An answer whose status has been received; its body may still be lost. -/
structure Response where
  status : UInt16
  body : Except String String

namespace Response

def isSuccess (r : Response) : Bool := 200 ≤ r.status && r.status < 300

def isError (r : Response) : Bool := 400 ≤ r.status && r.status < 600

end Response

/-- What a status is called. -/
def reason? (status : UInt16) : Option String :=
  match status.toNat with
  | 100 => some "Continue"
  | 101 => some "Switching Protocols"
  | 102 => some "Processing"
  | 103 => some "Early Hints"
  | 200 => some "OK"
  | 201 => some "Created"
  | 202 => some "Accepted"
  | 203 => some "Non Authoritative Information"
  | 204 => some "No Content"
  | 205 => some "Reset Content"
  | 206 => some "Partial Content"
  | 207 => some "Multi-Status"
  | 208 => some "Already Reported"
  | 226 => some "IM Used"
  | 300 => some "Multiple Choices"
  | 301 => some "Moved Permanently"
  | 302 => some "Found"
  | 303 => some "See Other"
  | 304 => some "Not Modified"
  | 305 => some "Use Proxy"
  | 307 => some "Temporary Redirect"
  | 308 => some "Permanent Redirect"
  | 400 => some "Bad Request"
  | 401 => some "Unauthorized"
  | 402 => some "Payment Required"
  | 403 => some "Forbidden"
  | 404 => some "Not Found"
  | 405 => some "Method Not Allowed"
  | 406 => some "Not Acceptable"
  | 407 => some "Proxy Authentication Required"
  | 408 => some "Request Timeout"
  | 409 => some "Conflict"
  | 410 => some "Gone"
  | 411 => some "Length Required"
  | 412 => some "Precondition Failed"
  | 413 => some "Payload Too Large"
  | 414 => some "URI Too Long"
  | 415 => some "Unsupported Media Type"
  | 416 => some "Range Not Satisfiable"
  | 417 => some "Expectation Failed"
  | 418 => some "I'm a teapot"
  | 421 => some "Misdirected Request"
  | 422 => some "Unprocessable Entity"
  | 423 => some "Locked"
  | 424 => some "Failed Dependency"
  | 425 => some "Too Early"
  | 426 => some "Upgrade Required"
  | 428 => some "Precondition Required"
  | 429 => some "Too Many Requests"
  | 431 => some "Request Header Fields Too Large"
  | 451 => some "Unavailable For Legal Reasons"
  | 500 => some "Internal Server Error"
  | 501 => some "Not Implemented"
  | 502 => some "Bad Gateway"
  | 503 => some "Service Unavailable"
  | 504 => some "Gateway Timeout"
  | 505 => some "HTTP Version Not Supported"
  | 506 => some "Variant Also Negotiates"
  | 507 => some "Insufficient Storage"
  | 508 => some "Loop Detected"
  | 510 => some "Not Extended"
  | 511 => some "Network Authentication Required"
  | _ => none

/-- A status with its name. -/
def statusText (status : UInt16) : String :=
  toString status.toNat ++ " " ++ (reason? status).getD "<unknown status code>"

/-- What can stand in a header. -/
def isHeaderValue (s : String) : Bool := s.toList.all fun c => c = '\t' || (' ' ≤ c && c ≠ '\x7f')

/-- What a path can hold as it is. -/
def isPathByte (b : UInt8) : Bool :=
  b = 0x21 || b = 0x22 || (0x24 ≤ b && b ≤ 0x3B) || b = 0x3D || (0x40 ≤ b && b ≤ 0x5F) || 0x61 ≤ b

/-- What a query can hold as it is. -/
def isQueryByte (b : UInt8) : Bool :=
  b = 0x21 || (0x24 ≤ b && b ≤ 0x3B) || b = 0x3D || 0x3F ≤ b

/-- The most bytes of a target. -/
def longestTarget : Nat := 65534

/-- The path of a target that starts with one, without query and fragment. -/
def path? (target : String) : Option String :=
  let path := target.toList.takeWhile fun c => c ≠ '?' && c ≠ '#'
  let query :=
    match target.toList.drop path.length with
    | '?' :: cs => cs.takeWhile (· ≠ '#')
    | _ => []
  if target.utf8ByteSize ≤ longestTarget && (String.ofList path).toUTF8.data.all isPathByte &&
      (String.ofList query).toUTF8.data.all isQueryByte then
    some (String.ofList path)
  else none

end ClusterOperator.Http
