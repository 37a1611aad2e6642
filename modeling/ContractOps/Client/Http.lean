import ContractOps.Client.Body

/-!
# Responses

What a node answers to a request: a status and octets. Every status but those from 200 to 299
counts as a failure of the request where it is checked (`Response.check`), and bodies are read as
JSON.
-/

namespace ContractOps

/-- The answer to a request. -/
structure Response where
  status : Int
  body : Bytes

namespace Response

/-- The reason phrase of a status. Unknown ones have none. -/
def reason (status : Int) : String :=
  match status with
  | 100 => "Continue"
  | 101 => "Switching Protocols"
  | 102 => "Processing"
  | 103 => "Early Hints"
  | 200 => "OK"
  | 201 => "Created"
  | 202 => "Accepted"
  | 203 => "Non-Authoritative Information"
  | 204 => "No Content"
  | 205 => "Reset Content"
  | 206 => "Partial Content"
  | 207 => "Multi-Status"
  | 208 => "Already Reported"
  | 226 => "IM Used"
  | 300 => "Multiple Choices"
  | 301 => "Moved Permanently"
  | 302 => "Found"
  | 303 => "See Other"
  | 304 => "Not Modified"
  | 305 => "Use Proxy"
  | 307 => "Temporary Redirect"
  | 308 => "Permanent Redirect"
  | 400 => "Bad Request"
  | 401 => "Unauthorized"
  | 402 => "Payment Required"
  | 403 => "Forbidden"
  | 404 => "Not Found"
  | 405 => "Method Not Allowed"
  | 406 => "Not Acceptable"
  | 407 => "Proxy Authentication Required"
  | 408 => "Request Timeout"
  | 409 => "Conflict"
  | 410 => "Gone"
  | 411 => "Length Required"
  | 412 => "Precondition Failed"
  | 413 => "Request Entity Too Large"
  | 414 => "Request-URI Too Long"
  | 415 => "Unsupported Media Type"
  | 416 => "Requested Range Not Satisfiable"
  | 417 => "Expectation Failed"
  | 418 => "I'm a teapot"
  | 421 => "Misdirected Request"
  | 422 => "Unprocessable Entity"
  | 423 => "Locked"
  | 424 => "Failed Dependency"
  | 425 => "Too Early"
  | 426 => "Upgrade Required"
  | 428 => "Precondition Required"
  | 429 => "Too Many Requests"
  | 431 => "Request Header Fields Too Large"
  | 451 => "Unavailable For Legal Reasons"
  | 500 => "Internal Server Error"
  | 501 => "Not Implemented"
  | 502 => "Bad Gateway"
  | 503 => "Service Unavailable"
  | 504 => "Gateway Timeout"
  | 505 => "HTTP Version Not Supported"
  | 506 => "Variant Also Negotiates"
  | 507 => "Insufficient Storage"
  | 508 => "Loop Detected"
  | 510 => "Not Extended"
  | 511 => "Network Authentication Required"
  | _ => ""

/-- The kind of failure that a status shows. -/
def failureKind (status : Int) : String :=
  if status / 100 = 1 then "Informational response"
  else if status / 100 = 3 then "Redirect response"
  else if status / 100 = 4 then "Client error"
  else if status / 100 = 5 then "Server error"
  else "Invalid status code"

/-- Where the meaning of a status is explained. -/
def explanation (code : String) : String :=
  "https://developer.mozilla.org/en-US/docs/Web/HTTP/Status/" ++ code

/-- The wording of a status that is a failure. -/
def statusText (status : Int) (url : WideText) : WideText :=
  let code := Digits.text status
  s!"{failureKind status} '{code} {reason status}' for url '" ++ url ++
    "'\nFor more information check: " ++ explanation code

/-- A recorded response: its status, which is 200 unless it says otherwise, and its text. -/
def ofJson (v : Json) : Except Fault Response := do
  let status ← (← v.getD "status" (.int 200)).toInt
  match ← v.getD "text" (.str "") with
  | .str text => return { status, body := Utf8.ofString text.shown }
  | _ => throw (.type .mismatch)

/-- Fails if the status is no success. -/
def check (r : Response) (url : Url) : Except Fault Unit :=
  if 200 ≤ r.status ∧ r.status ≤ 299 then .ok ()
  else .error (.transport "HTTPStatusError" (statusText r.status url.text))

/-- The body as JSON. -/
def json (r : Response) : Except Fault Json := Body.json r.body

end Response

end ContractOps
