import TileScope.Service.Store
import TileScope.Url.Reader

/-!
# Asking a tile service

A client asks for an address and follows up to ten redirects. What it gets is the whole body of a
success, or the reason why there is none. A name and password in the address are not asked for: they
go with the request.
-/

namespace TileScope.Service

/-- What a service answers. -/
structure Response where
  status : Nat
  /-- Where the answer has gone to. -/
  location : Option String := none
  body : ByteArray := .empty
  /-- The body came whole. -/
  isWhole : Bool := true

/-- What comes of a request, unless nothing listens there. -/
abbrev Transport := Url → Option Response

/-- The phrase that goes with a status. -/
def reason (status : Nat) : String :=
  match status with
  | 100 => "Continue"
  | 101 => "Switching Protocols"
  | 102 => "Processing"
  | 200 => "OK"
  | 201 => "Created"
  | 202 => "Accepted"
  | 203 => "Non Authoritative Information"
  | 204 => "No Content"
  | 205 => "Reset Content"
  | 206 => "Partial Content"
  | 207 => "Multi-Status"
  | 208 => "Already Reported"
  | 226 => "IM Used"
  | 300 => "Multiple Choices"
  | 301 => "Moved Permanently"
  | 302 => "Found"
  | 303 => "See Other"
  | 304 => "Not Modified"
  | 305 => "Use Proxy"
  | 307 => "Temporary Redirect"
  | 308 => "Permanent Redirect"
  | 400 => "Bad Request"
  | 401 => "Unauthorized"
  | 402 => "Payment Required"
  | 403 => "Forbidden"
  | 404 => "Not Found"
  | 405 => "Method Not Allowed"
  | 406 => "Not Acceptable"
  | 407 => "Proxy Authentication Required"
  | 408 => "Request Timeout"
  | 409 => "Conflict"
  | 410 => "Gone"
  | 411 => "Length Required"
  | 412 => "Precondition Failed"
  | 413 => "Payload Too Large"
  | 414 => "URI Too Long"
  | 415 => "Unsupported Media Type"
  | 416 => "Range Not Satisfiable"
  | 417 => "Expectation Failed"
  | 418 => "I'm a teapot"
  | 421 => "Misdirected Request"
  | 422 => "Unprocessable Entity"
  | 423 => "Locked"
  | 424 => "Failed Dependency"
  | 425 => "Too Early"
  | 426 => "Upgrade Required"
  | 428 => "Precondition Required"
  | 429 => "Too Many Requests"
  | 431 => "Request Header Fields Too Large"
  | 451 => "Unavailable For Legal Reasons"
  | 500 => "Internal Server Error"
  | 501 => "Not Implemented"
  | 502 => "Bad Gateway"
  | 503 => "Service Unavailable"
  | 504 => "Gateway Timeout"
  | 505 => "HTTP Version Not Supported"
  | 506 => "Variant Also Negotiates"
  | 507 => "Insufficient Storage"
  | 508 => "Loop Detected"
  | 510 => "Not Extended"
  | 511 => "Network Authentication Required"
  | _ => "<unknown status code>"

/-- Why there is no answer from a service. -/
inductive FetchFault where
  /-- The text is no address. -/
  | address
  /-- The address is not one to ask. -/
  | scheme (url : Url)
  /-- Nothing listens there. -/
  | unreachable (url : Url)
  /-- One redirect too many. -/
  | redirects (url : Url)
  /-- The answer is not a success. -/
  | status (status : Nat) (address : String)
  /-- The body breaks off. -/
  | body

/-- The wording of a fault. -/
def FetchFault.message : FetchFault → String
  | address => "Request failed: builder error"
  | scheme u => s!"Request failed: builder error for url ({u})"
  | unreachable u => s!"Request failed: error sending request for url ({u})"
  | redirects u => s!"Request failed: error following redirect for url ({u})"
  | status n place => s!"HTTP {n} {reason n} from {place}"
  | body => "Failed to read response: error decoding response body"

/-- The statuses that send elsewhere. -/
def isRedirect (status : Nat) : Bool := status ∈ [301, 302, 303, 307, 308]

/-- The longest address that can be asked, in bytes. -/
def longest : Nat := 65534

/-- A character that a host may have but a request cannot send. -/
def isUnsendable (c : Char) : Bool := c ∈ ['"', '\x60', '\x7b', '\x7d']

/-- The address can be asked. -/
def canAsk (u : Url) : Bool :=
  (u.scheme = "http" || u.scheme = "https")
    && u.host?.any (fun host => !host.render.toList.any isUnsendable)
    && u.render.utf8ByteSize ≤ longest

/-- The login goes with a request: its name is text, and the name or the password is there and
text. -/
def isSent (l : Url.Login) : Bool :=
  (Text.Percent.text? l.user).any fun user =>
    user ≠ "" || (l.password ≠ "" && (Text.Percent.text? l.password).isSome)

/-- The address to ask for: a login that goes with the request is taken away. -/
def asked (u : Url) : Url :=
  { u with authority := u.authority.map fun a => { a with login := a.login.filter (!isSent ·) } }

/-- The response to a request, after at most `hops` redirects. -/
def ask (transport : Transport) (u : Url) : (hops : Nat) → Except FetchFault Response
  | 0 => .error (.redirects u)
  | hops + 1 =>
    if canAsk u then
      match transport u with
      | none => .error (.unreachable u)
      | some r =>
        match r.location.bind u.follow? with
        | some next => if isRedirect r.status then ask transport next hops else .ok r
        | none => .ok r
    else .error (.scheme u)

/-- Gets what is under an address. -/
def fetch (transport : Transport) (address : String) : Except FetchFault ByteArray :=
  match Url.parse? address with
  | none => .error .address
  | some u => do
    if u.host?.isNone then throw (.scheme u)
    let r ← ask transport (asked u) 11
    if r.status < 200 ∨ 300 ≤ r.status then throw (.status r.status address)
    else if r.isWhole then return r.body
    else throw .body

/-- A client on a transport. -/
def client (transport : Transport) : Client := fun address =>
  (fetch transport address).mapError fun e => .fetch e.message

end TileScope.Service
