/-
Requests over HTTP.

A transport takes a request somewhere and brings back a response, or fails to.  What
it does is its own affair; here is only what both sides look like.
-/
import QuorumVault.Clock.Duration
import QuorumVault.Text.Utf16

namespace QuorumVault.Http

/-- What a request wants. -/
inductive Method where
  | get
  | post
  | delete
deriving DecidableEq, Repr

/-- A request. -/
structure Request where
  method : Method
  url : String
  /-- The value of the header that carries the scope of a round. -/
  messageId : Option String
  body : Option Bytes
deriving DecidableEq, Repr

/-- A response. -/
structure Response where
  status : Nat
  body : Bytes
deriving DecidableEq, Repr

/-- A transport whose inner state is of type `τ`. -/
structure Transport (τ : Type) where
  /-- What a request made at some time comes to: how long it takes, unless it never ends, and a
  response or a description of the failure. -/
  send : τ → Time → Request → Option Duration × Except String Response × τ

/-- A transport that reaches nobody. -/
def unreachable (failure : String) : Transport Unit where
  send _ _ _ := (some 0, .error failure, ())

/-- A value that a header can carry: no control characters but the tab. -/
def isHeaderValue (value : String) : Bool :=
  value.toList.all fun c => (32 ≤ c.toNat && c.toNat ≠ 127) || c == '\t'

/-- A response that says the request succeeded. -/
def Response.isSuccess (r : Response) : Bool :=
  200 ≤ r.status && r.status < 300

/-- The names of the statuses. -/
def reasons : List (Nat × String) :=
  [(100, "Continue"), (101, "Switching Protocols"), (102, "Processing"), (200, "OK"),
    (201, "Created"), (202, "Accepted"), (203, "Non Authoritative Information"),
    (204, "No Content"), (205, "Reset Content"), (206, "Partial Content"), (207, "Multi-Status"),
    (208, "Already Reported"), (226, "IM Used"), (300, "Multiple Choices"),
    (301, "Moved Permanently"), (302, "Found"), (303, "See Other"), (304, "Not Modified"),
    (305, "Use Proxy"), (307, "Temporary Redirect"), (308, "Permanent Redirect"),
    (400, "Bad Request"), (401, "Unauthorized"), (402, "Payment Required"), (403, "Forbidden"),
    (404, "Not Found"), (405, "Method Not Allowed"), (406, "Not Acceptable"),
    (407, "Proxy Authentication Required"), (408, "Request Timeout"), (409, "Conflict"),
    (410, "Gone"), (411, "Length Required"), (412, "Precondition Failed"),
    (413, "Payload Too Large"), (414, "URI Too Long"), (415, "Unsupported Media Type"),
    (416, "Range Not Satisfiable"), (417, "Expectation Failed"), (418, "I'm a teapot"),
    (421, "Misdirected Request"), (422, "Unprocessable Entity"), (423, "Locked"),
    (424, "Failed Dependency"), (425, "Too Early"), (426, "Upgrade Required"),
    (428, "Precondition Required"), (429, "Too Many Requests"),
    (431, "Request Header Fields Too Large"), (451, "Unavailable For Legal Reasons"),
    (500, "Internal Server Error"), (501, "Not Implemented"), (502, "Bad Gateway"),
    (503, "Service Unavailable"), (504, "Gateway Timeout"), (505, "HTTP Version Not Supported"),
    (506, "Variant Also Negotiates"), (507, "Insufficient Storage"), (508, "Loop Detected"),
    (510, "Not Extended"), (511, "Network Authentication Required")]

/-- A status as messages write it. -/
def statusText (status : Nat) : String :=
  toString status ++ " " ++ (reasons.lookup status).getD "<unknown status code>"

/-- The content of a response as text.  Some put a mark in front, which says how the text is written and
is no part of it; without one it is UTF-8. -/
def Response.text (r : Response) : String :=
  String.ofList (match r.body with
    | 0xEF :: 0xBB :: 0xBF :: rest => Utf8.decodeLossy rest
    | 0xFE :: 0xFF :: rest => Utf16.decodeBig rest
    | 0xFF :: 0xFE :: rest => Utf16.decodeLittle rest
    | body => Utf8.decodeLossy body)

end QuorumVault.Http
