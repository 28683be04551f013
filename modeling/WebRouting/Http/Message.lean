import WebRouting.Json.Basic
import WebRouting.Url.Target

/-! # Requests and responses

What arrives and what is sent back, as far as answering depends on it. `Request.make?` refuses what
cannot be sent at all: a bad method, target or header. -/

namespace WebRouting

/-! ## Tokens -/

/-- A character of tokens, which methods and names of headers are. -/
def isTokenChar (c : Char) : Bool :=
  c.isAlphanum ||
    c ∈ ['!', '#', '$', '%', '&', '\'', '*', '+', '-', '.', '^', '_', '\x60', '|', '~']

/-- Whether the text is a token. -/
def isToken (text : String) : Bool := text ≠ "" && text.toList.all isTokenChar

/-! ## Headers -/

/-- A character that may stand in the value of a header. -/
def isHeaderChar (c : Char) : Bool := c = '\t' || (' ' ≤ c && c ≠ '\x7F')

/-- A character of header values that are readable as text. -/
def isVisible (c : Char) : Bool := c = '\t' || (' ' ≤ c && c < '\x7F')

/-- The greatest length of the name of a header. -/
def headerNameLimit : Nat := 65535

/-- Headers in order of arrival. Their names are in lower case. -/
structure Headers where
  /-- Names and values. -/
  entries : List (String × String) := []

namespace Headers

/-- A header whose name and value are well-formed. -/
def entry? (name value : String) : Option (String × String) :=
  if isToken name ∧ name.length ≤ headerNameLimit ∧ value.toList.all isHeaderChar then
    some (name.map Char.toLower, value)
  else none

/-- The headers of a list, if all are well-formed. -/
def make? (headers : List (String × String)) : Option Headers :=
  (headers.mapM fun (name, value) => entry? name value).map Headers.mk

/-- All values of a header in order. -/
def all (h : Headers) (name : String) : List String :=
  (h.entries.filter (·.1 = name.map Char.toLower)).map Prod.snd

/-- The first value of a header, unless it is not readable as text. -/
def text? (h : Headers) (name : String) : Option String :=
  (h.all name).head?.filter (·.toList.all isVisible)

end Headers

/-! ## Messages -/

/-- A request as it arrives. -/
structure Request where
  /-- The method, a token. -/
  method : String
  /-- What is asked for. -/
  target : Url.Target
  /-- The headers. -/
  headers : Headers
  /-- The body. -/
  body : ByteArray

/-- A request made of its parts, if they are well-formed. -/
def Request.make? (method target : String) (headers : List (String × String)) (body : ByteArray) :
    Option Request := do
  let target ← Url.Target.read? target
  let headers ← Headers.make? headers
  if isToken method then return { method, target, headers, body } else none

/-- A response. -/
structure Response where
  /-- The status code. -/
  status : Nat
  /-- The methods that are allowed, if the method was not. -/
  allow : Option String := none
  /-- The media type of the body. -/
  contentType : Option String
  /-- The body. -/
  body : String
deriving DecidableEq

namespace Response

/-- A text with a status. -/
def text (body : String) (status : Nat) : Response :=
  { status, contentType := some "text/plain; charset=utf-8", body }

/-- A text that answers a request. -/
def ok (body : String) : Response := text body 200

/-- A JSON value that answers a request. -/
def json (body : Json) : Response :=
  { status := 200, contentType := some "application/json", body := body.text }

/-- The answer to a method that is not allowed, with the methods that are. -/
def methodNotAllowed (allowed : List String) : Response :=
  { text "Method Not Allowed" 405 with allow := some (", ".intercalate allowed) }

end Response

end WebRouting
