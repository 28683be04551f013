import WebRouting.Http.Message
import WebRouting.Json.Reader
import WebRouting.Text.Inspect
import WebRouting.Unicode.Property
import WebRouting.Url.Path
import WebRouting.Url.Query

/-! # Request contexts

What a handler knows of the request that it answers: the decoded path, query and cookies, the headers
and the whole body. -/

namespace WebRouting

/-! ## Cookies -/

/-- The name and the value of a cookie. A piece without an equals sign is no cookie. -/
def cookie? (piece : List Char) : Option (String × String) :=
  (Text.cut? '=' (Text.trim Unicode.isBlank piece)).map fun (name, value) =>
    (String.ofList name, String.ofList value)

/-- The cookies of a header value, in order. A value that is not readable as text has none. -/
def cookiesOf (header : String) : List (String × String) :=
  let cs := header.toList
  if cs.all isVisible then (Text.pieces ';' cs).filterMap cookie? else []

/-- The cookies of several header values. Of two with the same name the later one counts. -/
def readCookies (headers : List String) : TextMap :=
  (headers.flatMap cookiesOf).foldl (fun map (name, value) => map.insert name value) ∅

/-! ## Contexts -/

/-- What a handler knows of a request. -/
structure Context where
  /-- The method. -/
  method : String
  /-- The decoded path. -/
  path : String
  /-- The parameters of the query. -/
  query : TextMap
  /-- The headers. -/
  headers : Headers
  /-- The cookies. -/
  cookies : TextMap
  /-- The body. -/
  body : ByteArray

namespace Context

/-- The context of a request. -/
def ofRequest (r : Request) : Context where
  method := r.method
  path := Url.decodePath r.target.path
  query := Url.parseQuery r.target.query
  headers := r.headers
  cookies := readCookies (r.headers.all "cookie")
  body := r.body

/-- The context of a request for a decoded path, without query, headers and body. A method that is no
token is taken for GET. -/
def forPath (method path : String) : Context where
  method := if isToken method then method else "GET"
  path
  query := ∅
  headers := {}
  cookies := ∅
  body := .empty

/-- Whether the client says that it accepts JSON. -/
def acceptsJson (c : Context) : Bool :=
  (c.headers.text? "accept").any fun accept => Text.hasInfix "json".toList accept.toList

/-- The body as text, if it is UTF-8. -/
def text? (c : Context) : Option String := String.fromUTF8? c.body

/-- The body as JSON, if it is that. -/
def json? (c : Context) : Option Json := Json.ofBytes? c.body

/-- The context as it is shown for inspection. -/
def inspect (c : Context) : String :=
  Inspect.record "RequestContext"
    [("method", c.method), ("path", Inspect.quoted c.path),
     ("body_len", Inspect.count c.body.size)] false

end Context

end WebRouting
