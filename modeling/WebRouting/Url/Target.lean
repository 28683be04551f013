import WebRouting.Text.Split

/-! # Request targets

What a request asks for: a path with a query, the same after a scheme and an authority, an authority
alone, or an asterisk. Only the path and the query are kept. -/

namespace WebRouting.Url

/-- The path and the query of a request target. -/
structure Target where
  /-- The path, with its escapes. It is empty if the target is an authority alone. -/
  path : String
  /-- What follows the question mark, if there is one. -/
  query : Option String
deriving DecidableEq

/-! ## Path and query -/

/-- Whether a code point lies in one of the ranges. -/
def inRanges (ranges : List (Nat × Nat)) (c : Char) : Bool :=
  ranges.any fun (first, last) => first ≤ c.toNat && c.toNat ≤ last

/-- A character that may stand in a path. Beyond the characters meant for it, double quotes, braces and
all characters above ASCII are tolerated. -/
def isPathChar : Char → Bool :=
  inRanges [(0x21, 0x22), (0x24, 0x3B), (0x3D, 0x3D), (0x40, 0x5F), (0x61, 0x10FFFF)]

/-- A character that may stand in a query. -/
def isQueryChar : Char → Bool :=
  inRanges [(0x21, 0x21), (0x24, 0x3B), (0x3D, 0x3D), (0x3F, 0x10FFFF)]

/-- Reads a query up to the fragment, which is dropped unread. -/
def readQuery? (cs : List Char) : Option (List Char) :=
  let query := cs.takeWhile (· ≠ '#')
  if query.all isQueryChar then some query else none

/-- Reads a path and a query up to the fragment. -/
def readPathAndQuery? (cs : List Char) : Option (List Char × Option (List Char)) :=
  let path := cs.takeWhile fun c => c ≠ '?' && c ≠ '#'
  if path.all isPathChar then
    match cs.drop path.length with
    | '?' :: rest => (readQuery? rest).map fun query => (path, some query)
    | _ => some (path, none)
  else none

/-! ## Scheme -/

/-- A character that may stand in a scheme. -/
def isSchemeChar (c : Char) : Bool :=
  c.isAlphanum || c = '+' || c = '-' || c = '.' || c = '~'

/-- The greatest length of a scheme. -/
def schemeLimit : Nat := 64

/-- What follows a colon and two slashes at the start. -/
def afterSchemeMark? : List Char → Option (List Char)
  | ':' :: '/' :: '/' :: rest => some rest
  | _ => none

/-- Reads a scheme. The first component of the result tells whether there is one; the whole is `none`
if it is too long. -/
def readScheme? (cs : List Char) : Option (Bool × List Char) :=
  let scheme := cs.takeWhile isSchemeChar
  match afterSchemeMark? (cs.drop scheme.length) with
  | some rest =>
    if cs.length ≤ 3 then some (false, cs)
    else if schemeLimit < scheme.length then none
    else some (true, rest)
  | none => some (false, cs)

/-! ## Authority -/

/-- A character that may stand in an authority, a percent sign apart. -/
def isAuthorityChar (c : Char) : Bool :=
  c.isAlphanum ||
    c ∈ ['!', '$', '&', '\'', '(', ')', '*', '+', ',', '-', '.', ':', ';', '=', '@', '[', ']', '_', '~']

/-- A character that ends an authority. -/
def endsAuthority (c : Char) : Bool := c = '/' || c = '?' || c = '#'

/-- What has been seen of an authority. -/
structure AuthorityScan where
  /-- The colons since the last at sign or closing bracket. -/
  colons : Nat := 0
  /-- Whether a bracket has been opened. -/
  opened : Bool := false
  /-- Whether a bracket has been closed. -/
  closed : Bool := false
  /-- Whether there was a percent sign since the last at sign or closing bracket. -/
  percent : Bool := false
  /-- Whether the last character was an at sign. -/
  afterAt : Bool := false

/-- The greatest number of colons in a row of components. -/
def colonLimit : Nat := 8

namespace AuthorityScan

/-- Takes the next character. -/
def next? (s : AuthorityScan) (c : Char) : Option AuthorityScan :=
  let s := { s with afterAt := false }
  if c = ':' then if colonLimit ≤ s.colons then none else some { s with colons := s.colons + 1 }
  else if c = '[' then if s.percent || s.opened then none else some { s with opened := true }
  else if c = ']' then
    if !s.opened || s.closed then none
    else some { s with closed := true, colons := 0, percent := false }
  else if c = '@' then some { s with colons := 0, percent := false, afterAt := true }
  else if c = '%' then some { s with percent := true }
  else if isAuthorityChar c then some s
  else none

/-- Whether an authority may end here: brackets are paired, at most one colon is left for a port,
something follows an at sign, and escapes stand before an at sign or in brackets only. -/
def accepts (s : AuthorityScan) : Bool :=
  s.opened == s.closed && s.colons ≤ 1 && !s.afterAt && !s.percent

end AuthorityScan

/-- Whether the characters are an authority. -/
def isAuthority (cs : List Char) : Bool :=
  (cs.foldlM AuthorityScan.next? {}).any AuthorityScan.accepts

/-! ## Targets -/

/-- The target with a path and a query. -/
def Target.ofParts (path : List Char) (query : Option (List Char)) : Target :=
  ⟨String.ofList path, query.map String.ofList⟩

/-- The greatest length of a target in bytes. -/
def targetLimit : Nat := 65534

/-- Reads a target that starts with a scheme or an authority. After a scheme an empty path is the
root. -/
def readFull? (cs : List Char) : Option Target := do
  let (hasScheme, rest) ← readScheme? cs
  let authority := rest.takeWhile (!endsAuthority ·)
  if !isAuthority authority then none
  else if !hasScheme then
    if authority.length = rest.length then some (.ofParts [] none) else none
  else if authority = [] then none
  else
    let (path, query) ← readPathAndQuery? (rest.drop authority.length)
    return .ofParts (if path = [] then ['/'] else path) query

/-- Reads a request target. -/
def Target.read? (text : String) : Option Target :=
  if targetLimit < text.utf8ByteSize then none
  else
    match text.toList with
    | [] => none
    | ['*'] => some (.ofParts ['*'] none)
    | cs@('/' :: _) => (readPathAndQuery? cs).map fun (path, query) => .ofParts path query
    | cs => readFull? cs

end WebRouting.Url
