import WebRouting.Unicode.Age
import WebRouting.Unicode.Segment

/-! # Character classes

A class is kept as the expression that describes it: ranges and properties, combined by the operations
on sets and by closure under letter case. `CharClass.contains` decides membership. -/

namespace WebRouting

/-- A set of characters, as an expression. -/
inductive CharClass where
  /-- The characters from `first` to `last`. -/
  | range (first last : Char)
  /-- The characters with a property. -/
  | property (p : CharProperty)
  /-- The characters of either class. -/
  | union (a b : CharClass)
  /-- The characters of both classes. -/
  | inter (a b : CharClass)
  /-- The characters of the first class that are not in the second. -/
  | diff (a b : CharClass)
  /-- The characters of exactly one of the classes. -/
  | symmDiff (a b : CharClass)
  /-- The characters outside the class. -/
  | compl (a : CharClass)
  /-- The characters that differ from one of the class in case only. -/
  | anyCase (a : CharClass)
  /-- The characters of the class and the ASCII letters that differ from one in case only. -/
  | anyAsciiCase (a : CharClass)

namespace CharClass

/-- The other form of an ASCII letter; any other character stays. -/
def swapAsciiCase (c : Char) : Char := if c.isUpper then c.toLower else c.toUpper

/-- Membership in a class. -/
def contains : CharClass → Char → Bool
  | range first last, c => first ≤ c && c ≤ last
  | property p, c => p.contains c
  | union a b, c => a.contains c || b.contains c
  | inter a b, c => a.contains c && b.contains c
  | diff a b, c => a.contains c && !b.contains c
  | symmDiff a b, c => a.contains c != b.contains c
  | compl a, c => !a.contains c
  | anyCase a, c => a.contains c || (Unicode.caseVariants c).any a.contains
  | anyAsciiCase a, c => a.contains c || a.contains (swapAsciiCase c)

/-- The class of one character. -/
def single (c : Char) : CharClass := range c c

/-- The class without characters. -/
def empty : CharClass := range '\x01' '\x00'

/-- The union of a list of classes. -/
def unionAll (classes : List CharClass) : CharClass := classes.foldl union empty

/-- The class of the characters that a list of ranges covers. -/
def ofRanges (r : Ranges) : CharClass := property r

/-! ## Named classes -/

/-- Decimal digits, of every script or of ASCII only. -/
def digit (unicode : Bool) : CharClass :=
  if unicode then ofRanges Unicode.decimalNumber else range '0' '9'

/-- Blank characters, of every kind or of ASCII only. -/
def space (unicode : Bool) : CharClass :=
  if unicode then ofRanges Unicode.whiteSpace else union (range '\t' '\r') (single ' ')

/-- Characters of words, of every script or of ASCII only. -/
def word (unicode : Bool) : CharClass :=
  if unicode then ofRanges Unicode.wordCharacter
  else unionAll [range '0' '9', range 'A' 'Z', range 'a' 'z', single '_']

/-- The ASCII classes that a bracketed name stands for. -/
def posix : List (String × CharClass) :=
  let upper := range 'A' 'Z'
  let lower := range 'a' 'z'
  let digit := range '0' '9'
  [("alnum", unionAll [digit, upper, lower]), ("alpha", union upper lower),
   ("ascii", range '\x00' '\x7F'), ("blank", union (single '\t') (single ' ')),
   ("cntrl", union (range '\x00' '\x1F') (single '\x7F')), ("digit", digit),
   ("graph", range '!' '~'), ("lower", lower), ("print", range ' ' '~'),
   ("punct", unionAll [range '!' '/', range ':' '@', range '[' '\x60', range '\x7b' '~']),
   ("space", space false), ("upper", upper), ("word", word false),
   ("xdigit", unionAll [digit, range 'A' 'F', range 'a' 'f'])]

/-! ## Properties by name -/

/-- A name in the form in which names are compared: ASCII lower case, without blanks, underscores,
hyphens and characters beyond ASCII, and without a leading `is`. -/
def foldName (name : List Char) : String :=
  let folded (cs : List Char) : String :=
    String.ofList ((cs.filter fun c =>
      c ≠ ' ' && c ≠ '_' && c ≠ '-' && c.toNat < 128).map Char.toLower)
  match name with
  | i :: s :: rest =>
    if i.toLower = 'i' ∧ s.toLower = 's' then
      if folded rest = "c" then "isc" else folded rest
    else folded name
  | _ => folded name

/-- The property that a single name stands for: a property proper, a general category or a script. The
short names `cf`, `sc` and `lc` stand for categories. -/
def namedProperty? (name : List Char) : Option CharProperty :=
  let name := foldName name
  ((Unicode.propertyNames ++ Unicode.categoryNames).lookup name).or
    ((Unicode.script? name).map fun script => script.characters)

/-- The property that a name and a value stand for. A version stands for all characters that it has,
those of earlier versions among them. -/
def propertyWithValue? (name value : List Char) : Option CharProperty :=
  let value := foldName value
  match foldName name with
  | "gc" | "generalcategory" => Unicode.categoryNames.lookup value
  | "sc" | "script" => (Unicode.script? value).map fun script => script.characters
  | "scx" | "scriptextensions" => (Unicode.script? value).map Unicode.Script.extended
  | "age" => (Unicode.addedBy? value Unicode.versions).map fun ranges => ranges
  | "gcb" | "graphemeclusterbreak" => Unicode.graphemeBreaks.lookup value
  | "wb" | "wordbreak" => Unicode.wordBreaks.lookup value
  | "sb" | "sentencebreak" => Unicode.sentenceBreaks.lookup value
  | _ => none

@[simp] theorem contains_range (first last c : Char) :
    (range first last).contains c = (first ≤ c && c ≤ last) := rfl

@[simp] theorem contains_union (a b : CharClass) (c : Char) :
    (union a b).contains c = (a.contains c || b.contains c) := rfl

@[simp] theorem contains_compl (a : CharClass) (c : Char) :
    (compl a).contains c = !a.contains c := rfl

end CharClass

end WebRouting
