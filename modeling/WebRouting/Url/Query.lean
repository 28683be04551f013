import WebRouting.Text.Collection
import WebRouting.Text.Split
import WebRouting.Url.Percent

/-! # Query parameters

The part of a request target after the question mark: pairs `key=value` between ampersands, with a
plus sign for a space and percent escapes. Of two pairs with the same decoded key the later one
counts. -/

namespace WebRouting.Url

/-- A key or value: a plus sign stands for a space, then escapes are decoded. If the result is not
text, only the plus signs are replaced. -/
def decodeComponent (raw : List Char) : String :=
  let spaced := raw.map fun c => if c = '+' then ' ' else c
  (percentDecode? spaced).getD (String.ofList spaced)

/-- The raw key and value of a pair, split at the first equals sign; without one the value is empty. -/
def splitPair (pair : List Char) : List Char × List Char :=
  (Text.cut? '=' pair).getD (pair, [])

/-- The decoded pairs in order. Empty pieces between ampersands are no pairs. -/
def queryPairs (query : List Char) : List (String × String) :=
  ((Text.pieces '&' query).filter (· ≠ [])).map fun piece =>
    let (key, value) := splitPair piece
    (decodeComponent key, decodeComponent value)

/-- The parameters of a query, none if there is no query. -/
def parseQuery (query : Option String) : TextMap :=
  (queryPairs (query.getD "").toList).foldl (fun map (key, value) => map.insert key value) ∅

end WebRouting.Url
