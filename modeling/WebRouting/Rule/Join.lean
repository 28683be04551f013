import WebRouting.Text.Split

/-! # Joined rules

Two rules one after the other with exactly one slash at the seam. -/

namespace WebRouting.Rule

/-- Whether the character is a slash. -/
def isSlash (c : Char) : Bool := c = '/'

/-- The first rule followed by the second. An empty rule leaves the other one as it is; else the slashes
on both sides of the seam become one. -/
def join (first second : String) : String :=
  if first = "" then second
  else if second = "" then first
  else
    String.ofList
      (Text.dropEndWhile isSlash first.toList ++ '/' :: second.toList.dropWhile isSlash)

end WebRouting.Rule
