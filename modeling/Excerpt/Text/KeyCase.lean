import Excerpt.Text.Case

/-!
# Spellings of keys

A key of a rule document may be written in camel, kebab or snake case. `snakeCase` and `kebabCase` give the two
spellings that the rules know.
-/

namespace Excerpt.Text

/-- Capital letters of ASCII. -/
def isCapital (c : Char) : Bool :=
  c.isUpper

/-- An underscore before the last of several capitals when a small letter of ASCII follows it. -/
def splitAcronyms (afterCapital : Bool) : Text → Text
  | [] => []
  | c :: cs =>
    let breaks := afterCapital && isCapital c && (cs.head?.map Char.isLower).getD false
    if breaks then '_' :: c :: splitAcronyms true cs else c :: splitAcronyms (isCapital c) cs

/-- An underscore between a small letter or digit and a capital. -/
def splitHumps : Text → Text
  | [] => []
  | c :: cs =>
    if (c.isLower || isDecimal c) && (cs.head?.map isCapital).getD false then c :: '_' :: splitHumps cs
    else c :: splitHumps cs

/-- The key in snake case. -/
def snakeCase (t : Text) : Text :=
  toLower (replaceChar '-' ['_'] (splitHumps (splitAcronyms false t)))

/-- The key in kebab case. -/
def kebabCase (t : Text) : Text :=
  replaceChar '_' ['-'] (snakeCase t)

end Excerpt.Text

namespace Excerpt

/-- The spelling of a key in snake case. -/
def snakeKey (s : String) : String :=
  String.ofList (Text.snakeCase s.toList)

end Excerpt
