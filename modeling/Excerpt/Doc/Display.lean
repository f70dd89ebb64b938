import Excerpt.Doc.Json
import Excerpt.Number.Shortest

/-!
# Documents as plain text

The text that a property value puts into a template: a string as it stands, any other value in its written form, with
the strings inside it quoted.
-/

namespace Excerpt.Doc

/-- A scalar in its written form. -/
def writtenScalar : Scalar → Text
  | .null => "None".toList
  | .bool true => "True".toList
  | .bool false => "False".toList
  | .int n => Json.renderInt n
  | .decimal d => Number.text d
  | .infinity false => "inf".toList
  | .infinity true => "-inf".toList
  | .notANumber => "nan".toList
  | .str s => Text.quoted s.toList
  | .date s | .stamp s => s.toList
  | .bytes _ => []

mutual

/-- A document in its written form. -/
def written : Doc → Text
  | .scalar s => writtenScalar s
  | .list [] => ['[', ']']
  | .list (d :: ds) => '[' :: written d ++ writtenItems ds
  | .map [] => ['\x7b', '\x7d']
  | .map ((k, d) :: es) => '\x7b' :: writtenScalar k ++ ": ".toList ++ written d ++ writtenEntries es

/-- The items after the first, and the end of the list. -/
def writtenItems : List Doc → Text
  | [] => [']']
  | d :: ds => ", ".toList ++ written d ++ writtenItems ds

/-- The entries after the first, and the end of the mapping. -/
def writtenEntries : List (Scalar × Doc) → Text
  | [] => ['\x7d']
  | (k, d) :: es => ", ".toList ++ writtenScalar k ++ ": ".toList ++ written d ++ writtenEntries es

end

/-- A document as plain text. -/
def display : Doc → Text
  | .scalar (.str s) => s.toList
  | d => written d

end Excerpt.Doc
