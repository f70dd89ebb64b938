import Excerpt.Page.Place
import Excerpt.Regex.Fold

/-!
# Elements as selectors see them

Names of tags and attributes are compared without regard to the case of ASCII letters, and values maybe without regard
to case. A value that is compared as a whole may have a line break at its very end.
-/

namespace Excerpt.Css

/-! ## Names and values -/

/-- A name with the capital letters of ASCII made small. -/
def smallName (s : String) : String :=
  String.ofList (s.toList.map Char.toLower)

/-- Characters that separate words in attributes. -/
def isBlank (c : Char) : Bool :=
  c == ' ' || c == '\t' || c == '\n' || c == '\r' || c == '\x0c'

/-- Whether two texts are equal, maybe but for case. -/
def sameText (ignoreCase : Bool) (a b : Text) : Bool :=
  a.length == b.length && (a.zip b).all fun (x, y) => if ignoreCase then CaseRule.unicode.same x y else x == y

/-- Whether a text starts with another, maybe but for case. -/
def startsWith (ignoreCase : Bool) (p t : Text) : Bool :=
  sameText ignoreCase p (t.take p.length)

/-- Whether a text ends with another, maybe but for case; a line break at the very end may follow. -/
def endsWith (ignoreCase : Bool) (p t : Text) : Bool :=
  let ends := fun t : Text => p.length ≤ t.length && sameText ignoreCase p (t.drop (t.length - p.length))
  ends t || (t.getLast? == some '\n' && ends t.dropLast)

/-- Whether a text holds another, maybe but for case. -/
def contains (ignoreCase : Bool) (p : Text) : Text → Bool
  | [] => p.isEmpty
  | c :: cs => startsWith ignoreCase p (c :: cs) || contains ignoreCase p cs

/-- The words between blanks. -/
def blankWords : Text → List Text
  | [] => [[]]
  | c :: cs =>
    if isBlank c then [] :: blankWords cs
    else
      match blankWords cs with
      | [] => [[c]]
      | w :: ws => (c :: w) :: ws

/-- Whether a text is another one, maybe but for case; a line break at the very end may follow. -/
def equals (ignoreCase : Bool) (p t : Text) : Bool :=
  sameText ignoreCase p t || sameText ignoreCase (p ++ ['\n']) t

/-! ## Elements -/

/-- The value of the first attribute whose name is the given small one but for case. -/
def attribute? (n : Node) (name : String) : Option AttrValue :=
  (n.attrs.find? fun a => smallName a.1 == name).map (·.2)

/-- The words of the class of an element. -/
def classes (n : Node) : List String :=
  match attribute? n "class" with
  | some (.many ws) => ws
  | some (.one s) => ((blankWords s.toList).filter fun w => !w.isEmpty).map String.ofList
  | none => []

/-- Whether the id of an element is the name. -/
def hasId (n : Node) (name : String) : Bool :=
  String.ofList (((attribute? n "id").map (·.text)).getD []) == name

/-- Whether an element has no child element and no text but blanks. -/
def isEmptyElement (n : Node) : Bool :=
  n.children.all fun
    | .text _ s => s.all isBlank
    | .element .. => false
    | _ => true

/-- Whether an element has the tag, but for the case of its letters. -/
def hasTag (n : Node) (name : String) : Bool :=
  match n.tag? with
  | some tag => smallName tag == smallName name
  | none => false

/-- The elements among places. -/
def onlyElements (ps : List Place) : List Place :=
  ps.filter (·.node.isElement)

end Excerpt.Css
