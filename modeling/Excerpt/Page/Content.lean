import Excerpt.Page.Node
import Excerpt.Text.Case
import Excerpt.Regex.Parser

/-!
# What is read from an element

The texts of an element come in three forms: the running text of everything below it, the text of its own children, and
the text of a block, where `br` elements break lines. Further, this module reads `meta` elements and background images.
-/

namespace Excerpt.Node

/-! ## Texts -/

mutual

/-- The texts of a kind in a node and below it, in document order. -/
def textsOf (kind : TextKind) : Node → Text
  | .text k s => if k = kind then s else []
  | .element _ _ ns => textsOfIn kind ns
  | _ => []

/-- The texts of a kind in several nodes. -/
def textsOfIn (kind : TextKind) : List Node → Text
  | [] => []
  | n :: ns => n.textsOf kind ++ textsOfIn kind ns

end

/-- The kind of text that a node shows: plain text, or the kind that its tag settles. -/
def shownKind : Node → TextKind
  | .element tag _ _ => (TextKind.ofTag? tag).getD .plain
  | _ => .plain

/-- The text of a node and of everything below it, white space collapsed. -/
def innerText (n : Node) : Text :=
  Text.collapse (n.textsOf n.shownKind)

/-- The text of a node's own children, white space collapsed. -/
def ownText (n : Node) : Text :=
  Text.collapse (Text.join [' '] (n.children.filterMap visible?))

mutual

/-- The text of a node as part of a block: a `br` element is a line break, comments are left out. -/
def blockPart : Node → Text
  | .text _ s | .instruction s | .doctype s => s
  | .comment _ => []
  | .element tag _ ns => (if tag = "br" then ['\n'] else []) ++ blockParts ns

/-- The text of several nodes as part of a block. -/
def blockParts : List Node → Text
  | [] => []
  | n :: ns => n.blockPart ++ blockParts ns

end

/-- The text of a block; a node that is no element is its content. -/
def blockText : Node → Text
  | .element _ _ ns => blockParts ns
  | .text _ s | .comment s | .instruction s | .doctype s => s

/-! ## Meta elements -/

/-- The attributes that name the key of a `meta` element. -/
def metaKeys : List String :=
  ["property", "name", "itemprop"]

/-- The value of the last attribute whose name in lower case is the given one. -/
def lowerAttr? (n : Node) (name : String) : Option AttrValue :=
  (n.attrs.reverse.find? fun a => lowerName a.1 == name).map (·.2)

/-- Whether one of the key attributes of a `meta` element is the key, without regard to case. -/
def hasMetaKey (key : Text) (n : Node) : Bool :=
  metaKeys.any fun name =>
    match n.lowerAttr? name with
    | some v => !v.isEmpty && Text.toLower v.text == Text.toLower key
    | none => false

/-- The trimmed content of the first `meta` element below the document with the key and a content that is not empty. -/
def metaContent? (document : Node) (key : Text) : Option Text :=
  document.descendants.findSome? fun n =>
    if n.hasTag "meta" && n.hasMetaKey key then
      match n.attr? "content" with
      | some v => if v.isEmpty then none else some (Text.trim v.text)
      | none => none
    else none

/-! ## Background images -/

/-- The form of a background image in a style. -/
def backgroundPattern? : Option Pattern :=
  Pattern.parse? "(?i)background(?:-image)?\\s*:[^;]*?url\\(\\s*(.+?)\\s*\\)".toList

/-- The address of the background image in the style of an element, without quotes. -/
def backgroundImage? (n : Node) : Option Text := do
  let style := Text.trim ((n.attr? "style").map (·.text) |>.getD [])
  let pattern ← backgroundPattern?
  let found ← pattern.find? style
  return Text.trimBy (fun c => c == '"' || c == '\'' || c == ' ') (found.group 1)

end Excerpt.Node
