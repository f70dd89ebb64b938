import Excerpt.Page.Node

/-!
# Nodes as markup

Attributes are written in the order of their names, a list value with blanks between its words. An element that is
always empty is closed in its own tag. Texts in scripts and styles are not escaped.
-/

namespace Excerpt.Node

/-- Elements that are closed in their own tag when they have no children. -/
def voidTags : List String :=
  ["area", "base", "br", "col", "embed", "hr", "img", "input", "keygen", "link", "menuitem", "meta", "param", "source",
    "track", "wbr", "basefont", "bgsound", "command", "frame", "image", "isindex", "nextid", "spacer"]

/-- Elements whose texts are not escaped. -/
def isRawTag (tag : String) : Bool :=
  tag == "script" || tag == "style"

/-- One character of a text or an attribute. -/
def escapeMarkup : Char → Text
  | '&' => "&amp;".toList
  | '<' => "&lt;".toList
  | '>' => "&gt;".toList
  | c => [c]

/-- A value between quotes: double ones, or single ones if it holds a double one and no single one. -/
def quotedValue (t : Text) : Text :=
  if t.contains '"' then
    if t.contains '\'' then '"' :: Text.replaceChar '"' "&quot;".toList t ++ ['"'] else '\'' :: t ++ ['\'']
  else '"' :: t ++ ['"']

/-- An attribute with the blank before it. -/
def attrMarkup (a : String × AttrValue) : Text :=
  ' ' :: a.1.toList ++ '=' :: quotedValue (a.2.text.flatMap escapeMarkup)

/-- The attributes in the order of their names. -/
def sortedAttrs (as : Attrs) : Attrs :=
  as.mergeSort fun a b => !(b.1 < a.1)

/-- The start of a tag with its attributes, without the end. -/
def openTag (tag : String) (as : Attrs) : Text :=
  '<' :: tag.toList ++ (sortedAttrs as).flatMap attrMarkup

mutual

/-- A node as markup; `raw` says that texts are not escaped. -/
def markup (raw : Bool) : Node → Text
  | .text _ s => if raw then s else s.flatMap escapeMarkup
  | .comment s => "<!--".toList ++ s ++ "-->".toList
  | .instruction s => "<?".toList ++ s ++ ['>']
  | .doctype s => "<!DOCTYPE ".toList ++ s ++ ">\n".toList
  | .element tag as ns =>
    if ns.isEmpty && voidTags.contains tag then openTag tag as ++ "/>".toList
    else openTag tag as ++ '>' :: markupIn (isRawTag tag) ns ++ '<' :: '/' :: tag.toList ++ ['>']

/-- Several nodes as markup. -/
def markupIn (raw : Bool) : List Node → Text
  | [] => []
  | n :: ns => n.markup raw ++ markupIn raw ns

end

/-- The children of a node as markup, trimmed. -/
def innerMarkup : Node → Text
  | .element tag _ ns => Text.trim (markupIn (isRawTag tag) ns)
  | _ => []

end Excerpt.Node
