import Excerpt.Page.Place
import Excerpt.Page.Token
import Excerpt.Text.Utf8

/-!
# Pages from markup

A page is built from its tokens with the list of the elements that are open. A text of white space alone is kept as one
line break or blank, except where white space matters. Markup that does not begin with an `html` element is put into the
body of one.
-/

namespace Excerpt

/-- An element that has been opened, with its children so far, the last one first. -/
structure Opened where
  tag : String
  attrs : List (String × Text)
  children : List Node

namespace Opened

/-- The element once it is closed. -/
def close (o : Opened) : Node :=
  .ofTree o.tag o.attrs o.children.reverse

/-- The element with one more child. -/
def add (n : Node) (o : Opened) : Opened :=
  { o with children := n :: o.children }

end Opened

/-- A tree under construction: the open elements, the innermost first, and the nodes outside them, the last
one first. -/
structure Growth where
  opened : List Opened
  done : List Node

namespace Growth

/-- Elements that have no children. -/
def emptyTags : List String :=
  ["area", "base", "basefont", "br", "col", "frame", "hr", "img", "input", "isindex", "link", "meta", "param"]

/-- Elements in which white space matters. -/
def isPreserving (tag : String) : Bool :=
  tag == "pre" || tag == "textarea"

/-- Elements that end an open paragraph where they begin. -/
def endsParagraph (tag : String) : Bool :=
  ["address", "blockquote", "center", "dd", "dir", "div", "dl", "dt", "h1", "h2", "h3", "h4", "h5", "h6", "hr", "li",
    "listing", "menu", "ol", "p", "pre", "table", "tbody", "td", "tfoot", "th", "tr", "ul", "xmp"].contains tag

/-- The tree with one more node in the innermost open element. -/
def add (n : Node) (g : Growth) : Growth :=
  match g.opened with
  | [] => { g with done := n :: g.done }
  | o :: os => { g with opened := o.add n :: os }

/-- The tree with the innermost open element closed. -/
def closeOne (g : Growth) : Growth :=
  match g.opened with
  | [] => g
  | o :: os => add o.close { g with opened := os }

/-- The tree with several open elements closed. -/
def closeMany : Nat → Growth → Growth
  | 0, g => g
  | n + 1, g => closeMany n g.closeOne

/-- The tree with the innermost element of the tag closed, and those inside it; an end without a beginning is passed
over. -/
def closeTag (tag : String) (g : Growth) : Growth :=
  match g.opened.findIdx? (·.tag == tag) with
  | some i => g.closeMany (i + 1)
  | none => g

/-- The tree with an element opened. -/
def openTag (tag : String) (attrs : List (String × Text)) (closed : Bool) (g : Growth) : Growth :=
  let inParagraph := (g.opened.head?.map (·.tag == "p")).getD false
  let g := if inParagraph && endsParagraph tag then g.closeOne else g
  if closed || emptyTags.contains tag then g.add (.ofTree tag attrs [])
  else { g with opened := ⟨tag, attrs, []⟩ :: g.opened }

/-- A text in the tree: white space alone becomes one line break or blank, unless it matters. -/
def settled (g : Growth) (s : Text) : Text :=
  if s.all Token.isBlank && !g.opened.any (isPreserving ·.tag) then (if s.contains '\n' then ['\n'] else [' ']) else s

/-- The tree with one more token. -/
def step (g : Growth) : Token → Growth
  | .opens tag attrs closed => g.openTag tag attrs closed
  | .closes tag => g.closeTag tag
  | .text s => if s.isEmpty then g else g.add (.text .plain (g.settled s))
  | .comment s => g.add (.comment (g.settled s))
  | .instruction s => g.add (.instruction s)

/-- The nodes of a tree once every element is closed. -/
def finish (g : Growth) : List Node :=
  (g.closeMany g.opened.length).done.reverse

end Growth

namespace Node

/-- The nodes that tokens stand for. -/
def ofTokens (ts : List Token) : List Node :=
  (ts.foldl Growth.step ⟨[], []⟩).finish

/-- Markup as a whole page: unless it is empty or has an `html` element already, it is put into the body of one. -/
def wholePage (t : Text) : Text :=
  if t.isEmpty || Text.startsWith "<html".toList t then t
  else "<html><body>".toList ++ t ++ "</body></html>".toList

/-- The document that a markup text is. -/
def ofMarkup (t : Text) : Node :=
  (document (ofTokens (Token.scan (wholePage t)))).settle .plain

/-- The document that the bytes of a page are. -/
def ofBytes (bs : List UInt8) : Node :=
  ofMarkup (Utf8.decodeLenient bs)

/-- The body of a document, or the document itself if it has none. -/
def bodyOf (document : Node) : Node :=
  (document.descendants.find? (hasTag "body")).getD document

end Node

end Excerpt
