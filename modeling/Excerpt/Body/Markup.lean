import Excerpt.Body.Block
import Excerpt.Rule.Filter

/-!
# A body as simplified markup

Each block is written on a line of its own; list items are put between the lines that open and close their list. A block
that a filter skips is left out, and one that stops the body ends it.
-/

namespace Excerpt.Body

/-- An element with a text. -/
def element (tag : String) (text : Text) : Text :=
  '<' :: tag.toList ++ ['>'] ++ text ++ '<' :: '/' :: tag.toList ++ ['>']

/-- The line for a block that is no list item. -/
def blockLine (b : Block) : Text :=
  if b.strong then element "strong" b.text
  else if b.kind == .title then element b.tag b.text
  else element "p" b.text

/-- The line that opens a list. -/
def openLine (tag : String) : Text :=
  "<p><".toList ++ tag.toList ++ ['>']

/-- The line that closes a list, if one is open. -/
def closeLines : Option String → List Text
  | some tag => ["</".toList ++ tag.toList ++ "></p>".toList]
  | none => []

/-- The tag of the list that a list item opens, if none is open yet. -/
def opens? (current : Option String) (b : Block) : Option String :=
  if current.isSome then none else b.listTag.bind fun tag => if tag == "" then none else some tag

/-- The lines for blocks, `current` being the tag of the list that is open. -/
def linesFrom (filters : List Filter) (current : Option String) : List Block → List Text
  | [] => closeLines current
  | b :: bs =>
    match Filter.applyAll filters b.text .body with
    | .skip => linesFrom filters current bs
    | .stop => closeLines current
    | .none =>
      if b.kind == .list then
        let opened := opens? current b
        (opened.map openLine).toList ++ ('<' :: b.tag.toList ++ '>' :: b.text) ::
          linesFrom filters (opened.or current) bs
      else closeLines current ++ blockLine b :: linesFrom filters none bs

/-- The blocks as simplified markup. -/
def render (filters : List Filter) (bs : List Block) : Text :=
  Text.join ['\n'] (linesFrom filters none bs)

end Excerpt.Body
