import Excerpt.Body.Cleanup
import Excerpt.Text.Quoted

/-!
# Blocks of a body

A block is one paragraph, heading, list item or other piece of a body, with the tag that it came from. A text in front
of which a line break stands begins with `<br>`.
-/

namespace Excerpt.Body

/-- The mark of a line break. -/
def lineBreak : Text :=
  "<br>".toList

/-- What a block is. -/
inductive BlockKind where
  | text
  | title
  | quote
  | preformatted
  | list
  | table
  | figure
  | frame
  | timestamp
deriving DecidableEq, Repr

/-- The name of a kind of block. -/
def BlockKind.name : BlockKind → String
  | .text => "text"
  | .title => "title"
  | .quote => "quote"
  | .preformatted => "pre"
  | .list => "list"
  | .table => "table"
  | .figure => "figure"
  | .frame => "iframe"
  | .timestamp => "timestamp"

/-- How a block stands among its neighbours. -/
inductive Display where
  | inline
  | inlineBlock
  | block
deriving DecidableEq, Repr

/-- The name of a display. -/
def Display.name : Display → String
  | .inline => "inline"
  | .inlineBlock => "inline-block"
  | .block => "block"

/-! ## Tags -/

/-- The tag of a text that stands by itself. -/
def textTag : String :=
  "#text"

/-- Headings: `h1` to `h6`; a line break at the end is passed over. -/
def isHeading (tag : String) : Bool :=
  match tag.toList with
  | ['h', d] | ['h', d, '\n'] => '1' ≤ d && d ≤ '6'
  | _ => false

/-- Whether an element with the tag is one block, whatever is below it. -/
def isLeafTag (tag : String) : Bool :=
  ["p", "blockquote", "pre", "li", "table", "figure", "iframe"].contains tag || isHeading tag

/-- Whether an element with the tag stands apart from the text around it. -/
def isBlockTag (tag : String) : Bool :=
  isLeafTag tag || ["ul", "ol", "aside"].contains tag

/-- Whether the tag gives weight to its text. -/
def isStrongTag (tag : String) : Bool :=
  tag == "strong" || tag == "b"

/-- Whether a time of the day and a blank, bar or dash begin the text. -/
def isTimestamp (t : Text) : Bool :=
  let (hours, r) := (t.dropWhile Text.isSpace).span Text.isDecimal
  (hours.length == 1 || hours.length == 2) &&
    match r with
    | ':' :: a :: b :: c :: _ =>
      Text.isDecimal a && Text.isDecimal b && (Text.isSpace c || c == '|' || c == '-')
    | _ => false

/-- The kind of a block by its tag and text. -/
def BlockKind.of (tag : String) (t : Text) : BlockKind :=
  if isHeading tag then .title
  else if tag == "blockquote" then .quote
  else if tag == "pre" then .preformatted
  else if tag == "ul" || tag == "ol" || tag == "li" then .list
  else if tag == "table" then .table
  else if tag == "figure" then .figure
  else if tag == "iframe" then .frame
  else if isTimestamp t then .timestamp
  else .text

/-- A block of a body. -/
structure Block where
  tag : String
  kind : BlockKind
  strong : Bool
  text : Text
  listTag : Option String
  display : Display
  afterBreak : Bool
deriving DecidableEq, Repr

namespace Block

/-- A block with a tag and a text; a line break in front of the text is noted and taken off. -/
def of (tag : String) (text : Text) (strong : Bool) : Block :=
  let display := if isBlockTag tag then Display.block else .inline
  match Text.dropPrefix? lineBreak text with
  | some rest =>
    let rest := Text.trim rest
    ⟨tag, .of tag rest, strong, rest, none, display, true⟩
  | none => ⟨tag, .of tag text, strong, text, none, display, false⟩

/-- Whether the block stands apart from the text around it. -/
def isBlock (b : Block) : Bool :=
  b.display != .inline

/-- The block with a line break at its end. -/
def addBreak (b : Block) : Block :=
  { b with text := b.text ++ lineBreak }

/-- The block with more text at its end: a blank comes first if the new text begins with a letter or digit, and a line
break in front of the new text is kept only there. -/
def add (b : Block) (t : Text) : Block :=
  let rest? := Text.dropPrefix? lineBreak t
  let rest := rest?.getD t
  let spaced := !b.text.isEmpty && (rest.head?.map Text.isAlphanumeric).getD false &&
    (!Text.endsWith '\n' b.text || rest?.isSome)
  let joint := if spaced then (if rest?.isSome then lineBreak ++ [' '] else [' ']) else []
  { b with text := b.text ++ joint ++ rest }

/-- The block in one line for readers of logs. -/
def describe (b : Block) : Text :=
  "BodyElement(tag=".toList ++ Text.quoted b.tag.toList ++ ", type=".toList ++ b.kind.name.toList ++
    ", strong=".toList ++ (if b.strong then "True" else "False").toList ++ ", text=".toList ++
    Text.quoted (b.text.take 40) ++ [')']

end Block

end Excerpt.Body
