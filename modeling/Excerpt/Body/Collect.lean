import Excerpt.Body.Block
import Excerpt.Page.Content
import Excerpt.Page.Tree
import Excerpt.Rule.Exclude

/-!
# Collecting the blocks of a body

The tree below an element is flattened into blocks. Elements with nothing but a text, and those that are one block by
their tag, are leaves; a leaf gives one line or more, each a new block or an addition to the last one. Blocks are held
with the last one first.
-/

namespace Excerpt.Body

/-- A piece of a body that is not divided: its tag, the tag around it, its text, and whether it is strong. -/
structure Leaf where
  tag : String
  parentTag : String
  text : Text
  strong : Bool
deriving DecidableEq, Repr

/-! ## Leaves -/

/-- Whether a child is passed over in the search for a strong beginning: a `br` element or blank text. -/
def isPassedOver : Node → Bool
  | .element tag _ _ => tag == "br"
  | .text _ s | .comment s | .instruction s | .doctype s => Text.isBlank s

/-- Whether a node is a strong element. -/
def isStrongElement : Node → Bool
  | .element tag _ _ => isStrongTag tag
  | _ => false

/-- Whether a node is strong, or is a paragraph that begins with a strong element. -/
def isStrong : Node → Bool
  | .element tag _ ns =>
    isStrongTag tag ||
      (tag == "p" &&
        match ns.find? (!isPassedOver ·) with
        | some n => isStrongElement n
        | none => false)
  | _ => false

/-- Whether an element is a leaf: it has no children, a single one that is no element, or a tag that is one block. -/
def isLeaf (tag : String) (children : List Node) : Bool :=
  match children with
  | [] => true
  | [n] => !n.isElement || isLeafTag tag
  | _ => isLeafTag tag

mutual

/-- The leaves of a node, in document order, without the excluded ones. -/
def leavesOf (excludes : List Exclude) (parentTag : String) : Node → List Leaf
  | .comment _ => []
  | .text _ s | .instruction s | .doctype s => [⟨textTag, parentTag, s, false⟩]
  | .element tag as ns =>
    if Exclude.anyHolds excludes (.element tag as ns) then []
    else if isLeaf tag ns then
      [⟨tag, parentTag, Node.blockText (.element tag as ns), isStrong (.element tag as ns)⟩]
    else leavesIn excludes tag ns

/-- The leaves of several nodes. -/
def leavesIn (excludes : List Exclude) (parentTag : String) : List Node → List Leaf
  | [] => []
  | n :: ns => leavesOf excludes parentTag n ++ leavesIn excludes parentTag ns

end

/-! ## Lines of a leaf -/

/-- The text with a line break marked in front of each line after the first that is not empty. -/
def markBreaks : Text → Text
  | [] => []
  | '\n' :: c :: cs => if c = '\n' then '\n' :: markBreaks (c :: cs) else '\n' :: lineBreak ++ markBreaks (c :: cs)
  | c :: cs => c :: markBreaks cs

/-- The cleaned lines of a leaf; those of a paragraph have their breaks marked. -/
def Leaf.lines (l : Leaf) : List Text :=
  let text := Text.trim l.text
  (Text.splitOn '\n' (if l.tag == "p" then markBreaks text else text)).map cleanText

/-- Whether a leaf gives a strong block: it is strong and has a single line. -/
def Leaf.givesStrong (l : Leaf) : Bool :=
  (l.lines.filter (!·.isEmpty)).length == 1 && l.strong

/-! ## Blocks -/

/-- Whether a text continues the last block: there is one and it does not stand alone. -/
def continuesLast : List Block → Bool
  | [] => false
  | b :: _ => b.display != .block

/-- The last block closed against further text. -/
def closeLast : List Block → List Block
  | [] => []
  | b :: bs => { b with display := .block } :: bs

/-- A strong text that does not end a sentence becomes a title when a block follows it. -/
def promote (next : Block) (b : Block) : Block :=
  if b.kind == .text && b.strong && !Text.endsWith '.' b.text && b.isBlock && next.isBlock then
    { b with kind := .title }
  else b

/-- The block for a line of a leaf; `isFirst` and `inline` say where the line stands. -/
def Leaf.block (l : Leaf) (isFirst inline : Bool) (line : Text) : Block :=
  let b := Block.of l.tag line l.givesStrong
  { b with
    display := if !isFirst || !inline then .inlineBlock else b.display
    listTag := if b.kind == .list then some l.parentTag else none }

/-- Whether a block after a line break belongs to the last block, `before` being the line in front of it if any. -/
def joinsLast (before : Option Text) (b : Block) : Bool :=
  b.afterBreak &&
    match before with
    | none => true
    | some line => !line.isEmpty && line != lineBreak && b.kind != .timestamp

/-- The blocks with one more line of a leaf; `before` is the line in front of it, if any. -/
def place (before : Option Text) (b : Block) : List Block → List Block
  | [] => [b]
  | last :: bs =>
    if !b.isBlock then last.add b.text :: bs
    else if joinsLast before b then ((last.add ['\n']).addBreak.add b.text) :: bs
    else b :: promote b last :: bs

/-- The blocks with the lines of a leaf from some line on. -/
def addLines (l : Leaf) (inline : Bool) : Option Text → List Block → List Text → List Block
  | _, bs, [] => bs
  | before, bs, line :: rest =>
    let bs :=
      if line.isEmpty then (if rest.isEmpty then closeLast bs else bs)
      else place before (l.block before.isNone inline line) bs
    addLines l inline (some line) bs rest

/-- The blocks with one more leaf. -/
def addLeaf (bs : List Block) (l : Leaf) : List Block :=
  addLines l (continuesLast bs) none bs l.lines

/-- The blocks with those below a node, in order after the earlier ones. -/
def collect (excludes : List Exclude) (blocks : List Block) (n : Node) : List Block :=
  ((leavesIn excludes (n.tag?.getD "") n.children).foldl addLeaf blocks.reverse).reverse

/-- The blocks of a body text: one without paragraphs in markup is cut into paragraphs at its empty lines first. -/
def ofMarkup (t : Text) : List Block :=
  let marked := (Token.upTo ['<', 'p'] t).1.length < t.length
  collect [] [] (Node.ofMarkup (if marked then t else markupOfPlain t)).bodyOf

end Excerpt.Body
