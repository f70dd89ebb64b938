import Excerpt.Doc.Basic
import Excerpt.Text.Case

/-!
# Page trees

A page is a tree of elements, texts, comments, processing instructions and document types; the document itself is the
element `[document]`. A text carries a kind: texts in scripts, styles, templates and ruby annotations are told apart
from the running text.

`Node.ofTree` builds an element with its attributes and the kinds of its texts settled.
-/

namespace Excerpt

/-- What a text of a page is for. -/
inductive TextKind where
  | plain
  | script
  | style
  | template
  | rubyText
  | rubyParenthesis
deriving DecidableEq, Repr

/-- The kind of the texts in an element, if the element settles it. -/
def TextKind.ofTag? : String → Option TextKind
  | "script" => some .script
  | "style" => some .style
  | "template" => some .template
  | "rt" => some .rubyText
  | "rp" => some .rubyParenthesis
  | _ => none

/-- The value of an attribute: a string, or the words of a list. -/
inductive AttrValue where
  | one (s : String)
  | many (ss : List String)
deriving DecidableEq, Repr

namespace AttrValue

/-- The attributes that hold a list of words on every element. -/
def listNames : List String :=
  ["class", "accesskey", "dropzone"]

/-- The tags with further attributes that hold a list of words. -/
def tagListNames : List (String × List String) :=
  [("a", ["rel", "rev"]), ("link", ["rel", "rev"]), ("td", ["headers"]), ("th", ["headers"]),
    ("form", ["accept-charset"]), ("object", ["archive"]), ("area", ["rel"]), ("icon", ["sizes"]),
    ("iframe", ["sandbox"]), ("output", ["for"])]

/-- Whether an attribute holds a list of words; tags are told apart but for case, names of attributes are not. -/
def isList (tag name : String) : Bool :=
  listNames.contains name || tagListNames.any fun (t, names) => names.contains name && t == lowerName tag

/-- The value of an attribute as it is written in a page. -/
def ofText (tag name : String) (value : Text) : AttrValue :=
  if isList tag name then .many ((Text.words value).map String.ofList) else .one (String.ofList value)

/-- The value as one text. -/
def text : AttrValue → Text
  | .one s => s.toList
  | .many ss => Text.join [' '] (ss.map String.toList)

/-- Whether the value is empty. -/
def isEmpty : AttrValue → Bool
  | .one s => s == ""
  | .many ss => ss.isEmpty

/-- Whether the value holds a word: as one of a list, or anywhere in a string. -/
def holds (word : Text) : AttrValue → Bool
  | .one s => Text.includes word s.toList
  | .many ss => ss.contains (String.ofList word)

end AttrValue

/-- The attributes of an element, in written order. -/
abbrev Attrs := List (String × AttrValue)

/-- A node of a page. -/
inductive Node where
  | text (kind : TextKind) (s : Text)
  | comment (s : Text)
  | instruction (s : Text)
  | doctype (s : Text)
  | element (tag : String) (attrs : Attrs) (children : List Node)
deriving Repr, Inhabited

namespace Node

/-- The name of the document. -/
def documentTag : String :=
  "[document]"

/-- The document with the given nodes. -/
def document (children : List Node) : Node :=
  .element documentTag [] children

/-- The tag of an element. -/
def tag? : Node → Option String
  | .element tag _ _ => some tag
  | _ => none

/-- Whether the node is an element. -/
def isElement : Node → Bool
  | .element .. => true
  | _ => false

/-- Whether the node is an element with the tag. -/
def hasTag (tag : String) : Node → Bool
  | .element t _ _ => t == tag
  | _ => false

/-- The attributes of a node. -/
def attrs : Node → Attrs
  | .element _ as _ => as
  | _ => []

/-- The children of a node. -/
def children : Node → List Node
  | .element _ _ ns => ns
  | _ => []

/-- The value of an attribute. -/
def attr? (n : Node) (name : String) : Option AttrValue :=
  n.attrs.lookup name

/-- The text that a node adds to the text of a block: its content, unless it is a comment or an element. -/
def visible? : Node → Option Text
  | .text _ s | .instruction s | .doctype s => some s
  | _ => none

mutual

/-- The elements of a node and of its descendants, in document order. -/
def elements : Node → List Node
  | .element tag as ns => .element tag as ns :: elementsIn ns
  | _ => []

/-- The elements of several nodes and of their descendants, in document order. -/
def elementsIn : List Node → List Node
  | [] => []
  | n :: ns => n.elements ++ elementsIn ns

end

/-- The elements below a node, in document order. -/
def descendants (n : Node) : List Node :=
  elementsIn n.children

/-! ## Paths -/

/-- The way down to a node: which child to take at each step. -/
abbrev Path := List Nat

mutual

/-- The elements below a node in document order, each with the path to it. -/
def located : Node → List (Path × Node)
  | .element _ _ ns => locatedIn 0 ns
  | _ => []

/-- The elements of several nodes and of their descendants with their paths, the first node being the child with the
index. -/
def locatedIn (i : Nat) : List Node → List (Path × Node)
  | [] => []
  | n :: ns =>
    (if n.isElement then ([i], n) :: n.located.map fun (p, m) => (i :: p, m) else []) ++ locatedIn (i + 1) ns

end

/-- What is left of the paths that go through a child. -/
def through (i : Nat) (ps : List Path) : List Path :=
  ps.filterMap fun
    | j :: p => if j = i then some p else none
    | [] => none

mutual

/-- The node without the nodes at the paths. -/
def without (gone : List Path) : Node → Node
  | .element tag as ns => .element tag as (withoutIn gone 0 ns)
  | n => n

/-- Several nodes without those at the paths, the first node being the child with the index. -/
def withoutIn (gone : List Path) (i : Nat) : List Node → List Node
  | [] => []
  | n :: ns =>
    if gone.contains [i] then withoutIn gone (i + 1) ns else n.without (through i gone) :: withoutIn gone (i + 1) ns

end

/-! ## Comparing and building -/

mutual

/-- Whether two trees are equal. -/
def same : Node → Node → Bool
  | .text k s, .text k' s' => k == k' && s == s'
  | .comment s, .comment s' => s == s'
  | .instruction s, .instruction s' => s == s'
  | .doctype s, .doctype s' => s == s'
  | .element t as ns, .element t' as' ns' => t == t' && as == as' && sameIn ns ns'
  | _, _ => false

/-- Whether two lists hold equal trees. -/
def sameIn : List Node → List Node → Bool
  | [], [] => true
  | a :: as, b :: bs => a.same b && sameIn as bs
  | _, _ => false

end

mutual

/-- The node with the kind of its texts settled by the elements around them, `kind` being that of the outer ones. -/
def settle (kind : TextKind) : Node → Node
  | .text _ s => .text kind s
  | .element tag as ns => .element tag as (settleIn ((TextKind.ofTag? tag).getD kind) ns)
  | n => n

/-- The nodes with the kind of their texts settled. -/
def settleIn (kind : TextKind) : List Node → List Node
  | [] => []
  | n :: ns => n.settle kind :: settleIn kind ns

end

/-- An element with attributes as they are written in a page; a later attribute of one name is left out. -/
def ofTree (tag : String) (attrs : List (String × Text)) (children : List Node) : Node :=
  let distinct := attrs.foldl (fun as (n, v) => if (as.lookup n).isSome then as else as ++ [(n, v)]) []
  .element tag (distinct.map fun (n, v) => (n, AttrValue.ofText tag n v)) children

end Node

end Excerpt
