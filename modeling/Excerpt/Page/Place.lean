import Excerpt.Page.Node

/-!
# Places in a page

A place is a node together with what stands around it: for each element it lies in, the tag, the attributes, and the
nodes before and after. From a place one can go up, to the siblings, and down; its path says which child to take at each
step from the document.
-/

namespace Excerpt

/-- An element around a place, with its other children; the ones before are nearest first. -/
structure Frame where
  tag : String
  attrs : Attrs
  before : List Node
  after : List Node

/-- A node with the elements around it, the innermost first. -/
structure Place where
  node : Node
  trail : List Frame

namespace Place

/-- The place of a whole tree. -/
def top (n : Node) : Place :=
  ⟨n, []⟩

/-- The element around the place. -/
def parent? (p : Place) : Option Place :=
  match p.trail with
  | [] => none
  | f :: fs => some ⟨.element f.tag f.attrs (f.before.reverse ++ p.node :: f.after), fs⟩

/-- The elements around the place, the innermost first. -/
def ancestors (p : Place) : List Place :=
  go p.node p.trail
where
  go (n : Node) : List Frame → List Place
    | [] => []
    | f :: fs =>
      let up : Node := .element f.tag f.attrs (f.before.reverse ++ n :: f.after)
      ⟨up, fs⟩ :: go up fs

/-- The outermost node, which is the document of a page. -/
def root (p : Place) : Node :=
  match p.ancestors.getLast? with
  | some a => a.node
  | none => p.node

/-- The path from the document to the place. -/
def path (p : Place) : List Nat :=
  (p.trail.map (·.before.length)).reverse

/-- The places of nodes in a row, `before` being the ones already passed, nearest first. -/
def inRow (tag : String) (attrs : Attrs) (trail : List Frame) : List Node → List Node → List Place
  | _, [] => []
  | before, n :: after => ⟨n, ⟨tag, attrs, before, after⟩ :: trail⟩ :: inRow tag attrs trail (n :: before) after

/-- The places of the children. -/
def children (p : Place) : List Place :=
  match p.node with
  | .element tag attrs ns => inRow tag attrs p.trail [] ns
  | _ => []

/-- The places of the siblings before, nearest first. -/
def earlier (p : Place) : List Place :=
  match p.trail with
  | [] => []
  | f :: fs => go f fs p.node f.before f.after
where
  go (f : Frame) (fs : List Frame) (n : Node) : List Node → List Node → List Place
    | [], _ => []
    | b :: before, after => ⟨b, ⟨f.tag, f.attrs, before, n :: after⟩ :: fs⟩ :: go f fs b before (n :: after)

/-- The places of the siblings after, nearest first. -/
def later (p : Place) : List Place :=
  match p.trail with
  | [] => []
  | f :: fs => inRow f.tag f.attrs fs (p.node :: f.before) f.after

/-- The place of the child with the index. -/
def child? (p : Place) (i : Nat) : Option Place :=
  p.children[i]?

/-- The place at the end of a path. -/
def follow? (p : Place) : List Nat → Option Place
  | [] => some p
  | i :: is => (p.child? i).bind (·.follow? is)

mutual

/-- The places of a node and of the nodes below it, in document order. -/
def within (trail : List Frame) : Node → List Place
  | .element tag attrs ns => ⟨.element tag attrs ns, trail⟩ :: withinRow tag attrs trail [] ns
  | n => [⟨n, trail⟩]

/-- The places of nodes in a row and of the nodes below them. -/
def withinRow (tag : String) (attrs : Attrs) (trail : List Frame) (before : List Node) : List Node → List Place
  | [] => []
  | n :: after => within (⟨tag, attrs, before, after⟩ :: trail) n ++ withinRow tag attrs trail (n :: before) after

end

/-- The places below a place, in document order. -/
def descendants (p : Place) : List Place :=
  match p.node with
  | .element tag attrs ns => withinRow tag attrs p.trail [] ns
  | _ => []

end Place

end Excerpt
