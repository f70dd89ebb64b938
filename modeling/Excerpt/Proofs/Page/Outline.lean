import Excerpt.Page.Content
import Excerpt.Page.Place

/-!
# Outlines

The outline of a tree keeps its elements with their tags and attributes, and of its texts which of them are blank; what
the others say is left out. The outline of a place is that of its node and of everything around it. Going up, to the
siblings and down are the same in outline (`Place.outline_ancestors` to `Place.outline_descendants`), and so are paths.

The surroundings of a place may be taken in outline and its node as it is (`Place.framed`). The places below it depend
on no more than that (`Place.framed_descendants`).
-/

namespace Excerpt

/-! ## Trees -/

namespace Node

/-- What stands for any text that is not blank. -/
def standIn : Text :=
  ['x']

mutual

/-- The node without what its texts say. -/
def outline : Node → Node
  | .text kind s => .text kind (if Text.isBlank s then s else standIn)
  | .comment _ => .comment []
  | .instruction _ => .instruction []
  | .doctype _ => .doctype []
  | .element tag as ns => .element tag as (outlineIn ns)

/-- Several nodes without what their texts say. -/
def outlineIn : List Node → List Node
  | [] => []
  | n :: ns => n.outline :: outlineIn ns

end

/-- Each node of a row has its outline by itself. -/
theorem outlineIn_eq_map : ∀ ns : List Node, outlineIn ns = ns.map outline
  | [] => rfl
  | n :: ns => congrArg (n.outline :: ·) (outlineIn_eq_map ns)

theorem outline_element (tag : String) (as : Attrs) (ns : List Node) :
    (element tag as ns).outline = .element tag as (ns.map outline) := by
  rw [outline, outlineIn_eq_map]

/-- What is asked of an element by its tag and its attributes is the same in outline. -/
theorem tag?_outline (n : Node) : n.outline.tag? = n.tag? := by
  cases n <;> rfl

theorem isElement_outline (n : Node) : n.outline.isElement = n.isElement := by
  cases n <;> rfl

theorem attrs_outline (n : Node) : n.outline.attrs = n.attrs := by
  cases n <;> rfl

theorem children_outline (n : Node) : n.outline.children = n.children.map outline := by
  cases n with
  | element tag as ns => exact outlineIn_eq_map ns
  | _ => rfl

mutual

/-- The elements of a tree are in outline where they are in the tree, with their own outlines. -/
theorem elements_outline : ∀ n : Node, n.outline.elements = n.elements.map outline
  | .text .. | .comment _ | .instruction _ | .doctype _ => rfl
  | .element tag as ns => by
    rw [outline, elements, elements, List.map_cons, outline, elementsIn_outlineIn ns]

theorem elementsIn_outlineIn : ∀ ns : List Node, elementsIn (outlineIn ns) = (elementsIn ns).map outline
  | [] => rfl
  | n :: ns => by rw [outlineIn, elementsIn, elementsIn, List.map_append, elements_outline n, elementsIn_outlineIn ns]

end

theorem descendants_outline (n : Node) : n.outline.descendants = n.descendants.map outline := by
  rw [descendants, descendants, children_outline, ← outlineIn_eq_map, elementsIn_outlineIn]

theorem attr?_outline (n : Node) (name : String) : n.outline.attr? name = n.attr? name := by
  rw [attr?, attr?, attrs_outline]

/-- Keys of `meta` elements are in their attributes. -/
theorem hasMetaKey_outline (key : Text) (n : Node) : n.outline.hasMetaKey key = n.hasMetaKey key := by
  have hlower : ∀ name, n.outline.lowerAttr? name = n.lowerAttr? name := by
    intro name
    rw [lowerAttr?, lowerAttr?, attrs_outline]
  simp only [hasMetaKey, hlower]

/-- The content of a `meta` element is an attribute, so the outline has it as well. -/
theorem metaContent?_outline (document : Node) (key : Text) :
    document.outline.metaContent? key = document.metaContent? key := by
  have htag : ∀ n : Node, n.outline.hasTag "meta" = n.hasTag "meta" := by
    intro n
    cases n <;> rfl
  rw [metaContent?, metaContent?, descendants_outline, List.findSome?_map]
  congr 1
  funext n
  rw [Function.comp_apply, htag, hasMetaKey_outline, attr?_outline]

end Node

/-! ## Places -/

/-- The frame with its nodes in outline. -/
def Frame.outline (f : Frame) : Frame :=
  ⟨f.tag, f.attrs, f.before.map Node.outline, f.after.map Node.outline⟩

namespace Place

/-- The place with its node and everything around it in outline. -/
def outline (p : Place) : Place :=
  ⟨p.node.outline, p.trail.map Frame.outline⟩

/-- The outline of the node above, put together from a frame and the node in it. -/
theorem outline_up (f : Frame) (n : Node) : (Node.element f.tag f.attrs (f.before.reverse ++ n :: f.after)).outline =
    .element f.outline.tag f.outline.attrs (f.outline.before.reverse ++ n.outline :: f.outline.after) := by
  simp only [Node.outline_element, List.map_append, List.map_cons, List.map_reverse, Frame.outline]

theorem outline_parent? (p : Place) : p.outline.parent? = p.parent?.map outline := by
  obtain ⟨n, _ | ⟨f, fs⟩⟩ := p
  · rfl
  · simp only [outline, List.map_cons, parent?, Option.map_some, outline_up]

/-- The way up passes through the outlines of the frames. -/
theorem outline_ancestors_go : ∀ (n : Node) (fs : List Frame),
    ancestors.go n.outline (fs.map Frame.outline) = (ancestors.go n fs).map outline
  | _, [] => rfl
  | n, f :: fs => by
    simp only [List.map_cons, ancestors.go, ← outline_up, outline_ancestors_go _ fs]
    rfl

theorem outline_ancestors (p : Place) : p.outline.ancestors = p.ancestors.map outline :=
  outline_ancestors_go p.node p.trail

theorem root_outline (p : Place) : p.outline.root = p.root.outline := by
  rw [root, root, outline_ancestors, List.getLast?_map]
  cases p.ancestors.getLast? <;> rfl

/-- An outline has as many nodes in each row, so places are found by the same numbers. -/
theorem path_outline (p : Place) : p.outline.path = p.path := by
  simp only [path, outline, List.map_map]
  congr 2
  funext f
  exact List.length_map ..

/-- The places in a row differ in which part of it is in front and which behind. -/
theorem outline_inRow (tag : String) (as : Attrs) (fs : List Frame) : ∀ before after : List Node,
    inRow tag as (fs.map Frame.outline) (before.map Node.outline) (after.map Node.outline) =
      (inRow tag as fs before after).map outline
  | _, [] => rfl
  | before, n :: after => by
    have ih := outline_inRow tag as fs (n :: before) after
    rw [List.map_cons] at ih
    rw [List.map_cons, inRow, inRow, List.map_cons, ih]
    rfl

theorem outline_children (p : Place) : p.outline.children = p.children.map outline := by
  obtain ⟨n, fs⟩ := p
  cases n with
  | element tag as ns =>
    simp only [outline, Node.outline_element, children]
    exact outline_inRow tag as fs [] ns
  | _ => rfl

/-- The siblings in front of a node come from the nearest one on, each with those between it and the node behind. -/
theorem outline_earlier_go (f : Frame) (fs : List Frame) : ∀ (n : Node) (before after : List Node),
    earlier.go f.outline (fs.map Frame.outline) n.outline (before.map Node.outline) (after.map Node.outline) =
      (earlier.go f fs n before after).map outline
  | _, [], _ => rfl
  | n, b :: before, after => by
    have ih := outline_earlier_go f fs b before (n :: after)
    rw [List.map_cons] at ih
    rw [List.map_cons, earlier.go, earlier.go, List.map_cons, ih]
    rfl

theorem outline_earlier (p : Place) : p.outline.earlier = p.earlier.map outline := by
  obtain ⟨n, _ | ⟨f, fs⟩⟩ := p
  · rfl
  · exact outline_earlier_go f fs n f.before f.after

theorem outline_later (p : Place) : p.outline.later = p.later.map outline := by
  obtain ⟨n, _ | ⟨f, fs⟩⟩ := p
  · rfl
  · exact outline_inRow f.tag f.attrs fs (n :: f.before) f.after

mutual

/-- The places in a tree, in document order; with `outline_withinRow` by induction on the tree and its rows. -/
theorem outline_within : ∀ (fs : List Frame) (n : Node),
    within (fs.map Frame.outline) n.outline = (within fs n).map outline
  | _, .text .. | _, .comment _ | _, .instruction _ | _, .doctype _ => rfl
  | fs, .element tag as ns => by
    have hrow := outline_withinRow tag as fs [] ns
    rw [Node.outline_element, within, within, List.map_cons, ← hrow, outline, Node.outline_element]
    rfl

theorem outline_withinRow (tag : String) (as : Attrs) (fs : List Frame) : ∀ before after : List Node,
    withinRow tag as (fs.map Frame.outline) (before.map Node.outline) (after.map Node.outline) =
      (withinRow tag as fs before after).map outline
  | _, [] => rfl
  | before, n :: after => by
    have hnode := outline_within (⟨tag, as, before, after⟩ :: fs) n
    have hrow := outline_withinRow tag as fs (n :: before) after
    rw [List.map_cons] at hnode hrow
    rw [List.map_cons, withinRow, withinRow, List.map_append, ← hnode, ← hrow]
    rfl

end

theorem outline_descendants (p : Place) : p.outline.descendants = p.descendants.map outline := by
  obtain ⟨n, fs⟩ := p
  cases n with
  | element tag as ns =>
    simp only [outline, Node.outline_element, descendants]
    exact outline_withinRow tag as fs [] ns
  | _ => rfl

/-! ## Places with their surroundings in outline -/

/-- The place with everything around it in outline. -/
def framed (p : Place) : Place :=
  ⟨p.node, p.trail.map Frame.outline⟩

/-- The surroundings are in outline already, and the node is what it is. -/
theorem outline_eq_of_framed {p p' : Place} (h : p'.framed = p.framed) : p'.outline = p.outline :=
  congrArg (fun q : Place => (⟨q.node.outline, q.trail⟩ : Place)) h

mutual

/-- In one tree, places that differ in the texts around the tree give the same places below it. -/
theorem framed_within {fs fs' : List Frame} (h : fs.map Frame.outline = fs'.map Frame.outline) : ∀ n : Node,
    (within fs n).map framed = (within fs' n).map framed
  | .text .. | .comment _ | .instruction _ | .doctype _ => by simp only [within, List.map_cons, framed, h, List.map_nil]
  | .element tag as ns => by
    simp only [within, List.map_cons, framed, h]
    rw [framed_withinRow tag as h [] ns]

theorem framed_withinRow (tag : String) (as : Attrs) {fs fs' : List Frame}
    (h : fs.map Frame.outline = fs'.map Frame.outline) : ∀ before after : List Node,
    (withinRow tag as fs before after).map framed = (withinRow tag as fs' before after).map framed
  | _, [] => rfl
  | before, n :: after => by
    have hframe : (⟨tag, as, before, after⟩ :: fs).map Frame.outline =
        (⟨tag, as, before, after⟩ :: fs').map Frame.outline := by
      rw [List.map_cons, List.map_cons, h]
    rw [withinRow, withinRow, List.map_append, List.map_append, framed_within hframe n,
      framed_withinRow tag as h (n :: before) after]

end

/-- What is below a place does not depend on what the texts around it say. -/
theorem framed_descendants {p p' : Place} (h : p'.framed = p.framed) :
    p'.descendants.map framed = p.descendants.map framed := by
  obtain ⟨n', fs'⟩ := p'
  obtain ⟨n, fs⟩ := p
  obtain ⟨rfl, hfs⟩ := Place.mk.inj h
  cases n' with
  | element tag as ns => exact framed_withinRow tag as hfs [] ns
  | _ => rfl

/-! ## Paths -/

/-- The root of a place is that of the place above. -/
theorem root_cons (n : Node) (f : Frame) (fs : List Frame) :
    root ⟨n, f :: fs⟩ = root ⟨.element f.tag f.attrs (f.before.reverse ++ n :: f.after), fs⟩ := by
  simp only [root, ancestors, ancestors.go, List.getLast?_cons]
  cases (ancestors.go (.element f.tag f.attrs (f.before.reverse ++ n :: f.after)) fs).getLast? <;> rfl

mutual

/-- All places within a tree have the root of the tree. -/
theorem root_of_mem_within {q : Place} : ∀ {fs : List Frame} {n : Node}, q ∈ within fs n → q.root = root ⟨n, fs⟩
  | _, .text .., h | _, .comment _, h | _, .instruction _, h | _, .doctype _, h => by
    rw [List.mem_singleton.mp h]
  | fs, .element tag as ns, h => by
    rcases List.mem_cons.mp h with rfl | h
    · rfl
    · exact root_of_mem_withinRow h

theorem root_of_mem_withinRow {tag : String} {as : Attrs} {fs : List Frame} {q : Place} : ∀ {before after : List Node},
    q ∈ withinRow tag as fs before after → q.root = root ⟨.element tag as (before.reverse ++ after), fs⟩
  | before, n :: after, h => by
    rcases List.mem_append.mp h with h | h
    · rw [root_of_mem_within h, root_cons]
    · rw [root_of_mem_withinRow h, List.reverse_cons, List.append_assoc, List.singleton_append]

end

theorem root_of_mem_descendants {p q : Place} (h : q ∈ p.descendants) : q.root = p.root := by
  obtain ⟨n, fs⟩ := p
  cases n with
  | element tag as ns => exact root_of_mem_withinRow h
  | _ => cases h

/-- The place in a row with a given number has as many nodes in front of it. -/
theorem getElem?_inRow (tag : String) (as : Attrs) (fs : List Frame) (n : Node) (after : List Node) :
    ∀ front before : List Node, (inRow tag as fs before (front ++ n :: after))[front.length]? =
      some ⟨n, ⟨tag, as, front.reverse ++ before, after⟩ :: fs⟩
  | [], _ => rfl
  | m :: front, before => by
    rw [List.cons_append, inRow, List.length_cons, List.getElem?_cons_succ, getElem?_inRow tag as fs n after front,
      List.reverse_cons, List.append_assoc, List.singleton_append]

/-- A path is followed part by part. -/
theorem follow?_append (p : Place) : ∀ is js : List Nat, p.follow? (is ++ js) = (p.follow? is).bind (·.follow? js)
  | [], _ => rfl
  | i :: is, js => by
    rw [List.cons_append, follow?, follow?, Option.bind_assoc]
    congr 1
    funext q
    exact follow?_append q is js

/-- The path of a place leads from the document to it. -/
theorem follow?_path : ∀ (n : Node) (fs : List Frame), (top (root ⟨n, fs⟩)).follow? (path ⟨n, fs⟩) = some ⟨n, fs⟩
  | _, [] => rfl
  | n, f :: fs => by
    have hup := follow?_path (.element f.tag f.attrs (f.before.reverse ++ n :: f.after)) fs
    have hpath : path ⟨n, f :: fs⟩ =
        path ⟨.element f.tag f.attrs (f.before.reverse ++ n :: f.after), fs⟩ ++ [f.before.length] := by
      simp only [path, List.map_cons, List.reverse_cons]
    have hchild := getElem?_inRow f.tag f.attrs fs n f.after f.before.reverse []
    rw [List.length_reverse, List.reverse_reverse, List.append_nil] at hchild
    rw [root_cons, hpath, follow?_append, hup, Option.bind_some, follow?, child?, children, hchild]
    rfl

/-- The tree at a path in the document of a place. -/
def nodeAt? (p : Place) (path : List Nat) : Option Node :=
  ((top p.root).follow? path).map Place.node

/-- The path of a place leads to its node from the root. -/
theorem nodeAt?_path (p : Place) : p.nodeAt? p.path = some p.node := by
  rw [nodeAt?, follow?_path p.node p.trail]
  rfl

end Place

end Excerpt
