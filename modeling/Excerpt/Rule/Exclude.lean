import Excerpt.Page.Node
import Excerpt.Rule.Decoded

/-!
# Excludes

An exclude names the elements that are taken out before an element is read, by tag, class and id: `tag`, `tag.class` or
`tag#id`, where an empty part leaves that side open. `Exclude.strip` takes the matched descendants out of a tree.
-/

namespace Excerpt

/-- The parts of an exclude; an empty part matches everything. -/
structure Exclude.Parts where
  tag : Text
  cls : Text
  id : Text
deriving DecidableEq, Repr

/-- The parts of an expression: split at the first point, or else at the first number sign. -/
def Exclude.Parts.parse (expr : Text) : Exclude.Parts :=
  match Text.cut? '.' expr with
  | some (tag, cls) => ⟨tag, cls, []⟩
  | none =>
    match Text.cut? '#' expr with
    | some (tag, id) => ⟨tag, [], id⟩
    | none => ⟨expr, [], []⟩

/-- An exclude, held as its expression. -/
structure Exclude where
  expr : String
deriving DecidableEq, Repr

namespace Exclude

/-- The parts of the expression. -/
def parts (x : Exclude) : Parts :=
  .parse x.expr.toList

/-- Whether there is an expression. -/
def hasExpr (x : Exclude) : Bool :=
  x.expr != ""

/-! ## Documents -/

/-- An exclude from a string, or from a mapping with the key `expr`; an empty value there counts as none. -/
def ofDoc : Doc → Decoded Exclude
  | .scalar (.str s) => .ok ⟨s⟩
  | .map es =>
    match Doc.Entries.get? es "expr" with
    | none => .ok ⟨""⟩
    | some d => if d.isEmpty then .ok ⟨""⟩ else Decoded.under (.key "expr") ((Decoded.string d).map Exclude.mk)
  | _ => .fail .notModel

/-- The exclude as entries. -/
def toEntries (x : Exclude) : List (String × Doc) :=
  [("expr", .str x.expr)]

/-- The exclude as a mapping. -/
def toDoc (x : Exclude) : Doc :=
  .ofFields x.toEntries

/-! ## Matching -/

/-- Whether the exclude matches a node; only elements are matched. -/
def holds (x : Exclude) (n : Node) : Bool :=
  match n with
  | .element tag _ _ =>
    let p := x.parts
    x.hasExpr && (p.tag.isEmpty || String.ofList p.tag == tag) &&
      (p.cls.isEmpty || ((n.attr? "class").map (·.holds p.cls)).getD false) &&
      (p.id.isEmpty || n.attr? "id" == some (.one (String.ofList p.id)))
  | _ => false

/-- Whether one of the excludes matches a node. -/
def anyHolds (xs : List Exclude) (n : Node) : Bool :=
  xs.any (·.holds n)

/-! ## Stripping -/

/-- The paths of the elements that are taken out, once the element at the path has had its turn: what is inside one that
is taken out already is passed over. -/
def clear (xs : List Exclude) (gone : List Node.Path) : Node.Path × Node → List Node.Path
  | (p, n) => if gone.any (·.isPrefixOf p) then gone else if anyHolds xs n then gone ++ [p] else gone

/-- The node with the matched elements below it taken out, one after the other in document order; the node
itself stays. -/
def strip (xs : List Exclude) (n : Node) : Node :=
  if xs.isEmpty then n else n.without (n.located.foldl (clear xs) [])

end Exclude

end Excerpt
