import Excerpt.Yaml.Plain
import Excerpt.Yaml.Tree

/-!
# Documents from YAML texts

The tree of a text becomes a document: scalars get the value of their tag or form, the pairs of a merge key come before
the other pairs of a mapping, and of two pairs with one key the later value counts.
-/

namespace Excerpt.Yaml

namespace Tree

/-- The name after the start of the core tags. -/
def coreName? (tag : Text) : Option String :=
  (Text.dropPrefix? corePrefix tag).map String.ofList

/-- Whether a tag leaves the kind open. -/
def isOpen (tag : Option Text) : Bool :=
  tag.isNone || tag == some ['!']

/-- The kind of a scalar by its tag and form. -/
def scalarKind? (tag : Option Text) (plain : Bool) (t : Text) : Option CoreKind :=
  match tag with
  | none => if plain then some (.ofPlain t) else some .str
  | some ['!'] => some (.ofPlain t)
  | some full => (coreName? full).bind fun name => CoreKind.tagged.find? (·.name == name)

/-- Whether a node is a scalar of a kind. -/
def hasKind (kind : CoreKind) : Tree → Bool
  | .scalar tag plain t => scalarKind? tag plain t == some kind
  | _ => false

/-- Whether a collection has no tag or the one of its kind. -/
def fits (name : String) (tag : Option Text) : Bool :=
  isOpen tag || tag.bind coreName? == some name

/-- The value of a scalar. -/
def scalarValue (tag : Option Text) (plain : Bool) (t : Text) : Except ReadFault Doc :=
  match scalarKind? tag plain t with
  | some kind => kind.value t
  | none => .error .malformed

/-- A key of a mapping, which has to be a scalar; the sign for a default value stands for itself. -/
def keyValue (t : Tree) : Except ReadFault Scalar :=
  match t with
  | .scalar tag plain s =>
    if t.hasKind .default then .ok (.str (String.ofList s))
    else
      match scalarValue tag plain s with
      | .ok (.scalar k) => .ok k
      | .ok _ => .error .malformed
      | .error e => .error e
  | _ => .error .malformed

mutual

/-- The document of a tree. -/
def toDoc : Tree → Except ReadFault Doc
  | .scalar tag plain t => scalarValue tag plain t
  | .sequence tag ts => if fits "seq" tag then (toDocs ts).map .list else .error .malformed
  | .mapping tag ps =>
    if fits "map" tag then do
      let (merged, own) ← pairs ps
      return .map (Doc.Entries.ofPairs (merged ++ own))
    else .error .malformed

/-- The documents of several trees. -/
def toDocs : List Tree → Except ReadFault (List Doc)
  | [] => .ok []
  | t :: ts => do
    let d ← toDoc t
    return d :: (← toDocs ts)

/-- The merged pairs and the own pairs of a mapping. -/
def pairs : List (Tree × Tree) → Except ReadFault (List (Scalar × Doc) × List (Scalar × Doc))
  | [] => .ok ([], [])
  | (k, v) :: ps =>
    if k.hasKind .merge then do
      let more ← mergedFrom v
      let (merged, own) ← pairs ps
      return (more ++ merged, own)
    else do
      let key ← keyValue k
      let d ← toDoc v
      let (merged, own) ← pairs ps
      return (merged, (key, d) :: own)

/-- The pairs that a merge key adds: those of a mapping, or of several ones, the later ones first. -/
def mergedFrom : Tree → Except ReadFault (List (Scalar × Doc))
  | .mapping _ ps => do
    let (merged, own) ← pairs ps
    return merged ++ own
  | .sequence _ ts => mergedFromAll ts
  | .scalar .. => .error .malformed

/-- The pairs of several mappings, the later ones first. -/
def mergedFromAll : List Tree → Except ReadFault (List (Scalar × Doc))
  | [] => .ok []
  | .mapping _ ps :: ts => do
    let (merged, own) ← pairs ps
    let later ← mergedFromAll ts
    return later ++ merged ++ own
  | _ :: _ => .error .malformed

end

end Tree

/-- The document that a text is the YAML form of; a text without one is an empty value. -/
def read (t : Text) : Except ReadFault Doc :=
  match (tokens? t).bind Tree.ofTokens? with
  | none => .error .malformed
  | some none => .ok .null
  | some (some tree) => tree.toDoc

end Excerpt.Yaml
