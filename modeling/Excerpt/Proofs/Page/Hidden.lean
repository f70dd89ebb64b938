import Excerpt.Page.Content
import Excerpt.Rule.Exclude

/-!
# Texts inside matched elements

A text of a tree is hidden if it lies inside an element that an exclude matches. `Agree` relates trees that differ in
hidden texts only, `hiddenStrings` lists the hidden texts other than comments, and `overwrite` puts one text in place of
each of them (`agree_overwrite`). Blocks without hidden texts are the same in trees that agree (`agree_blockParts`).
-/

namespace Excerpt.Exclude

open Node (blockPart blockParts)

/-- Only the tag and the attributes of an element decide whether it is matched. -/
theorem anyHolds_children (xs : List Exclude) (tag : String) (as : Attrs) (ns ns' : List Node) :
    anyHolds xs (.element tag as ns) = anyHolds xs (.element tag as ns') := rfl

mutual

/-- Trees that differ in hidden texts only; `hidden` says that they lie inside a matched element. -/
inductive Agree (xs : List Exclude) : Bool → Node → Node → Prop
  | text {hidden : Bool} {kind : TextKind} {s s' : Text} (h : hidden = false → s = s') :
      Agree xs hidden (.text kind s) (.text kind s')
  | comment {hidden : Bool} {s s' : Text} (h : hidden = false → s = s') : Agree xs hidden (.comment s) (.comment s')
  | instruction {hidden : Bool} {s s' : Text} (h : hidden = false → s = s') :
      Agree xs hidden (.instruction s) (.instruction s')
  | doctype {hidden : Bool} {s s' : Text} (h : hidden = false → s = s') : Agree xs hidden (.doctype s) (.doctype s')
  | element {hidden : Bool} {tag : String} {as : Attrs} {ns ns' : List Node}
      (h : AgreeIn xs (hidden || anyHolds xs (.element tag as ns)) ns ns') :
      Agree xs hidden (.element tag as ns) (.element tag as ns')

/-- Lists of trees that differ in hidden texts only. -/
inductive AgreeIn (xs : List Exclude) : Bool → List Node → List Node → Prop
  | nil {hidden : Bool} : AgreeIn xs hidden [] []
  | cons {hidden : Bool} {n n' : Node} {ns ns' : List Node} (h : Agree xs hidden n n')
      (t : AgreeIn xs hidden ns ns') : AgreeIn xs hidden (n :: ns) (n' :: ns')

end

mutual

/-- The hidden texts of a node that are no comments; `hidden` says that the node lies inside a matched element. -/
def hiddenStrings (xs : List Exclude) (hidden : Bool) : Node → List Text
  | .text _ s | .instruction s | .doctype s => if hidden then [s] else []
  | .comment _ => []
  | .element tag as ns => hiddenStringsIn xs (hidden || anyHolds xs (.element tag as ns)) ns

/-- The hidden texts of several nodes that are no comments. -/
def hiddenStringsIn (xs : List Exclude) (hidden : Bool) : List Node → List Text
  | [] => []
  | n :: ns => hiddenStrings xs hidden n ++ hiddenStringsIn xs hidden ns

end

mutual

theorem agree_blockPart {xs : List Exclude} {hidden : Bool} : ∀ {n n' : Node}, Agree xs hidden n n' →
    hiddenStrings xs hidden n = [] → n'.blockPart = n.blockPart
  | _, _, .text h, he | _, _, .instruction h, he | _, _, .doctype h, he => by
    cases hidden with
    | true => cases he
    | false => exact (h rfl).symm
  | _, _, .comment _, _ => rfl
  | _, _, .element h, he => by
    rw [blockPart, blockPart, agree_blockParts h he]

/-- Blocks without hidden texts are the same in trees that agree. -/
theorem agree_blockParts {xs : List Exclude} {hidden : Bool} : ∀ {ns ns' : List Node}, AgreeIn xs hidden ns ns' →
    hiddenStringsIn xs hidden ns = [] → blockParts ns' = blockParts ns
  | _, _, .nil, _ => rfl
  | _, _, .cons h t, he => by
    rw [hiddenStringsIn, List.append_eq_nil_iff] at he
    rw [blockParts, blockParts, agree_blockPart h he.1, agree_blockParts t he.2]

end

/-! ## Overwriting -/

mutual

/-- The node with `t` in place of its hidden texts that are no comments. -/
def overwrite (xs : List Exclude) (t : Text) (hidden : Bool) : Node → Node
  | .text kind s => .text kind (if hidden then t else s)
  | .comment s => .comment s
  | .instruction s => .instruction (if hidden then t else s)
  | .doctype s => .doctype (if hidden then t else s)
  | .element tag as ns => .element tag as (overwriteIn xs t (hidden || anyHolds xs (.element tag as ns)) ns)

/-- The nodes with `t` in place of their hidden texts that are no comments. -/
def overwriteIn (xs : List Exclude) (t : Text) (hidden : Bool) : List Node → List Node
  | [] => []
  | n :: ns => overwrite xs t hidden n :: overwriteIn xs t hidden ns

end

mutual

theorem agree_overwrite (xs : List Exclude) (t : Text) (hidden : Bool) : ∀ n : Node,
    Agree xs hidden n (overwrite xs t hidden n)
  | .text _ s => .text fun h => by simp [h]
  | .comment _ => .comment fun _ => rfl
  | .instruction s => .instruction fun h => by simp [h]
  | .doctype s => .doctype fun h => by simp [h]
  | .element _ _ ns => .element (agreeIn_overwriteIn xs t _ ns)

theorem agreeIn_overwriteIn (xs : List Exclude) (t : Text) (hidden : Bool) : ∀ ns : List Node,
    AgreeIn xs hidden ns (overwriteIn xs t hidden ns)
  | [] => .nil
  | n :: ns => .cons (agree_overwrite xs t hidden n) (agreeIn_overwriteIn xs t hidden ns)

end

end Excerpt.Exclude
