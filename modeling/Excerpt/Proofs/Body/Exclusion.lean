import Excerpt.Body.Markup
import Excerpt.Body.Summary
import Excerpt.Proofs.Body.Reading
import Excerpt.Proofs.Page.Hidden

/-!
# Excluded texts in a body

The walk passes over matched elements, but a leaf is read whole. The hidden texts in the leaves that the walk meets are
the exposed ones (`exposed`).

* Trees that agree and expose nothing have the same leaves (`agree_leavesIn`).
* Overwriting hidden texts with a letter adds one letter to the leaves for each exposed text (`letters_leavesIn`), and
  blocks hold all letters of their leaves.

Hence the main statement `collect_agree_iff`: the blocks do not depend on the hidden texts of a tree exactly if it
exposes none.
-/

namespace Excerpt.Body

open Exclude (Agree AgreeIn anyHolds hiddenStrings hiddenStringsIn overwrite overwriteIn)
open Node (blockPart blockParts)

mutual

/-- The hidden texts that the walk reads: those in the leaves that it meets. -/
def exposed (xs : List Exclude) : Node → List Text
  | .element tag as ns =>
    if anyHolds xs (.element tag as ns) then []
    else if isLeaf tag ns then hiddenStringsIn xs false ns
    else exposedIn xs ns
  | _ => []

/-- The hidden texts in several nodes that the walk reads. -/
def exposedIn (xs : List Exclude) : List Node → List Text
  | [] => []
  | n :: ns => exposed xs n ++ exposedIn xs ns

end

/-! ## Trees that agree -/

variable {xs : List Exclude} {hidden : Bool}

theorem agree_isElement {n n' : Node} (h : Agree xs hidden n n') : n'.isElement = n.isElement := by
  cases h <;> rfl

theorem agree_isStrongElement {n n' : Node} (h : Agree xs hidden n n') : isStrongElement n' = isStrongElement n := by
  cases h <;> rfl

theorem agree_isPassedOver {n n' : Node} (h : Agree xs false n n') : isPassedOver n' = isPassedOver n := by
  cases h with
  | element => rfl
  | text h | comment h | instruction h | doctype h =>
    cases h rfl
    rfl

theorem agree_isLeaf (tag : String) {ns ns' : List Node} (h : AgreeIn xs hidden ns ns') :
    isLeaf tag ns' = isLeaf tag ns := by
  cases h with
  | nil => rfl
  | cons hn ht =>
    cases ht with
    | nil => rw [isLeaf, isLeaf, agree_isElement hn]
    | cons => rfl

theorem isStrong_eq (tag : String) (as : Attrs) (ns : List Node) : isStrong (.element tag as ns) =
    (isStrongTag tag || (tag == "p" && ((ns.find? (!isPassedOver ·)).map isStrongElement).getD false)) := by
  rw [isStrong]
  cases ns.find? (!isPassedOver ·) <;> rfl

/-- What a paragraph begins with is settled outside matched elements. -/
theorem agree_find? : ∀ {ns ns' : List Node}, AgreeIn xs false ns ns' →
    (ns'.find? (!isPassedOver ·)).map isStrongElement = (ns.find? (!isPassedOver ·)).map isStrongElement
  | _, _, .nil => rfl
  | n :: ns, n' :: ns', .cons h t => by
    rw [List.find?_cons, List.find?_cons, agree_isPassedOver h]
    cases !isPassedOver n with
    | true => exact congrArg some (agree_isStrongElement h)
    | false => exact agree_find? t

theorem agree_isStrong {tag : String} {as : Attrs} {ns ns' : List Node} (h : AgreeIn xs false ns ns') :
    isStrong (.element tag as ns') = isStrong (.element tag as ns) := by
  rw [isStrong_eq, isStrong_eq, agree_find? h]

mutual

theorem agree_leavesOf (parentTag : String) : ∀ {n n' : Node}, Agree xs false n n' → exposed xs n = [] →
    leavesOf xs parentTag n' = leavesOf xs parentTag n
  | _, _, .text h, _ | _, _, .instruction h, _ | _, _, .doctype h, _ => by
    cases h rfl
    rfl
  | _, _, .comment _, _ => rfl
  | .element tag as ns, .element _ _ ns', .element h, he => by
    rw [exposed] at he
    rw [leavesOf, leavesOf, Exclude.anyHolds_children xs tag as ns' ns]
    cases hx : anyHolds xs (.element tag as ns) with
    | true => rfl
    | false =>
      rw [hx] at h he
      simp only [Bool.false_eq_true, if_false, agree_isLeaf tag h] at he ⊢
      cases hl : isLeaf tag ns with
      | true =>
        rw [hl] at he
        simp only [if_true, Node.blockText] at he ⊢
        rw [Exclude.agree_blockParts h he, agree_isStrong h]
      | false =>
        rw [hl] at he
        exact agree_leavesIn tag h he

/-- Trees that agree and expose nothing have the same leaves. -/
theorem agree_leavesIn (parentTag : String) : ∀ {ns ns' : List Node}, AgreeIn xs false ns ns' → exposedIn xs ns = [] →
    leavesIn xs parentTag ns' = leavesIn xs parentTag ns
  | _, _, .nil, _ => rfl
  | _, _, .cons h t, he => by
    rw [exposedIn, List.append_eq_nil_iff] at he
    rw [leavesIn, leavesIn, agree_leavesOf parentTag h he.1, agree_leavesIn parentTag t he.2]

end

/-! ## Letters of overwritten trees -/

/-- The reading that keeps one letter. -/
def letterX : Reading :=
  Reading.letters (· == 'x') (by decide)

theorem letterX_append (a b : Text) : letterX.text (a ++ b) = letterX.text a ++ letterX.text b :=
  Reading.text_append b trivial

mutual

theorem letters_blockPart (hidden : Bool) : ∀ n : Node,
    (letterX.text (overwrite xs ['x'] hidden n).blockPart).length =
      (letterX.text (overwrite xs [] hidden n).blockPart).length + (hiddenStrings xs hidden n).length
  | .text _ s | .instruction s | .doctype s => by cases hidden <;> rfl
  | .comment _ => rfl
  | .element tag as ns => by
    rw [overwrite, overwrite, blockPart, blockPart, hiddenStrings, letterX_append, letterX_append, List.length_append,
      List.length_append, letters_blockParts _ ns, Nat.add_assoc]

/-- A letter in place of each hidden text. -/
theorem letters_blockParts (hidden : Bool) : ∀ ns : List Node,
    (letterX.text (blockParts (overwriteIn xs ['x'] hidden ns))).length =
      (letterX.text (blockParts (overwriteIn xs [] hidden ns))).length + (hiddenStringsIn xs hidden ns).length
  | [] => rfl
  | n :: ns => by
    rw [overwriteIn, overwriteIn, blockParts, blockParts, hiddenStringsIn, letterX_append, letterX_append,
      List.length_append, List.length_append, List.length_append, letters_blockPart hidden n,
      letters_blockParts hidden ns]
    omega

end

/-- The letters in the leaves of nodes. -/
def leafLetters (xs : List Exclude) (parentTag : String) (ns : List Node) : Nat :=
  ((leavesIn xs parentTag ns).flatMap (letterX.text ·.text)).length

theorem leafLetters_cons (parentTag : String) (n : Node) (ns : List Node) : leafLetters xs parentTag (n :: ns) =
    ((leavesOf xs parentTag n).flatMap (letterX.text ·.text)).length + leafLetters xs parentTag ns := by
  rw [leafLetters, leavesIn, List.flatMap_append, List.length_append, leafLetters]

mutual

theorem letters_leavesOf (parentTag : String) : ∀ n : Node,
    ((leavesOf xs parentTag (overwrite xs ['x'] false n)).flatMap (letterX.text ·.text)).length =
      ((leavesOf xs parentTag (overwrite xs [] false n)).flatMap (letterX.text ·.text)).length + (exposed xs n).length
  | .text _ _ | .instruction _ | .doctype _ | .comment _ => rfl
  | .element tag as ns => by
    rw [overwrite, overwrite, exposed, leavesOf, leavesOf,
      Exclude.anyHolds_children xs tag as (overwriteIn xs ['x'] _ ns) ns,
      Exclude.anyHolds_children xs tag as (overwriteIn xs [] _ ns) ns]
    cases hx : anyHolds xs (.element tag as ns) with
    | true => rfl
    | false =>
      simp only [Bool.false_eq_true, if_false, Bool.or_false,
        agree_isLeaf tag (Exclude.agreeIn_overwriteIn xs _ false ns)]
      cases isLeaf tag ns with
      | true =>
        simp only [if_true, List.flatMap_singleton]
        exact letters_blockParts false ns
      | false => exact letters_leavesIn tag ns

/-- A letter in place of each hidden text adds a letter to the leaves for each exposed one. -/
theorem letters_leavesIn (parentTag : String) : ∀ ns : List Node,
    leafLetters xs parentTag (overwriteIn xs ['x'] false ns) =
      leafLetters xs parentTag (overwriteIn xs [] false ns) + (exposedIn xs ns).length
  | [] => rfl
  | n :: ns => by
    rw [overwriteIn, overwriteIn, exposedIn, leafLetters_cons, leafLetters_cons, List.length_append,
      letters_leavesOf parentTag n, letters_leavesIn parentTag ns]
    omega

end

/-- The blocks of a tree hold the letters of its leaves. -/
theorem letters_collect (xs : List Exclude) (tag : String) (as : Attrs) (ns : List Node) :
    ((collect xs [] (.element tag as ns)).flatMap (letterX.text ·.text)).length = leafLetters xs tag ns := by
  have hall : letterX.Holds (collect xs [] (.element tag as ns)).reverse _ :=
    Reading.holds_collect (fun _ _ _ _ => trivial) Reading.holds_nil
  have h := hall.2
  rw [List.reverse_reverse] at h
  rw [h]
  rfl

/-! ## Dependence on hidden texts -/

/-- **Which trees keep excluded texts out of the body**: the blocks below an element, and so its markup and its summary,
are the same for all hidden texts exactly if the walk reads none of them. -/
theorem collect_agree_iff (xs : List Exclude) (tag : String) (as : Attrs) (ns : List Node) :
    (∀ ns', AgreeIn xs false ns ns' → ∀ blocks,
      collect xs blocks (.element tag as ns') = collect xs blocks (.element tag as ns) ∧
      (∀ filters, render filters (collect xs blocks (.element tag as ns')) =
        render filters (collect xs blocks (.element tag as ns))) ∧
      ∀ filters least greatest, summarize filters least greatest (collect xs blocks (.element tag as ns')) =
        summarize filters least greatest (collect xs blocks (.element tag as ns))) ↔
    exposedIn xs ns = [] := by
  constructor
  · intro h
    have hx := (h _ (Exclude.agreeIn_overwriteIn xs ['x'] false ns) []).1
    have hn := (h _ (Exclude.agreeIn_overwriteIn xs [] false ns) []).1
    have hl : leafLetters xs tag (overwriteIn xs ['x'] false ns) =
        leafLetters xs tag (overwriteIn xs [] false ns) + (exposedIn xs ns).length := letters_leavesIn tag ns
    rw [← letters_collect xs tag as, ← letters_collect xs tag as, hx, hn] at hl
    exact List.length_eq_zero_iff.mp (by omega)
  · intro he ns' ha blocks
    have hc : collect xs blocks (.element tag as ns') = collect xs blocks (.element tag as ns) := by
      have hl := agree_leavesIn tag ha he
      simp only [collect, Node.tag?, Node.children, Option.getD_some, hl]
    rw [hc]
    exact ⟨rfl, fun _ => rfl, fun _ _ _ => rfl⟩

/-- A paragraph is read with the excluded element in it, so the body depends on the text there. -/
theorem collect_reads_excluded : ¬ ∀ xs tag as ns ns', AgreeIn xs false ns ns' →
    collect xs [] (.element tag as ns') = collect xs [] (.element tag as ns) := by
  intro h
  let paragraph (ad : Text) : Node :=
    .element "p" [] [.text .plain "Text".toList, .element "span" [("class", .many ["ad"])] [.text .plain ad]]
  have ha : AgreeIn [⟨"span.ad"⟩] false [paragraph "Buy".toList] [paragraph []] := by
    refine .cons (.element (.cons (.text fun _ => rfl) (.cons (.element ?_) .nil))) .nil
    exact .cons (.text fun hf => absurd hf (by decide)) .nil
  exact absurd (h _ "div" [] _ _ ha) (by decide)

end Excerpt.Body
