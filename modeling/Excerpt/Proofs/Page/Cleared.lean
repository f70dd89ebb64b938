import Excerpt.Rule.Exclude
import Mathlib.Data.List.Basic

/-!
# Taking out elements one after the other

`Exclude.strip` goes through a list of the elements below a node that is made beforehand, and notes the paths of those
that are taken out; an element inside one of these is passed over. What is left is what one walk down the tree leaves
that does not enter a matched element: `Exclude.strip_eq_stripNode`.

The induction is on the trees in a row. Behind a part of the row, the noted paths are those from before with some that
go through this part (`Exclude.Clears`); paths that go through earlier children touch nothing here (`Exclude.Earlier`).
-/

namespace Excerpt

open Node (Path located locatedIn through without withoutIn)

namespace Exclude

mutual

/-- The node with the matched elements below it taken out, each when it is met on the way down. -/
def stripNode (xs : List Exclude) : Node → Node
  | .element tag as ns => .element tag as (stripNodes xs ns)
  | n => n

/-- The nodes that are not matched, each with the matched elements below it taken out. -/
def stripNodes (xs : List Exclude) : List Node → List Node
  | [] => []
  | n :: ns => if anyHolds xs n then stripNodes xs ns else stripNode xs n :: stripNodes xs ns

end

/-! ## Noted paths -/

/-- Whether paths go through children in front of the one with the index. -/
def Earlier (i : Nat) (ps : List Path) : Prop :=
  ∀ p ∈ ps, ∃ j r, p = j :: r ∧ j < i

/-- Whether paths go through the child with the index or through later ones. -/
def Later (i : Nat) (ps : List Path) : Prop :=
  ∀ p ∈ ps, ∃ j r, p = j :: r ∧ i ≤ j

section Paths

variable {i : Nat} {ps qs : List Path}

theorem Earlier.succ (h : Earlier i ps) : Earlier (i + 1) ps := fun p hp => by
  obtain ⟨j, r, rfl, hj⟩ := h p hp
  exact ⟨j, r, rfl, by omega⟩

theorem Earlier.append (hp : Earlier i ps) (hq : Earlier i qs) : Earlier i (ps ++ qs) := fun p h =>
  (List.mem_append.mp h).elim (hp p) (hq p)

theorem earlier_map (i : Nat) (ps : List Path) : Earlier (i + 1) (ps.map (i :: ·)) := fun p hp => by
  obtain ⟨r, -, rfl⟩ := List.mem_map.mp hp
  exact ⟨i, r, rfl, by omega⟩

theorem Later.of_succ (h : Later (i + 1) ps) : Later i ps := fun p hp => by
  obtain ⟨j, r, rfl, hj⟩ := h p hp
  exact ⟨j, r, rfl, by omega⟩

theorem Later.append (hp : Later i ps) (hq : Later i qs) : Later i (ps ++ qs) := fun p h =>
  (List.mem_append.mp h).elim (hp p) (hq p)

theorem later_map (i : Nat) (ps : List Path) : Later i (ps.map (i :: ·)) := fun p hp => by
  obtain ⟨r, -, rfl⟩ := List.mem_map.mp hp
  exact ⟨i, r, rfl, by omega⟩

theorem Earlier.through_eq (h : Earlier i ps) : through i ps = [] := by
  rw [through, List.filterMap_eq_nil_iff]
  intro p hp
  obtain ⟨j, r, rfl, hj⟩ := h p hp
  exact if_neg (by omega)

theorem Later.through_eq (h : Later (i + 1) ps) : through i ps = [] := by
  rw [through, List.filterMap_eq_nil_iff]
  intro p hp
  obtain ⟨j, r, rfl, hj⟩ := h p hp
  exact if_neg (by omega)

theorem through_map (i : Nat) (ps : List Path) : through i (ps.map (i :: ·)) = ps := by
  induction ps with
  | nil => rfl
  | cons p ps ih =>
    have hfirst : through i ((i :: p) :: ps.map (i :: ·)) = p :: through i (ps.map (i :: ·)) :=
      List.filterMap_cons_some (if_pos rfl)
    rw [List.map_cons, hfirst, ih]

/-- Of paths through earlier children, this one and later ones, those through this one are the middle ones. -/
theorem through_append {front back : List Path} (hfront : Earlier i front) (hback : Later (i + 1) back)
    (ps : List Path) :
    through i (front ++ ps.map (i :: ·) ++ back) = ps := by
  have hsplit : ∀ a b : List Path, through i (a ++ b) = through i a ++ through i b := fun a b => List.filterMap_append
  rw [hsplit, hsplit, hfront.through_eq, hback.through_eq, through_map, List.nil_append, List.append_nil]

/-- No path through an earlier child, to something inside this one or through a later one is the path of this one. -/
theorem not_contains_self {front back : List Path} (hfront : Earlier i front) (hinside : Later 0 ps)
    (hback : Later (i + 1) back) : (front ++ ps.map (i :: ·) ++ back).contains [i] = false := by
  rw [← Bool.not_eq_true, List.contains_iff_mem, List.mem_append, List.mem_append]
  rintro ((hmem | hmem) | hmem)
  · obtain ⟨j, r, hj, hlt⟩ := hfront _ hmem
    have := (List.cons.inj hj).1
    omega
  · obtain ⟨r, hr, heq⟩ := List.mem_map.mp hmem
    obtain ⟨j, s, rfl, -⟩ := hinside r hr
    cases heq
  · obtain ⟨j, r, hj, hle⟩ := hback _ hmem
    have := (List.cons.inj hj).1
    omega

/-- An earlier path does not lead to what lies through this child. -/
theorem Earlier.any_eq_false (h : Earlier i ps) (q : Path) : ps.any (·.isPrefixOf (i :: q)) = false := by
  rw [List.any_eq_false]
  intro p hp
  obtain ⟨j, r, rfl, hj⟩ := h p hp
  have hne : j ≠ i := by omega
  simp [List.isPrefixOf, hne]

end Paths

/-! ## The loop -/

section Loop

variable {xs : List Exclude} {i : Nat} {gone : List Path}

/-- A matched element that nothing covers is noted. -/
theorem clear_of_holds {n : Node} (hgone : Earlier i gone) (h : anyHolds xs n = true) :
    clear xs gone ([i], n) = gone ++ [[i]] := by
  rw [clear, hgone.any_eq_false, if_neg Bool.false_ne_true, if_pos h]

theorem clear_of_not_holds {p : Path} {n : Node} (h : anyHolds xs n = false) : clear xs gone (p, n) = gone := by
  rw [clear, h, if_neg Bool.false_ne_true, ite_self]

/-- Once an element is noted, all inside it is passed over. -/
theorem foldl_clear_covered (h : [i] ∈ gone) : ∀ ls : List (Path × Node),
    (ls.map fun (p, m) => (i :: p, m)).foldl (clear xs) gone = gone
  | [] => rfl
  | (p, n) :: ls => by
    have hcovered : gone.any (·.isPrefixOf (i :: p)) = true :=
      List.any_eq_true.mpr ⟨[i], h, by simp [List.isPrefixOf]⟩
    rw [List.map_cons, List.foldl_cons, clear, if_pos hcovered, foldl_clear_covered h ls]

/-- Inside an element that is not noted, the loop goes on as if the element were the whole tree. -/
theorem foldl_clear_inside (hgone : Earlier i gone) : ∀ (ls : List (Path × Node)) (ps : List Path),
    (ls.map fun (p, m) => (i :: p, m)).foldl (clear xs) (gone ++ ps.map (i :: ·)) =
      gone ++ (ls.foldl (clear xs) ps).map (i :: ·)
  | [], _ => rfl
  | (p, n) :: ls, ps => by
    have hany : (gone ++ ps.map (i :: ·)).any (·.isPrefixOf (i :: p)) = ps.any (·.isPrefixOf p) := by
      rw [List.any_append, hgone.any_eq_false, Bool.false_or, List.any_map]
      exact congrArg ps.any (funext fun q => by simp [List.isPrefixOf])
    have hstep : clear xs (gone ++ ps.map (i :: ·)) (i :: p, n) = gone ++ (clear xs ps (p, n)).map (i :: ·) := by
      rw [clear, clear, hany]
      cases ps.any (·.isPrefixOf p) with
      | true => rfl
      | false => cases anyHolds xs n <;> simp
    rw [List.map_cons, List.foldl_cons, List.foldl_cons, hstep, foldl_clear_inside hgone ls]

/-- Only elements are matched. -/
theorem isElement_of_anyHolds {n : Node} (h : anyHolds xs n = true) : n.isElement = true := by
  cases n with
  | element => rfl
  | _ => simp [anyHolds, holds] at h

theorem locatedIn_cons (i : Nat) (n : Node) (ns : List Node) :
    locatedIn i (n :: ns) = locatedIn i [n] ++ locatedIn (i + 1) ns := by
  rw [locatedIn, locatedIn, locatedIn, List.append_nil]

/-- Of a matched node and all that is inside, the loop notes the node. -/
theorem foldl_clear_matched {n : Node} (hgone : Earlier i gone) (h : anyHolds xs n = true) :
    (locatedIn i [n]).foldl (clear xs) gone = gone ++ [[i]] := by
  rw [locatedIn, locatedIn, List.append_nil, if_pos (isElement_of_anyHolds h), List.foldl_cons,
    clear_of_holds hgone h, foldl_clear_covered (List.mem_append_right gone List.mem_cons_self)]

/-- Of any other node, it notes what it would note if the node were the whole tree. -/
theorem foldl_clear_unmatched (hgone : Earlier i gone) : ∀ {n : Node}, anyHolds xs n = false →
    (locatedIn i [n]).foldl (clear xs) gone = gone ++ (n.located.foldl (clear xs) []).map (i :: ·)
  | .element tag as ns, h => by
    have hinside := @foldl_clear_inside xs i gone hgone (Node.element tag as ns).located []
    rw [List.map_nil, List.append_nil] at hinside
    rw [locatedIn, locatedIn, List.append_nil, Node.isElement, if_pos rfl, List.foldl_cons,
      clear_of_not_holds h, hinside]
  | .text .., _ | .comment _, _ | .instruction _, _ | .doctype _, _ => (List.append_nil gone).symm

/-- What the loop does to nodes in a row, the first being the child with the index `i`: it adds paths through these
nodes, and without the nodes at them the walk down is left. -/
def Clears (xs : List Exclude) (i : Nat) (ns : List Node) : Prop :=
  ∀ gone, Earlier i gone → ∃ new, (locatedIn i ns).foldl (clear xs) gone = gone ++ new ∧ Later i new ∧
    withoutIn (gone ++ new) i ns = stripNodes xs ns

/-- A matched node in front of a row is taken out, and what comes behind is as in the row. -/
theorem Clears.cons_matched {n : Node} {ns : List Node} (h : anyHolds xs n = true) (hrow : Clears xs (i + 1) ns) :
    Clears xs i (n :: ns) := by
  intro gone hgone
  obtain ⟨new, hloop, hlater, hleft⟩ := hrow (gone ++ [[i]]) (hgone.succ.append (earlier_map i [[]]))
  refine ⟨[i] :: new, ?_, (later_map i [[]]).append hlater.of_succ, ?_⟩
  · rw [locatedIn_cons, List.foldl_append, foldl_clear_matched hgone h, hloop, List.append_assoc]
    rfl
  · have hmem : (gone ++ [i] :: new).contains [i] = true := by simp
    rw [withoutIn, if_pos hmem, stripNodes, h, if_pos rfl, ← hleft, List.append_assoc]
    rfl

/-- A node that is not matched stays in front of a row, with what the loop leaves inside it. -/
theorem Clears.cons_unmatched {n : Node} {ns : List Node} (h : anyHolds xs n = false)
    (hnode : n.without (n.located.foldl (clear xs) []) = stripNode xs n)
    (hinside : Later 0 (n.located.foldl (clear xs) [])) (hrow : Clears xs (i + 1) ns) : Clears xs i (n :: ns) := by
  intro gone hgone
  obtain ⟨new, hloop, hlater, hleft⟩ := hrow _ (hgone.succ.append (earlier_map i (n.located.foldl (clear xs) [])))
  refine ⟨(n.located.foldl (clear xs) []).map (i :: ·) ++ new, ?_, (later_map i _).append hlater.of_succ, ?_⟩
  · rw [locatedIn_cons, List.foldl_append, foldl_clear_unmatched hgone h, hloop, List.append_assoc]
  · rw [← List.append_assoc, withoutIn, not_contains_self hgone hinside hlater, if_neg Bool.false_ne_true, stripNodes,
      h, if_neg Bool.false_ne_true, hleft, through_append hgone hlater, hnode]

mutual

theorem without_cleared (xs : List Exclude) : ∀ n : Node,
    n.without (n.located.foldl (clear xs) []) = stripNode xs n ∧ Later 0 (n.located.foldl (clear xs) [])
  | .element tag as ns => by
    obtain ⟨new, hloop, hlater, hleft⟩ := clears xs 0 ns [] (fun _ h => by cases h)
    rw [List.nil_append] at hloop hleft
    rw [located, hloop, without, hleft]
    exact ⟨rfl, hlater⟩
  | .text .. | .comment _ | .instruction _ | .doctype _ => ⟨rfl, fun _ h => by cases h⟩

theorem clears (xs : List Exclude) : ∀ (i : Nat) (ns : List Node), Clears xs i ns
  | _, [] => fun gone _ => ⟨[], (List.append_nil gone).symm, (fun _ h => by cases h), rfl⟩
  | i, n :: ns => by
    have hrow := clears xs (i + 1) ns
    obtain ⟨hnode, hinside⟩ := without_cleared xs n
    cases h : anyHolds xs n with
    | true => exact .cons_matched h hrow
    | false => exact .cons_unmatched h hnode hinside hrow

end

end Loop

mutual

theorem stripNode_nil : ∀ n : Node, stripNode [] n = n
  | .element tag as ns => congrArg (Node.element tag as) (stripNodes_nil ns)
  | .text .. | .comment _ | .instruction _ | .doctype _ => rfl

theorem stripNodes_nil : ∀ ns : List Node, stripNodes [] ns = ns
  | [] => rfl
  | n :: ns => congrArg₂ List.cons (stripNode_nil n) (stripNodes_nil ns)

end

/-- **Going through the elements one after the other leaves what a walk down the tree leaves.** -/
theorem strip_eq_stripNode (xs : List Exclude) (n : Node) : strip xs n = stripNode xs n := by
  rw [strip]
  cases xs with
  | nil => exact (stripNode_nil n).symm
  | cons x xs => exact (without_cleared (x :: xs) n).1

end Exclude

end Excerpt
