import Excerpt.Proofs.Page.Cleared
import Excerpt.Proofs.Page.Hidden

/-!
# Stripped trees

The lineage of a node in a tree is the way down to it: the nodes above it and the node itself, each without what is
below it. The lineages of all nodes of a tree, in document order, tell everything about it (`Node.eq_of_lineages`):
tags, attributes and texts stand in them, the order is theirs, and nesting is their length.

`Exclude.strip` leaves the lineages without a matched element on them, and no others (`lineagesIn_stripNodes`). Hence
the main statement `eq_strip_iff`: what is left of a tree is the one tree with these lineages, so that stripping once
more, or with the excludes in another order, changes nothing.
-/

namespace Excerpt

namespace Node

/-- The node without what is below it. -/
def shell : Node → Node
  | .element tag as _ => .element tag as []
  | n => n

mutual

/-- The lineages of a node and of the nodes below it, in document order, from the node on. -/
def lineages : Node → List (List Node)
  | .element tag as ns => [.element tag as []] :: (lineagesIn ns).map (.element tag as [] :: ·)
  | n => [[n]]

/-- The lineages of several nodes and of the nodes below them, in document order. -/
def lineagesIn : List Node → List (List Node)
  | [] => []
  | n :: ns => n.lineages ++ lineagesIn ns

end

/-- The lineages of the nodes below a node, which is not on them itself. -/
def lineagesBelow (n : Node) : List (List Node) :=
  lineagesIn n.children

theorem lineages_eq (n : Node) : n.lineages = [n.shell] :: n.lineagesBelow.map (n.shell :: ·) := by
  cases n <;> rfl

theorem ne_nil_of_mem_lineagesIn {line : List Node} : ∀ {ns : List Node}, line ∈ lineagesIn ns → line ≠ []
  | n :: ns, h => by
    rw [lineagesIn, lineages_eq] at h
    rcases List.mem_append.mp h with h | h
    · rcases List.mem_cons.mp h with rfl | h
      · exact List.cons_ne_nil _ _
      · obtain ⟨rest, -, rfl⟩ := List.mem_map.mp h
        exact List.cons_ne_nil _ _
    · exact ne_nil_of_mem_lineagesIn h

/-- The lineages that begin with a node and go on end where the next node of its row begins. -/
theorem takeWhile_lineages (s : Node) (ms ns : List Node) :
    ((lineagesIn ms).map (s :: ·) ++ lineagesIn ns).takeWhile (1 < ·.length) = (lineagesIn ms).map (s :: ·) := by
  have hlong : ∀ line ∈ (lineagesIn ms).map (s :: ·), decide (1 < line.length) = true := by
    intro line hline
    obtain ⟨rest, hrest, rfl⟩ := List.mem_map.mp hline
    simpa using List.length_pos_iff.mpr (ne_nil_of_mem_lineagesIn hrest)
  have hend : (lineagesIn ns).takeWhile (1 < ·.length) = [] := by
    cases ns with
    | nil => rfl
    | cons n ns =>
      rw [lineagesIn, lineages_eq]
      rfl
  rw [List.takeWhile_append_of_pos hlong, hend, List.append_nil]

mutual

/-- **A tree is told by its top and the lineages below.** -/
theorem eq_of_lineages : ∀ {n m : Node}, n.shell = m.shell → n.lineagesBelow = m.lineagesBelow → n = m
  | .element _ _ ns, .element _ _ ms, hshell, hbelow => by
    have hns : ns = ms := eq_of_lineagesIn hbelow
    rw [shell, shell, Node.element.injEq] at hshell
    rw [hshell.1, hshell.2.1, hns]
  | .element .., .text .., h, _ | .element .., .comment _, h, _ | .element .., .instruction _, h, _
  | .element .., .doctype _, h, _ => by cases h
  | .text .., m, h, _ | .comment _, m, h, _ | .instruction _, m, h, _ | .doctype _, m, h, _ => by
    cases m with
    | element => cases h
    | _ => exact h

/-- Trees in a row are told by their lineages. -/
theorem eq_of_lineagesIn : ∀ {ns ms : List Node}, lineagesIn ns = lineagesIn ms → ns = ms
  | [], [], _ => rfl
  | [], m :: ms, h | m :: ms, [], h => by
    rw [lineagesIn, lineagesIn, lineages_eq] at h
    cases h
  | n :: ns, m :: ms, h => by
    rw [lineagesIn, lineagesIn, lineages_eq, lineages_eq, List.cons_append, List.cons_append, List.cons.injEq] at h
    obtain ⟨hfirst, hrest⟩ := h
    have hshell : n.shell = m.shell := (List.cons.inj hfirst).1
    have hlines := congrArg (List.takeWhile (1 < ·.length)) hrest
    rw [lineagesBelow, lineagesBelow, takeWhile_lineages, takeWhile_lineages, hshell] at hlines
    have hbelow : n.lineagesBelow = m.lineagesBelow :=
      (List.map_inj_right fun _ _ h => (List.cons.inj h).2).mp hlines
    rw [eq_of_lineages hshell hbelow]
    rw [hbelow, hshell] at hrest
    rw [eq_of_lineagesIn (List.append_cancel_left hrest)]

end

end Node

namespace Exclude

open Node (lineages lineagesIn lineagesBelow shell)

/-! ## Stripping -/

variable {xs ys : List Exclude}

/-- Whether no node of a lineage is matched. -/
def free (xs : List Exclude) (line : List Node) : Bool :=
  line.all (!anyHolds xs ·)

theorem anyHolds_shell (xs : List Exclude) (n : Node) : anyHolds xs n.shell = anyHolds xs n := by
  cases n <;> rfl

/-- No lineage goes through a matched element. -/
theorem filter_lineages_of_holds {n : Node} (h : anyHolds xs n = true) : n.lineages.filter (free xs) = [] := by
  rw [List.filter_eq_nil_iff]
  intro line hline
  obtain ⟨rest, rfl⟩ : ∃ rest, line = n.shell :: rest := by
    rw [Node.lineages_eq] at hline
    rcases List.mem_cons.mp hline with rfl | hline
    · exact ⟨[], rfl⟩
    · obtain ⟨rest, -, rfl⟩ := List.mem_map.mp hline
      exact ⟨rest, rfl⟩
  simp [free, anyHolds_shell, h]

/-- Behind a node that is not matched, the lineages go on as they do from its children. -/
theorem filter_lineages_of_not_holds {n : Node} (h : anyHolds xs n = false) :
    n.lineages.filter (free xs) = [n.shell] :: (n.lineagesBelow.filter (free xs)).map (n.shell :: ·) := by
  have hcons : ∀ line, free xs (n.shell :: line) = free xs line := fun line => by
    rw [free, List.all_cons, anyHolds_shell, h]
    rfl
  rw [Node.lineages_eq, List.filter_cons_of_pos (by rw [hcons]; rfl), List.filter_map]
  exact congrArg (fun p => [n.shell] :: (n.lineagesBelow.filter p).map (n.shell :: ·)) (funext hcons)

theorem shell_stripNode (xs : List Exclude) (n : Node) : (stripNode xs n).shell = n.shell := by
  cases n <;> rfl

mutual

theorem lineagesBelow_stripNode (xs : List Exclude) : ∀ n : Node,
    (stripNode xs n).lineagesBelow = n.lineagesBelow.filter (free xs)
  | .element _ _ ns => lineagesIn_stripNodes xs ns
  | .text .. | .comment _ | .instruction _ | .doctype _ => rfl

/-- **The lineages that are left are those without a matched element.** -/
theorem lineagesIn_stripNodes (xs : List Exclude) : ∀ ns : List Node,
    lineagesIn (stripNodes xs ns) = (lineagesIn ns).filter (free xs)
  | [] => rfl
  | n :: ns => by
    rw [stripNodes, lineagesIn, List.filter_append, ← lineagesIn_stripNodes xs ns]
    cases h : anyHolds xs n with
    | true => rw [if_pos rfl, filter_lineages_of_holds h, List.nil_append]
    | false =>
      rw [if_neg Bool.false_ne_true, lineagesIn, Node.lineages_eq, shell_stripNode, lineagesBelow_stripNode xs n,
        filter_lineages_of_not_holds h]

end

theorem shell_strip (xs : List Exclude) (n : Node) : (strip xs n).shell = n.shell := by
  rw [strip_eq_stripNode, shell_stripNode]

theorem lineagesBelow_strip (xs : List Exclude) (n : Node) :
    (strip xs n).lineagesBelow = n.lineagesBelow.filter (free xs) := by
  rw [strip_eq_stripNode, lineagesBelow_stripNode]

theorem free_perm (h : xs.Perm ys) : free xs = free ys := by
  funext line
  have hany : anyHolds xs = anyHolds ys := funext fun n => h.any_eq
  rw [free, free, hany]

/-- Trees with the top of a node and its free lineages are what stripping leaves of it. -/
theorem eq_strip {n m : Node} (hshell : m.shell = n.shell)
    (hbelow : m.lineagesBelow = n.lineagesBelow.filter (free xs)) :
    m = strip xs n :=
  Node.eq_of_lineages (hshell.trans (shell_strip xs n).symm) (hbelow.trans (lineagesBelow_strip xs n).symm)

/-- **What stripping leaves of a tree.** It is the one tree with the same node at its top, matched or not, and below it,
in document order, the lineages on which nothing is matched: a node is left just if neither it nor a node between it and
the top is matched. Stripping again, with the same excludes in whatever order, changes nothing. -/
theorem eq_strip_iff (xs : List Exclude) (n : Node) :
    (∀ m, m = strip xs n ↔
      m.shell = n.shell ∧ m.lineagesBelow = n.lineagesBelow.filter (·.all fun a => !anyHolds xs a)) ∧
    strip xs (strip xs n) = strip xs n ∧
    ∀ ys, xs.Perm ys → strip ys n = strip xs n ∧ strip ys (strip xs n) = strip xs n := by
  have hagain : ∀ ys, xs.Perm ys → strip ys (strip xs n) = strip xs n := by
    intro ys h
    refine (eq_strip rfl ?_).symm
    rw [lineagesBelow_strip, ← free_perm h, List.filter_filter]
    simp only [Bool.and_self]
  refine ⟨fun m => ⟨?_, fun h => eq_strip h.1 h.2⟩, hagain xs (.refl xs), fun ys h => ⟨?_, hagain ys h⟩⟩
  · rintro rfl
    exact ⟨shell_strip xs n, lineagesBelow_strip xs n⟩
  · exact eq_strip (shell_strip ys n) (by rw [free_perm h]; exact lineagesBelow_strip ys n)

/-- A matched element in a matched one, one beside a comment, and a top that is matched itself. -/
theorem eq_strip_iff_nested :
    let n : Node := .element "div" [("class", .many ["ad"])] [.text .plain "a".toList,
      .element "p" [("id", .one "x")]
        [.element "div" [("class", .many ["ad", "big"])] [.element "p" [("id", .one "x")] []],
        .comment "b".toList],
      .element "ul" [] [.element "li" [("class", .many ["ad"])] [.text .plain "c".toList], .element "li" [] []]]
    let rest : Node := .element "div" [("class", .many ["ad"])] [.text .plain "a".toList,
      .element "p" [("id", .one "x")] [.comment "b".toList], .element "ul" [] [.element "li" [] []]]
    let xs : List Exclude := [⟨".ad"⟩, ⟨"b#x"⟩]
    let ys : List Exclude := [⟨"b#x"⟩, ⟨".ad"⟩]
    (rest = strip xs n ∧ xs.Perm ys) ∧ strip ys n = rest ∧ strip ys rest = rest := by
  intro n rest xs ys
  have hrest : rest = strip xs n := by
    refine ((eq_strip_iff xs n).1 rest).mpr ⟨rfl, ?_⟩
    rfl
  have hperm : xs.Perm ys := .swap _ _ _
  rw [hrest]
  exact ⟨⟨rfl, hperm⟩, (eq_strip_iff xs n).2.2 ys hperm⟩

end Exclude

end Excerpt
