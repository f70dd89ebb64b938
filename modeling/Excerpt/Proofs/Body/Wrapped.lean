import Excerpt.Proofs.Body.Growth
import Excerpt.Proofs.Body.Tags

/-!
# Lists are opened and closed

The lines of a body are `Wrapped`: a list is opened only when none is open, what is open is closed by its own tag, and
only items stand in between. Every line keeps that (`Wrapped.after`), so the place of a line among those that open and
close lists follows from the lines in front of it (`Wrapped.inside_iff`).

An item opens a list named after the element around it. One in an element without a name opens none; `emitFrom_wrapped`
is about trees in which all elements have names, as far as the place of items goes.
-/

namespace Excerpt.Body

open Builder (run)

/-! ## Wrapped lines -/

/-- Lines that open and close lists in turn, `current` being the tag of the list that is open in front of them: items
stand in the list, and other blocks, or items that do not open a list, stand outside. -/
inductive Wrapped : Option String → List Line → Prop
  | nil : Wrapped none []
  | opening (tag : String) {ls : List Line} : Wrapped (some tag) ls → Wrapped none (.opening tag :: ls)
  | closing (tag : String) {ls : List Line} : Wrapped none ls → Wrapped (some tag) (.closing tag :: ls)
  | item (tag : String) {b : Block} {ls : List Line} :
    b.kind = .list → Wrapped (some tag) ls → Wrapped (some tag) (.block b :: ls)
  | outside {b : Block} {ls : List Line} :
    (b.kind = .list → opens? none b = none) → Wrapped none ls → Wrapped none (.block b :: ls)

/-- The list that is open after a line. -/
def Line.after (current : Option String) : Line → Option String
  | opening tag => some tag
  | closing _ => none
  | block _ => current

/-- The list that is open after lines. -/
def openAfter (current : Option String) (ls : List Line) : Option String :=
  ls.foldl Line.after current

theorem wrapped_closings : ∀ current : Option String, Wrapped current (closings current)
  | none => .nil
  | some tag => .closing tag .nil

/-- The lines of a body are wrapped. -/
theorem wrapped_emitFrom (filters : List Filter) (current : Option String) (bs : List Block) :
    Wrapped current (emitFrom filters current bs) := by
  induction bs generalizing current with
  | nil => exact wrapped_closings current
  | cons b bs ih =>
    rw [emitFrom]
    cases Filter.applyAll filters b.text .body with
    | skip => exact ih current
    | stop => exact wrapped_closings current
    | none =>
      dsimp only
      split
      · rename_i hk
        have hk : b.kind = .list := beq_iff_eq.mp hk
        cases current with
        | some tag => exact .item tag hk (ih _)
        | none =>
          cases hopen : opens? none b with
          | none => exact .outside (fun _ => hopen) (ih _)
          | some tag => exact .opening tag (.item tag hk (ih _))
      · rename_i hk
        have hother : Wrapped none (.block b :: emitFrom filters none bs) :=
          .outside (fun h => absurd (beq_iff_eq.mpr h) hk) (ih none)
        cases current with
        | none => exact hother
        | some tag => exact .closing tag hother

namespace Wrapped

variable {current : Option String} {tag : String} {ls pre post : List Line} {b : Block}

/-- The lines that open and close lists come in pairs, the one that closes the open list apart. -/
theorem exists_pairs (h : Wrapped current ls) : ∃ tags : List String,
    ls.filter Line.isWrapper = closings current ++ tags.flatMap fun tag => [.opening tag, .closing tag] := by
  induction h with
  | nil => exact ⟨[], rfl⟩
  | opening tag _ ih =>
    obtain ⟨tags, ih⟩ := ih
    exact ⟨tag :: tags, congrArg (Line.opening tag :: ·) ih⟩
  | closing tag _ ih =>
    obtain ⟨tags, ih⟩ := ih
    exact ⟨tags, congrArg (Line.closing tag :: ·) ih⟩
  | item _ _ _ ih | outside _ _ ih => exact ih

/-- Behind some of the lines, the rest is wrapped. -/
theorem after (h : Wrapped current (pre ++ ls)) : Wrapped (openAfter current pre) ls := by
  induction pre generalizing current with
  | nil => exact h
  | cons l pre ih =>
    cases h with
    | opening tag h | closing tag h | item tag _ h | outside _ h => exact ih h

/-- An open list is closed behind the blocks in it. -/
theorem exists_closing (h : Wrapped (some tag) ls) : ∃ inner back,
    ls = inner ++ .closing tag :: back ∧ ∀ l ∈ inner, l.isWrapper = false := by
  generalize hcurrent : some tag = current at h
  induction h with
  | nil | opening | outside => cases hcurrent
  | closing tag' _ _ =>
    cases hcurrent
    exact ⟨[], _, rfl, by simp⟩
  | @item tag' b _ _ _ ih =>
    obtain ⟨inner, back, rfl, hinner⟩ := ih hcurrent
    exact ⟨.block b :: inner, back, rfl, List.forall_mem_cons.mpr ⟨rfl, hinner⟩⟩

end Wrapped

/-! ## Lines between an opening and its closing -/

/-- What is between the lines stands in a list of the tag: the list is opened in front of it and closed behind it, and
no list is opened or closed in between. -/
def Inside (tag : String) (pre post : List Line) : Prop :=
  ∃ front inner inner' back, pre = front ++ .opening tag :: inner ∧ post = inner' ++ .closing tag :: back ∧
    ∀ l ∈ inner ++ inner', l.isWrapper = false

theorem openAfter_of_not_wrapper {ls : List Line} (h : ∀ l ∈ ls, l.isWrapper = false) (current : Option String) :
    openAfter current ls = current := by
  induction ls with
  | nil => rfl
  | cons l ls ih =>
    rw [List.forall_mem_cons] at h
    cases l with
    | opening tag | closing tag => cases h.1
    | block b => exact ih h.2

/-- The list that is open after lines is one that they open last, or the one that was open in front of them. -/
theorem exists_opening {current : Option String} {tag : String} {ls : List Line} (h : openAfter current ls = some tag) :
    (current = some tag ∧ ∀ l ∈ ls, l.isWrapper = false) ∨
      ∃ front inner, ls = front ++ .opening tag :: inner ∧ ∀ l ∈ inner, l.isWrapper = false := by
  induction ls generalizing current with
  | nil => exact .inl ⟨h, by simp⟩
  | cons l ls ih =>
    rcases ih h with ⟨hafter, hls⟩ | ⟨front, inner, rfl, hinner⟩
    · cases l with
      | opening tag' =>
        cases hafter
        exact .inr ⟨[], ls, rfl, hls⟩
      | closing _ => cases hafter
      | block b => exact .inl ⟨hafter, List.forall_mem_cons.mpr ⟨rfl, hls⟩⟩
    · exact .inr ⟨l :: front, inner, rfl, hinner⟩

theorem Inside.openAfter {tag : String} {pre post : List Line} (h : Inside tag pre post) (current : Option String) :
    openAfter current pre = some tag := by
  obtain ⟨front, inner, inner', back, rfl, -, hinner⟩ := h
  rw [Body.openAfter, List.foldl_append]
  exact openAfter_of_not_wrapper (fun l hl => hinner l (List.mem_append_left _ hl)) (some tag)

namespace Wrapped

variable {tag : String} {pre post : List Line} {b : Block}

/-- The line of a block stands in a list of the tag just if that list is open after the lines in front of it. -/
theorem inside_iff (h : Wrapped none (pre ++ .block b :: post)) :
    Inside tag pre post ↔ openAfter none pre = some tag := by
  refine ⟨fun hin => hin.openAfter none, fun hopen => ?_⟩
  have hafter := h.after
  rw [hopen] at hafter
  obtain ⟨front, inner, hpre, hinner⟩ := (exists_opening hopen).resolve_left (by simp)
  cases hafter with
  | item _ _ hpost =>
    obtain ⟨inner', back, hback, hinner'⟩ := hpost.exists_closing
    exact ⟨front, inner, inner', back, hpre, hback, List.forall_mem_append.mpr ⟨hinner, hinner'⟩⟩

/-- What stands in a list is an item. -/
theorem kind_of_inside (h : Wrapped none (pre ++ .block b :: post)) (hin : Inside tag pre post) : b.kind = .list := by
  have hafter := h.after
  rw [hin.openAfter] at hafter
  cases hafter with
  | item _ hk _ => exact hk

/-- An item that can open a list stands in one. -/
theorem exists_inside (h : Wrapped none (pre ++ .block b :: post)) (hk : b.kind = .list)
    (hopen : opens? none b ≠ none) :
    ∃ tag, Inside tag pre post := by
  cases hafter : openAfter none pre with
  | some tag => exact ⟨tag, h.inside_iff.mpr hafter⟩
  | none =>
    have hrest := h.after
    rw [hafter] at hrest
    cases hrest with
    | outside hno _ => exact absurd (hno hk) hopen

end Wrapped

/-! ## The lines of blocks -/

/-- The blocks that lines are written for are those that the filters let through, in their order. -/
theorem filterMap_emitFrom (filters : List Filter) (current : Option String) (bs : List Block) :
    (emitFrom filters current bs).filterMap Line.block? = letThrough filters bs := by
  have hclosings : ∀ current, (closings current).filterMap Line.block? = [] := fun current => by cases current <;> rfl
  have hblock : ∀ b ls, (Line.block b :: ls).filterMap Line.block? = b :: ls.filterMap Line.block? := fun _ _ => rfl
  induction bs generalizing current with
  | nil => exact hclosings current
  | cons b bs ih =>
    rw [emitFrom, letThrough_cons]
    cases Filter.applyAll filters b.text .body with
    | skip => exact ih current
    | stop => exact hclosings current
    | none =>
      dsimp only
      split
      · rw [List.filterMap_append, hblock, ih]
        cases opens? current b <;> rfl
      · rw [List.filterMap_append, hblock, ih, hclosings, List.nil_append]

theorem mem_of_emitFrom {filters : List Filter} {current : Option String} {bs : List Block} {b : Block}
    (h : .block b ∈ emitFrom filters current bs) : b ∈ letThrough filters bs := by
  rw [← filterMap_emitFrom filters current]
  exact List.mem_filterMap.mpr ⟨_, h, rfl⟩

/-! ## The tags of lists -/

/-- The node is an element of a tag that has a child of another tag. -/
structure Holds (e : Node) (tag childTag : String) : Prop where
  tag : e.tag? = some tag
  child : ∃ n ∈ e.children, n.tag? = some childTag

/-- All elements of the tree have names. -/
def HasNames (n : Node) : Prop :=
  ∀ e ∈ n.elements, e.tag? ≠ some ""

mutual

theorem leaf_in_node {xs : List Exclude} {parentTag : String} {l : Leaf} : ∀ {n : Node}, l ∈ leavesOf xs parentTag n →
    l.tag = textTag ∨ (l.parentTag = parentTag ∧ n.tag? = some l.tag) ∨ ∃ e ∈ n.elements, Holds e l.parentTag l.tag
  | .comment _, hl => by cases hl
  | .text _ s, hl | .instruction s, hl | .doctype s, hl => by
    rw [leavesOf, List.mem_singleton] at hl
    exact .inl (hl ▸ rfl)
  | .element tag as ns, hl => by
    rw [leavesOf] at hl
    split at hl
    · cases hl
    · split at hl
      · rw [List.mem_singleton.mp hl]
        exact .inr (.inl ⟨rfl, rfl⟩)
      · rcases leaf_in_nodes hl with h | ⟨hparent, hchild⟩ | ⟨e, he, hholds⟩
        · exact .inl h
        · exact .inr (.inr ⟨.element tag as ns, List.mem_cons_self, hparent ▸ rfl, hchild⟩)
        · exact .inr (.inr ⟨e, List.mem_cons_of_mem _ he, hholds⟩)

/-- A leaf that is no text is one of the nodes, or an element among them has it as a child. -/
theorem leaf_in_nodes {xs : List Exclude} {parentTag : String} {l : Leaf} :
    ∀ {ns : List Node}, l ∈ leavesIn xs parentTag ns →
    l.tag = textTag ∨ (l.parentTag = parentTag ∧ ∃ n ∈ ns, n.tag? = some l.tag) ∨
      ∃ e ∈ Node.elementsIn ns, Holds e l.parentTag l.tag
  | n :: ns, hl => by
    rw [Node.elementsIn]
    rcases List.mem_append.mp hl with hl | hl
    · rcases leaf_in_node hl with h | ⟨hparent, htag⟩ | ⟨e, he, hholds⟩
      · exact .inl h
      · exact .inr (.inl ⟨hparent, n, List.mem_cons_self, htag⟩)
      · exact .inr (.inr ⟨e, List.mem_append_left _ he, hholds⟩)
    · rcases leaf_in_nodes hl with h | ⟨hparent, n', hn', htag⟩ | ⟨e, he, hholds⟩
      · exact .inl h
      · exact .inr (.inl ⟨hparent, n', List.mem_cons_of_mem _ hn', htag⟩)
      · exact .inr (.inr ⟨e, List.mem_append_right _ he, hholds⟩)

end

/-- A leaf of a walk that is no text is a child of an element of the tree, whose tag it has noted. -/
theorem leaf_in_tree {xs : List Exclude} {l : Leaf} {n : Node} (hl : l ∈ leavesIn xs (n.tag?.getD "") n.children) :
    l.tag = textTag ∨ ∃ e ∈ n.elements, Holds e l.parentTag l.tag := by
  cases n with
  | text | comment | instruction | doctype => cases hl
  | element tag as ns =>
    rcases leaf_in_nodes hl with h | ⟨hparent, hchild⟩ | ⟨e, he, hholds⟩
    · exact .inl h
    · exact .inr ⟨.element tag as ns, List.mem_cons_self, hparent ▸ rfl, hchild⟩
    · exact .inr ⟨e, List.mem_cons_of_mem _ he, hholds⟩

section Runs

variable {calls : List (List Exclude × Node)}

/-- The list tag of a block is the tag of an element of the trees that has an element of the block's tag as a child. -/
def Housed (calls : List (List Exclude × Node)) (b : Block) : Prop :=
  ∀ tag, b.listTag = some tag → ∃ c ∈ calls, ∃ e ∈ c.2.elements, Holds e tag b.tag

theorem housed_of_grown {b b' : Block} (h : Grown b b') (hb : Housed calls b) : Housed calls b' := by
  rw [Housed, h.listTag, h.tag]
  exact hb

theorem housed_block {c : List Exclude × Node} (hc : c ∈ calls) {l : Leaf}
    (hl : l ∈ leavesIn c.1 (c.2.tag?.getD "") c.2.children) (isFirst inline : Bool) (line : Text) :
    Housed calls (l.block isFirst inline line) := by
  have htag := tag_block l isFirst inline line
  intro tag hlist
  have hkind : (l.block isFirst inline line).kind = .list ∧ l.parentTag = tag := by
    simp only [Leaf.block] at hlist ⊢
    split at hlist
    · rename_i hk
      exact ⟨beq_iff_eq.mp hk, Option.some.inj hlist⟩
    · cases hlist
  rcases leaf_in_tree hl with htext | ⟨e, he, hholds⟩
  · -- A text by itself is no list item.
    rcases (named_block l isFirst inline line).list hkind.1 with h | h | h <;>
      exact absurd (htext.symm.trans (htag.symm.trans h)) (by decide)
  · rw [htag, ← hkind.2]
    exact ⟨c, hc, e, he, hholds⟩

theorem housed_run : ∀ b ∈ (run calls).blocks, Housed calls b := by
  refine Builder.forall_blocks (Builder.Invariant.run fun c hc l hl => ?_)
  exact {
    fresh := by
      rintro _ ⟨line, -, isFirst, inline, rfl⟩ -
      exact housed_block hc hl isFirst inline line
    close := fun h => housed_of_grown (Grown.close _) h
    add := fun _ h => housed_of_grown (Grown.add _ _) h
    addBelow := fun _ h => housed_of_grown (Grown.addBelow _ _) h
    promote := fun b h => housed_of_grown (Grown.promote b _) h }

theorem wellPlaced_run : ∀ b ∈ (run calls).blocks, Builder.WellPlaced b :=
  Builder.forall_blocks (Builder.Invariant.run fun _ _ l _ => Builder.wellPlaced_invariant l)

/-- In trees whose elements have names every item can open a list. -/
theorem opens?_ne_none (hnames : ∀ c ∈ calls, HasNames c.2) {b : Block} (hb : b ∈ (run calls).blocks)
    (hk : b.kind = .list) :
    opens? none b ≠ none := by
  obtain ⟨tag, htag⟩ := Option.isSome_iff_exists.mp ((wellPlaced_run b hb).listTag.mpr hk)
  obtain ⟨c, hc, e, he, hholds⟩ := housed_run b hb tag htag
  have hne : tag ≠ "" := fun h => hnames c hc e he (h ▸ hholds.tag)
  simp [opens?, htag, hne]

end Runs

/-! ## Every list is closed -/

/-- **Lists are opened and closed.** In the lines of a body, whatever the filters, the lines that open and close lists
alternate, beginning with one that opens, and each that closes names the tag of the one before it; there is one line for
each block that the filters let through. What stands in a list is an item; and if all elements of the trees have names,
every item stands in a list. -/
theorem emitFrom_wrapped (calls : List (List Exclude × Node)) (filters : List Filter) :
    let bs := calls.foldl (fun bs c => collect c.1 bs c.2) []
    let ls := emitFrom filters none bs
    ls.map Line.text = linesFrom filters none bs ∧
      ls.filterMap Line.block? = letThrough filters bs ∧
      (∃ tags : List String, ls.filter Line.isWrapper = tags.flatMap fun tag => [.opening tag, .closing tag]) ∧
      (∀ pre b post, ls = pre ++ .block b :: post → (∃ tag, Inside tag pre post) → b.kind = .list) ∧
      ((∀ c ∈ calls, HasNames c.2) →
        ∀ pre b post, ls = pre ++ .block b :: post → b.kind = .list → ∃ tag, Inside tag pre post) := by
  intro bs ls
  have hwrapped : Wrapped none ls := wrapped_emitFrom filters none bs
  refine ⟨map_text_emitFrom filters none bs, filterMap_emitFrom filters none bs, hwrapped.exists_pairs, ?_, ?_⟩
  · rintro pre b post hls ⟨tag, hin⟩
    exact (hls ▸ hwrapped).kind_of_inside hin
  · intro hnames pre b post hls hk
    have hline : .block b ∈ ls := hls ▸ List.mem_append_right _ List.mem_cons_self
    have hmem : b ∈ bs := (letThrough_sublist filters bs).subset (mem_of_emitFrom hline)
    exact (hls ▸ hwrapped).exists_inside hk (opens?_ne_none hnames (Builder.blocks_run calls ▸ hmem) hk)

/-- Two pages with a list each; the body is stopped in the second list. -/
theorem emitFrom_wrapped_stopped :
    let item (t : String) : Node := .element "li" [] [.text .plain t.toList]
    let calls : List (List Exclude × Node) :=
      [([], .element "div" [] [.element "ul" [] [item "a", item "b"], .element "p" [] [.text .plain "c".toList]]),
        ([], .element "ol" [] [item "d", item "More", item "e"])]
    let filters : List Filter := [⟨"More", .body, true⟩]
    let bs := calls.foldl (fun bs c => collect c.1 bs c.2) []
    (∀ c ∈ calls, HasNames c.2) ∧
      Text.join ['\n'] ((emitFrom filters none bs).map Line.text) =
        "<p><ul>\n<li>a\n<li>b\n</ul></p>\n<p>c</p>\n<p><ol>\n<li>d\n</ol></p>".toList ∧
      ∀ pre b post, emitFrom filters none bs = pre ++ .block b :: post → b.kind = .list →
          ∃ tag, Inside tag pre post := by
  intro item calls filters bs
  have hnames : ∀ c ∈ calls, ∀ e ∈ c.2.elements, e.tag? ≠ some "" := by decide
  exact ⟨hnames, by decide, (emitFrom_wrapped calls filters).2.2.2.2 hnames⟩

end Excerpt.Body
