import Excerpt.Body.Markup
import Excerpt.Proofs.Body.Growth

/-!
# Which blocks are titles

A strong text becomes a title when the next block comes in, and only then; until then text may be added to it. So all
entries of a builder but the last have their final kind (`Settled`), and the last one still has the kind that it came in
with: that is the invariant `Ranked`. `title_iff` says which blocks are titles after a run, and what follows for the
markup: the tag that a block is written with is its own only for a heading.
-/

namespace Excerpt.Body

namespace Builder

/-! ## Kinds -/

/-- The block came in as a title just if its tag is that of a heading. -/
def Titled (e : Entry) : Prop :=
  e.arrived.kind = .title ↔ isHeading e.block.tag = true

theorem kind_eq_title_iff (tag : String) (t : Text) : BlockKind.of tag t = .title ↔ isHeading tag = true := by
  rw [BlockKind.of]
  split
  · simp [*]
  · grind

theorem kind_block_iff (l : Leaf) (isFirst inline : Bool) (line : Text) :
    (l.block isFirst inline line).kind = .title ↔ isHeading (l.block isFirst inline line).tag = true := by
  simp only [Leaf.block, Block.of]
  split <;> exact kind_eq_title_iff _ _

theorem tag_promote (next b : Block) : (promote next b).tag = b.tag :=
  (Grown.promote next b).tag

theorem titled_invariant (l : Leaf) : Invariant Titled l.Gives where
  fresh := by
    rintro _ ⟨line, -, isFirst, inline, rfl⟩ -
    exact kind_block_iff l isFirst inline line
  close h := h
  add _ h := h
  addBelow _ h := h
  promote b h := by
    rw [Titled, Entry.block_change, tag_promote]
    exact h

/-! ## Promotion -/

/-- The block has its final kind: it is a title if it is a heading, or if it came in as text, is strong, and does not
end with a full stop. -/
def Settled (e : Entry) : Prop :=
  e.block.kind = .title ↔ isHeading e.block.tag = true ∨
    e.block.strong = true ∧ e.arrived.kind = .text ∧ Text.endsWith '.' e.block.text = false

/-- All entries but the last are settled, and the last one has the kind that it came in with. -/
def Ranked (s : Builder) : Prop :=
  ∀ front e, s = ofLast front e → (∀ e' ∈ front, Settled e') ∧ e.block.kind = e.arrived.kind

theorem ranked_empty : Ranked empty :=
  fun front e h => (ofLast_ne_empty front e h.symm).elim

theorem ranked_ofLast {front : List Entry} {e : Entry} :
    Ranked (ofLast front e) ↔ (∀ e' ∈ front, Settled e') ∧ e.block.kind = e.arrived.kind := by
  refine ⟨fun h => h front e rfl, fun h front' e' heq => ?_⟩
  obtain ⟨rfl, he⟩ := List.append_inj' (congrArg entries heq) rfl
  cases he
  exact h

/-- Between blocks that stand apart, the titles and the strong texts without a full stop at their end become titles. -/
theorem kind_promote_iff {next b : Block} (hb : b.isBlock = true) (hnext : next.isBlock = true) :
    (promote next b).kind = .title ↔
      b.kind = .title ∨ b.strong = true ∧ b.kind = .text ∧ Text.endsWith '.' b.text = false := by
  cases hkind : b.kind with
  | text => cases hs : b.strong <;> cases hd : Text.endsWith '.' b.text <;> simp [promote, hkind, hs, hd, hb, hnext]
  | _ => simp [promote, hkind]

/-- The block that comes in settles the one in front of it. -/
theorem settled_promote {e : Entry} {b : Block} (ht : Titled e) (hk : e.block.kind = e.arrived.kind)
    (he : e.block.isBlock = true) (hb : b.isBlock = true) : Settled (e.change (promote b)) := by
  rw [Titled, ← hk] at ht
  rw [Settled, Entry.arrived_change, Entry.block_change, kind_promote_iff he hb, tag_promote,
    (Grown.promote b _).strong, Reading.text_promote, ht, hk]

/-- A line leaves the entries in front of the last one as they are, and settles the last one when it gives a block. -/
theorem Step.ranked {new : Block → Prop} {s s' : Builder} (h : Step new s s')
    (hs : ∀ e ∈ s.entries, Titled e ∧ WellPlaced e.block) (hr : Ranked s) : Ranked s' := by
  cases h with
  | same => exact hr
  | close | add | addBelow =>
    rw [ranked_ofLast] at hr ⊢
    exact ⟨hr.1, hr.2⟩
  | first => exact ranked_ofLast.mpr ⟨by simp, rfl⟩
  | next front e _ hblock =>
    rw [ranked_ofLast] at hr
    obtain ⟨ht, hplaced⟩ := (forall_ofLast.mp hs).2
    rw [ranked_ofLast, List.forall_mem_append, List.forall_mem_singleton]
    exact ⟨⟨hr.1, settled_promote ht hr.2 hplaced.isBlock hblock⟩, rfl⟩

theorem placed_invariant (l : Leaf) : Invariant (fun e => Titled e ∧ WellPlaced e.block) l.Gives :=
  (titled_invariant l).and (wellPlaced_invariant l)

theorem ranked_run (calls : List (List Exclude × Node)) : Ranked (run calls) := by
  have hkeeps : ∀ l : Leaf,
      Keeps (fun s => (∀ e ∈ s.entries, Titled e ∧ WellPlaced e.block) ∧ Ranked s) l.Gives := fun l s s' hstep hs =>
    ⟨(placed_invariant l).keeps s s' hstep hs.1, hstep.ranked hs.1 hs.2⟩
  exact (Keeps.run (fun _ _ l _ => hkeeps l) ⟨fun _ h => absurd h List.not_mem_nil, ranked_empty⟩).2

/-! ## The titles -/

section Titles

variable {s : Builder} {front after : List Entry} {e : Entry}

/-- In a ranked builder of blocks that came in with the kinds of their tags. -/
theorem title_iff_of_entries (hs : s.Sound) (hr : Ranked s) (ht : ∀ e ∈ s.entries, Titled e)
    (h : s.entries = front ++ e :: after) : e.block.kind = .title ↔ isHeading e.block.tag = true ∨
      (after ≠ [] ∧ e.block.strong = true ∧ e.arrived.kind = .text ∧ Text.endsWith '.' e.block.text = false) := by
  rcases List.eq_nil_or_concat after with rfl | ⟨mid, last, rfl⟩
  · obtain ⟨-, hk⟩ := hr front e (hs.eq_ofLast h)
    simpa [Titled, hk] using ht e (by simp [h])
  · rw [List.concat_eq_append, ← List.cons_append, ← List.append_assoc] at h
    obtain ⟨hsettled, -⟩ := hr _ last (hs.eq_ofLast h)
    simpa [Settled] using hsettled e (by simp)

/-- The line of a block for which the titles that are not strong are the headings. -/
theorem blockLine_eq_element {b : Block} (h : b.strong = false → (b.kind = .title ↔ isHeading b.tag = true)) :
    blockLine b = element (if b.strong then "strong" else if isHeading b.tag then b.tag else "p") b.text := by
  rw [blockLine]
  cases hs : b.strong with
  | true => rfl
  | false =>
    simp only [beq_iff_eq, h hs, Bool.false_eq_true, if_false]
    split <;> rfl

end Titles

/-- **Which blocks are titles after any run.** A block is a title if and only if it is a heading, or it is not the last
one, is strong, came in as text and does not end with a full stop. So the last block is a title only if it is a heading,
and every block that is written in an element of its own tag is a heading. -/
theorem title_iff (calls : List (List Exclude × Node)) :
    (run calls).blocks = calls.foldl (fun bs c => collect c.1 bs c.2) [] ∧
      (∀ front e after, (run calls).entries = front ++ e :: after →
        (e.block.kind = .title ↔ isHeading e.block.tag = true ∨
          (after ≠ [] ∧ e.block.strong = true ∧ e.arrived.kind = .text ∧ Text.endsWith '.' e.block.text = false))) ∧
      (∀ last, (run calls).blocks.getLast? = some last → last.kind = .title → isHeading last.tag = true) ∧
      (∀ b ∈ (run calls).blocks, b.strong = false → b.kind = .title → isHeading b.tag = true) ∧
      (∀ b ∈ (run calls).blocks,
        blockLine b = element (if b.strong then "strong" else if isHeading b.tag then b.tag else "p") b.text) := by
  have htitled : ∀ e ∈ (run calls).entries, Titled e := Invariant.run fun _ _ l _ => titled_invariant l
  have hentries : ∀ front e after, (run calls).entries = front ++ e :: after →
      (e.block.kind = .title ↔ isHeading e.block.tag = true ∨
        (after ≠ [] ∧ e.block.strong = true ∧ e.arrived.kind = .text ∧ Text.endsWith '.' e.block.text = false)) :=
    fun _ _ _ h => title_iff_of_entries (sound_run calls) (ranked_run calls) htitled h
  have hplain : ∀ b ∈ (run calls).blocks, b.strong = false → (b.kind = .title ↔ isHeading b.tag = true) := by
    refine forall_blocks fun e he hstrong => ?_
    obtain ⟨front, after, h⟩ := List.append_of_mem he
    simpa [hstrong] using hentries front e after h
  refine ⟨blocks_run calls, hentries, fun last hlast htitle => ?_, fun b hb hstrong => (hplain b hb hstrong).mp,
    fun b hb => blockLine_eq_element (hplain b hb)⟩
  rw [blocks, List.getLast?_map] at hlast
  obtain ⟨e, he, rfl⟩ := Option.map_eq_some_iff.mp hlast
  obtain ⟨front, h⟩ := List.getLast?_eq_some_iff.mp he
  simpa [htitle] using hentries front e [] h

/-- The strong text in front of a paragraph is a title; the one that ends the second page is none. -/
theorem title_iff_twoPages :
    let calls : List (List Exclude × Node) :=
      [([], .element "div" [] [.element "p" [] [.element "strong" [] [.text .plain "A".toList]],
          .element "p" [] [.text .plain "b.".toList]]),
        ([], .element "div" [] [.element "p" [] [.element "b" [] [.text .plain "c".toList]]])]
    (run calls).blocks.map (fun b => (b.kind, b.strong)) = [(.title, true), (.text, false), (.text, true)] ∧
      ∀ b ∈ (run calls).blocks,
        blockLine b = element (if b.strong then "strong" else if isHeading b.tag then b.tag else "p") b.text := by
  intro calls
  exact ⟨by decide, (title_iff calls).2.2.2.2⟩

end Builder

end Excerpt.Body
