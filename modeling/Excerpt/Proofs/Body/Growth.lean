import Excerpt.Proofs.Body.Builder
import Excerpt.Proofs.Body.Paragraph

/-!
# How a builder grows

A further walk leaves all blocks but the last one as they are; that one may have grown (`Grown`), and others may follow
it (`Appended`). In a text that the builder has made from trees without `<`, line breaks and their marks stand only
together (`Woven`, `Paired`).

`run_grows` collects what holds of every builder after a run: it has the blocks of the walks and remembers the last one;
all its blocks stand apart from the text around them, and the list items alone have the tag of a list; further walks
only append; and line breaks and marks are paired.
-/

namespace Excerpt.Body

/-! ## Blocks that grow -/

/-- What becomes of a block as text is added to it and other blocks follow. -/
structure Grown (b b' : Block) : Prop where
  tag : b'.tag = b.tag
  strong : b'.strong = b.strong
  listTag : b'.listTag = b.listTag
  text : b.text <+: b'.text
  kind : b'.kind = b.kind ∨ b.kind = .text ∧ b'.kind = .title

namespace Grown

variable {a b c : Block}

theorem refl (b : Block) : Grown b b :=
  ⟨rfl, rfl, rfl, List.prefix_rfl, .inl rfl⟩

theorem trans (h : Grown a b) (h' : Grown b c) : Grown a c where
  tag := h'.tag.trans h.tag
  strong := h'.strong.trans h.strong
  listTag := h'.listTag.trans h.listTag
  text := h.text.trans h'.text
  kind := by
    rcases h'.kind with hk | ⟨hk, hk'⟩
    · rw [hk]
      exact h.kind
    · rcases h.kind with h | ⟨-, h⟩
      · exact .inr ⟨h ▸ hk, hk'⟩
      · cases h.symm.trans hk

theorem close (b : Block) : Grown b b.close :=
  ⟨rfl, rfl, rfl, List.prefix_rfl, .inl rfl⟩

theorem add (b : Block) (t : Text) : Grown b (b.add t) :=
  ⟨rfl, rfl, rfl, add_text_eq b t ▸ List.prefix_append _ _, .inl rfl⟩

theorem addBreak (b : Block) : Grown b (b.add ['\n']).addBreak :=
  ⟨rfl, rfl, rfl, addBreak_text b ▸ List.prefix_append _ _, .inl rfl⟩

theorem addBelow (b : Block) (t : Text) : Grown b (b.addBelow t) :=
  (addBreak b).trans (add _ t)

/-- A text that becomes a title has what it had. -/
theorem promote (next b : Block) : Grown b (promote next b) := by
  rw [Body.promote]
  split
  · rename_i h
    simp only [Bool.and_eq_true, beq_iff_eq] at h
    exact ⟨rfl, rfl, rfl, List.prefix_rfl, .inr ⟨h.1.1.1.1, rfl⟩⟩
  · exact refl b

end Grown

/-- The new blocks come from the old ones by additions: all but the last one are as they were, that one may have grown,
and others may follow. -/
def Appended (old new : List Block) : Prop :=
  ∀ front last, old = front ++ [last] → ∃ last' more, new = front ++ last' :: more ∧ Grown last last'

namespace Appended

variable {old front : List Block} {b b' : Block}

theorem refl (old : List Block) : Appended old old :=
  fun _ last h => ⟨last, [], h, Grown.refl last⟩

/-- The last of the new blocks may grow, and more may follow it. -/
theorem grow (h : Appended old (front ++ [b])) (hb : Grown b b') (more : List Block) :
    Appended old (front ++ b' :: more) := by
  intro fr last hold
  obtain ⟨last', more', hnew, hgrown⟩ := h fr last hold
  rcases List.eq_nil_or_concat more' with rfl | ⟨mid, c, rfl⟩
  · obtain ⟨rfl, hlast⟩ := List.append_inj' hnew rfl
    cases hlast
    exact ⟨b', more, rfl, hgrown.trans hb⟩
  · -- The old blocks end before the last of the new ones.
    rw [List.concat_eq_append, ← List.cons_append, ← List.append_assoc] at hnew
    obtain ⟨rfl, -⟩ := List.append_inj' hnew rfl
    exact ⟨last', mid ++ b' :: more, by simp, hgrown⟩

theorem of_nil (h : Appended old []) (new : List Block) : Appended old new := by
  intro front last hold
  obtain ⟨last', more, hnil, -⟩ := h front last hold
  simp at hnil

end Appended

namespace Builder

variable {s s' : Builder} {new : Block → Prop}

/-- One step adds to the last block, or puts one behind it. -/
theorem Step.appended {old : List Block} (h : Step new s s') (hold : Appended old s.blocks) :
    Appended old s'.blocks := by
  cases h with
  | same => exact hold
  | close front e =>
    rw [blocks_ofLast] at hold ⊢
    exact hold.grow (Grown.close _) []
  | @add front e b _ =>
    rw [blocks_ofLast] at hold ⊢
    exact hold.grow (Grown.add _ _) []
  | @addBelow front e b _ =>
    rw [blocks_ofLast] at hold ⊢
    exact hold.grow (Grown.addBelow _ _) []
  | first => exact hold.of_nil _
  | @next front e b _ _ =>
    rw [blocks_ofLast] at hold ⊢
    simpa using hold.grow (Grown.promote b _) [b]

/-- A further walk only appends. -/
theorem appended_parse (hs : s.Sound) (xs : List Exclude) (n : Node) : Appended s.blocks (s.parse xs n).blocks := by
  have hkeeps : ∀ new, Keeps (fun s' : Builder => Appended s.blocks s'.blocks) new := fun _ _ _ hstep h =>
    hstep.appended h
  exact Keeps.parse (fun _ _ => hkeeps _) hs (Appended.refl _)

/-! ## What holds of each block -/

/-- What a line can do keeps a property of entries. -/
structure Invariant (Q : Entry → Prop) (new : Block → Prop) : Prop where
  fresh : ∀ {b}, new b → b.isBlock = true → Q (.fresh b)
  close : ∀ {e}, Q e → Q (e.change Block.close)
  add : ∀ {e b}, new b → Q e → Q (e.change (·.add b.text))
  addBelow : ∀ {e b}, new b → Q e → Q (e.change (·.addBelow b.text))
  promote : ∀ {e} b, Q e → Q (e.change (promote b))

/-- Invariants of entries can be put together. -/
theorem Invariant.and {Q R : Entry → Prop} (hq : Invariant Q new) (hr : Invariant R new) :
    Invariant (fun e => Q e ∧ R e) new where
  fresh hb hblock := ⟨hq.fresh hb hblock, hr.fresh hb hblock⟩
  close h := ⟨hq.close h.1, hr.close h.2⟩
  add hb h := ⟨hq.add hb h.1, hr.add hb h.2⟩
  addBelow hb h := ⟨hq.addBelow hb h.1, hr.addBelow hb h.2⟩
  promote b h := ⟨hq.promote b h.1, hr.promote b h.2⟩

theorem forall_ofLast {Q : Entry → Prop} {front : List Entry} {e : Entry} :
    (∀ e' ∈ (ofLast front e).entries, Q e') ↔ (∀ e' ∈ front, Q e') ∧ Q e := by
  rw [entries_ofLast, List.forall_mem_append, List.forall_mem_singleton]

/-- What holds of each entry by itself is kept by every step, as a step touches or adds one entry. -/
theorem Invariant.keeps {Q : Entry → Prop} (h : Invariant Q new) : Keeps (fun s => ∀ e ∈ s.entries, Q e) new := by
  intro s s' hstep hs
  cases hstep with
  | same => exact hs
  | close front e =>
    rw [forall_ofLast] at hs ⊢
    exact ⟨hs.1, h.close hs.2⟩
  | add front e hb =>
    rw [forall_ofLast] at hs ⊢
    exact ⟨hs.1, h.add hb hs.2⟩
  | addBelow front e hb =>
    rw [forall_ofLast] at hs ⊢
    exact ⟨hs.1, h.addBelow hb hs.2⟩
  | first hb hblock => exact List.forall_mem_singleton.mpr (h.fresh hb hblock)
  | next front e hb hblock =>
    rw [forall_ofLast] at hs
    rw [forall_ofLast, List.forall_mem_append, List.forall_mem_singleton]
    exact ⟨⟨hs.1, h.promote _ hs.2⟩, h.fresh hb hblock⟩

/-- What all leaves of all trees keep of each entry, holds of the entries after a run. -/
theorem Invariant.run {Q : Entry → Prop} {calls : List (List Exclude × Node)}
    (h : ∀ c ∈ calls, ∀ l ∈ leavesIn c.1 (c.2.tag?.getD "") c.2.children, Invariant Q l.Gives) :
    ∀ e ∈ (run calls).entries, Q e :=
  Keeps.run (fun c hc l hl => (h c hc l hl).keeps) fun _ he => absurd he List.not_mem_nil

/-- The block stands apart from the text around it, and it has the tag of a list just if it is a list item. -/
structure WellPlaced (b : Block) : Prop where
  isBlock : b.isBlock = true
  listTag : b.listTag.isSome = true ↔ b.kind = .list

theorem WellPlaced.promote {b : Block} (h : WellPlaced b) (next : Block) : WellPlaced (promote next b) := by
  rw [Body.promote]
  split
  · rename_i hb
    simp only [Bool.and_eq_true, beq_iff_eq] at hb
    have hno : b.listTag.isSome ≠ true := fun hl => by cases hb.1.1.1.1.symm.trans (h.listTag.mp hl)
    exact ⟨h.isBlock, iff_of_false hno (by simp)⟩
  · exact h

/-- Lines of a leaf give well-placed blocks, and no change moves them. -/
theorem wellPlaced_invariant (l : Leaf) : Invariant (fun e => WellPlaced e.block) l.Gives where
  fresh := by
    rintro _ ⟨line, -, isFirst, inline, rfl⟩ hblock
    refine ⟨hblock, ?_⟩
    simp only [Entry.block_fresh, Leaf.block, beq_iff_eq]
    split <;> simp [*]
  close h := ⟨rfl, h.listTag⟩
  add _ h := ⟨h.isBlock, h.listTag⟩
  addBelow _ h := ⟨h.isBlock, h.listTag⟩
  promote b h := h.promote b

end Builder

/-! ## Line breaks and marks -/

/-- Line breaks and marks stand in the text only together, a mark right behind each line break. -/
structure Paired (t : Text) : Prop where
  marked : ∀ before after, t = before ++ '\n' :: after → lineBreak <+: after
  broken : ∀ before after, t = before ++ (lineBreak ++ after) → ∃ front, before = front ++ ['\n']

/-- Texts of line breaks with a mark behind them and of other characters than line breaks and `<`. -/
inductive Woven : Text → Prop
  | nil : Woven []
  | char {c : Char} {t : Text} : c ≠ '\n' → c ≠ '<' → Woven t → Woven (c :: t)
  | fold {t : Text} : Woven t → Woven ('\n' :: (lineBreak ++ t))

namespace Woven

variable {t : Text}

/-- Text without line breaks and marks is woven. -/
theorem of_not_mem : ∀ {t : Text}, '\n' ∉ t → '<' ∉ t → Woven t
  | [], _, _ => nil
  | c :: t, hn, hm => by
    rw [List.mem_cons, not_or] at hn hm
    exact char (Ne.symm hn.1) (Ne.symm hm.1) (of_not_mem hn.2 hm.2)

theorem append {a b : Text} (ha : Woven a) (hb : Woven b) : Woven (a ++ b) := by
  induction ha with
  | nil => exact hb
  | char hn hm _ ih => exact char hn hm ih
  | fold _ ih =>
    rw [List.cons_append, List.append_assoc]
    exact fold ih

/-- A line break is followed by its mark. -/
theorem marked (h : Woven t) : ∀ before after, t = before ++ '\n' :: after → lineBreak <+: after := by
  induction h with
  | nil => simp
  | @char c t hn _ _ ih =>
    intro before after he
    cases before with
    | nil => exact (hn (List.cons.inj he).1).elim
    | cons d before => exact ih before after (List.cons.inj he).2
  | @fold t _ ih =>
    intro before after he
    cases before with
    | nil => exact ⟨t, (List.cons.inj he).2⟩
    | cons d before =>
      -- The line break is behind the mark, which has none.
      have he := (List.cons.inj he).2
      rcases List.append_eq_append_iff.mp he with ⟨mid, rfl, hrest⟩ | ⟨mid, hmark, hrest⟩
      · exact ih mid after hrest
      · cases mid with
        | nil => exact ih [] after hrest.symm
        | cons c mid =>
          have hc : c = '\n' := (List.cons.inj hrest).1.symm
          exact (newline_not_mem_lineBreak (hmark ▸ by simp [hc])).elim

/-- A mark stands behind its line break. -/
theorem broken (h : Woven t) :
    ∀ before after, t = before ++ (lineBreak ++ after) → ∃ front, before = front ++ ['\n'] := by
  induction h with
  | nil => simp [lineBreak]
  | @char c t _ hm _ ih =>
    intro before after he
    cases before with
    | nil => exact (hm (List.cons.inj he).1).elim
    | cons d before =>
      obtain ⟨front, rfl⟩ := ih before after (List.cons.inj he).2
      exact ⟨d :: front, rfl⟩
  | @fold t _ ih =>
    intro before after he
    cases before with
    | nil => exact absurd (List.cons.inj he).1 (by decide)
    | cons d before =>
      obtain ⟨rfl, htail⟩ := List.cons.inj he
      rcases List.append_eq_append_iff.mp htail with ⟨mid, rfl, hrest⟩ | ⟨mid, hmark, hrest⟩
      · obtain ⟨front, rfl⟩ := ih mid after hrest
        exact ⟨'\n' :: (lineBreak ++ front), by simp⟩
      · cases before with
        | nil => exact ⟨[], rfl⟩
        | cons d before =>
          -- Behind its first sign the mark has no `<`, so the second mark begins behind the first one.
          cases mid with
          | nil =>
            obtain ⟨front, hnil⟩ := ih [] after hrest.symm
            simp at hnil
          | cons c mid =>
            have hc : c = '<' := (List.cons.inj hrest).1.symm
            have htail : "br>".toList = before ++ c :: mid := (List.cons.inj hmark).2
            exact absurd (htail ▸ List.mem_append_right before (hc ▸ List.mem_cons_self))
              (by decide : '<' ∉ "br>".toList)

theorem paired (h : Woven t) : Paired t :=
  ⟨h.marked, h.broken⟩

theorem add {b : Block} (h : Woven b.text) (hn : '\n' ∉ t) (hm : '<' ∉ t) : Woven (b.add t).text := by
  rw [Block.add, dropPrefix?_mark_of_not_mem hm]
  refine append (append h ?_) (of_not_mem hn hm)
  split
  · exact char (by decide) (by decide) nil
  · exact nil

theorem addBreak {b : Block} (h : Woven b.text) : Woven (b.add ['\n']).addBreak.text := by
  rw [addBreak_text]
  exact append h (fold nil)

end Woven

/-- A line of a paragraph is as it was, or has a mark in front. -/
theorem mem_markedLines :
    ∀ {ts : List Text} {t : Text}, t ∈ markedLines ts → t ∈ ts ∨ ∃ piece ∈ ts, t = lineBreak ++ piece
  | [], _, h => .inl h
  | first :: rest, t, h => by
    rcases List.mem_cons.mp h with rfl | h
    · exact .inl List.mem_cons_self
    · obtain ⟨piece, hpiece, rfl⟩ := List.mem_map.mp h
      rw [marked]
      split
      · exact .inl (List.mem_cons_of_mem _ hpiece)
      · exact .inr ⟨piece, List.mem_cons_of_mem _ hpiece, rfl⟩

/-- A line of a leaf is a piece of its text, cleaned; a mark may stand in front of it. -/
theorem Leaf.exists_piece_of_mem_lines {l : Leaf} {line : Text} (h : line ∈ l.lines) :
    ∃ piece ∈ l.pieces, line = cleanText piece ∨ line = cleanText (lineBreak ++ piece) := by
  rw [Leaf.lines_eq] at h
  obtain ⟨t, ht, rfl⟩ := List.mem_map.mp h
  have ht : t ∈ l.pieces ∨ ∃ piece ∈ l.pieces, t = lineBreak ++ piece := by
    split at ht
    · exact mem_markedLines ht
    · exact .inl ht
  rcases ht with ht | ⟨piece, hpiece, rfl⟩
  · exact ⟨t, ht, .inl rfl⟩
  · exact ⟨piece, hpiece, .inr rfl⟩

/-- The blocks that a leaf without `<` gives have the cleaned lines of its text; a mark in front of a line is
taken off. -/
theorem Leaf.exists_piece {l : Leaf} (hl : '<' ∉ l.text) {b : Block} (hb : l.Gives b) :
    ∃ piece ∈ l.pieces, b.text = cleanText piece := by
  obtain ⟨line, hline, isFirst, inline, rfl⟩ := hb
  have htext : (l.block isFirst inline line).text = (Block.of l.tag line l.givesStrong).text := rfl
  rw [htext, Block.of]
  obtain ⟨piece, hpiece, rfl | rfl⟩ := Leaf.exists_piece_of_mem_lines hline
  · have hm : '<' ∉ cleanText piece := fun h =>
      hl (Leaf.mem_of_mem_pieces hpiece (mem_of_mem_cleanText (by decide) h))
    rw [dropPrefix?_mark_of_not_mem hm]
    exact ⟨piece, hpiece, rfl⟩
  · obtain ⟨rest, hclean, htrim, -⟩ := exists_cleanText_mark piece
    rw [Text.dropPrefix?_eq_some_iff.mpr hclean]
    exact ⟨piece, hpiece, htrim⟩

theorem Leaf.not_mem_of_gives {l : Leaf} (hl : '<' ∉ l.text) {b : Block} (hb : l.Gives b) :
    '\n' ∉ b.text ∧ '<' ∉ b.text := by
  obtain ⟨piece, hpiece, htext⟩ := Leaf.exists_piece hl hb
  rw [htext]
  exact ⟨fun h => Text.not_mem_of_mem_splitOn hpiece (mem_of_mem_cleanText (by decide) h),
    fun h => hl (Leaf.mem_of_mem_pieces hpiece (mem_of_mem_cleanText (by decide) h))⟩

namespace Builder

/-- Texts are added behind a line break with its mark or as they are, so woven texts stay woven. -/
theorem woven_invariant {l : Leaf} (hl : '<' ∉ l.text) : Invariant (fun e => Woven e.block.text) l.Gives where
  fresh hb _ :=
    have ⟨hn, hm⟩ := Leaf.not_mem_of_gives hl hb
    Woven.of_not_mem hn hm
  close h := h
  add hb h :=
    have ⟨hn, hm⟩ := Leaf.not_mem_of_gives hl hb
    h.add hn hm
  addBelow hb h :=
    have ⟨hn, hm⟩ := Leaf.not_mem_of_gives hl hb
    h.addBreak.add hn hm
  promote b h := (Reading.text_promote b _).symm ▸ h

theorem forall_blocks {P : Block → Prop} {s : Builder} (h : ∀ e ∈ s.entries, P e.block) : ∀ b ∈ s.blocks, P b := by
  intro b hb
  obtain ⟨e, he, rfl⟩ := List.mem_map.mp hb
  exact h e he

/-! ## The state of a builder -/

/-- **The state of a builder after any run.** It has the blocks that the walks collect, and remembers the last one, or
none if there are none. All blocks stand apart from the text around them, and the list items alone have the tag of a
list. A further walk only appends. And if the trees have no `<`, line breaks and marks are paired. -/
theorem run_grows (calls : List (List Exclude × Node)) :
    (run calls).blocks = calls.foldl (fun bs c => collect c.1 bs c.2) [] ∧
      ((∀ i, (run calls).remembered = some i ↔ i + 1 = (run calls).blocks.length) ∧
        ((run calls).remembered = none ↔ (run calls).blocks = [])) ∧
      (∀ b ∈ (run calls).blocks, b.isBlock = true ∧ (b.listTag.isSome = true ↔ b.kind = .list)) ∧
      (∀ xs n, Appended (run calls).blocks ((run calls).parse xs n).blocks) ∧
      ((∀ c ∈ calls, ∀ t ∈ c.2.stringsBelow, '<' ∉ t) → ∀ b ∈ (run calls).blocks, Paired b.text) := by
  have hsound := sound_run calls
  refine ⟨blocks_run calls, ⟨?_, ?_⟩, ?_, appended_parse hsound, fun hplain => ?_⟩
  · simpa [blocks, Sound] using hsound
  · rcases hsound.cases with he | ⟨front, e, he⟩
    · rw [he]
      exact iff_of_true rfl rfl
    · rw [he]
      exact iff_of_false (by simp [ofLast]) (by simp)
  · have hplaced : ∀ b ∈ (run calls).blocks, WellPlaced b :=
      forall_blocks (Invariant.run fun _ _ l _ => wellPlaced_invariant l)
    exact fun b hb => ⟨(hplaced b hb).isBlock, (hplaced b hb).listTag⟩
  · refine forall_blocks fun e he => Woven.paired (Invariant.run (fun c hc l hl => woven_invariant fun hm => ?_) e he)
    rcases mem_leavesIn hl hm with h | ⟨t, ht, hm⟩
    · cases h
    · exact hplain c hc t ht hm

/-- Two pages: inline text in front of a broken paragraph, and a list. -/
theorem run_grows_twoPages :
    let calls : List (List Exclude × Node) :=
      [([], .element "div" [] [.text .plain "A".toList,
          .element "p" [] [.text .plain "b".toList, .element "br" [] [], .text .plain "c".toList]]),
        ([], .element "ul" [] [.element "li" [] [.text .plain "d".toList]])]
    (∀ c ∈ calls, ∀ t ∈ c.2.stringsBelow, '<' ∉ t) ∧
      (run calls).blocks.map (·.text) = ["A".toList, "b\n<br> c".toList, "d".toList] ∧
      ∀ b ∈ (run calls).blocks, Paired b.text := by
  intro calls
  have hplain : ∀ c ∈ calls, ∀ t ∈ c.2.stringsBelow, '<' ∉ t := by decide
  exact ⟨hplain, by decide, (run_grows calls).2.2.2.2 hplain⟩

end Builder

end Excerpt.Body
