import Excerpt.Proofs.Body.Folded
import Mathlib.Data.List.Forall2

/-!
# Bodies that read back as themselves

A tree of paragraphs and headings is written and read back. The blocks that are read back fill a single line each, and
they are the ones that were written if these do so as well (`settled_ofMarkup_written`); if these do not, another body
is read back (`not_broken_of_written_eq`). Whether they do can be told from the lines of the paragraphs:
`render_ofMarkup_render_iff`.

A line break within a block is written as a line break and a mark, and both are read as line breaks. So the lines of
such a block fall apart: `not_reads_back_lineBreak`.
-/

namespace Excerpt.Body

open Text (isBlank splitOn join trim)
open Token (blockTags)

/-! ## Lines of a written body -/

theorem not_mem_blockTag {tag : String} (h : tag ∈ blockTags) : '>' ∉ tag.toList ∧ '\n' ∉ tag.toList := by
  revert tag
  decide

theorem element_eq (tag : String) (t : Text) :
    element tag t = '<' :: tag.toList ++ '>' :: (t ++ '<' :: '/' :: tag.toList ++ ['>']) := by
  simp [element]

/-- Tag and text of an element can be told from what is written. -/
theorem element_inj {tag tag' : String} {t t' : Text} (ht : tag ∈ blockTags) (ht' : tag' ∈ blockTags)
    (h : element tag t = element tag' t') : tag = tag' ∧ t = t' := by
  have htake : ∀ {tag : String} {t : Text}, tag ∈ blockTags → (element tag t).takeWhile (· != '>') =
      '<' :: tag.toList := by
    intro tag t htag
    have hall : ∀ c ∈ '<' :: tag.toList, (c != '>') = true := by
      intro c hc
      rw [bne_iff_ne]
      rintro rfl
      rcases List.mem_cons.mp hc with hc | hc
      · cases hc
      · exact (not_mem_blockTag htag).1 hc
    rw [element_eq, List.takeWhile_append_of_pos hall, List.takeWhile_cons_of_neg (by decide), List.append_nil]
  have htags : tag = tag' := by
    have hw := congrArg (List.takeWhile (· != '>')) h
    rw [htake ht, htake ht'] at hw
    exact String.toList_injective (List.cons.inj hw).2
  subst htags
  refine ⟨rfl, ?_⟩
  rw [element_eq, element_eq] at h
  have hrest := (List.cons.inj (List.append_cancel_left h)).2
  rw [List.append_assoc, List.append_assoc] at hrest
  exact List.append_cancel_right hrest

theorem not_mem_element {tag : String} {t : Text} (h : tag ∈ blockTags) (ht : '\n' ∉ t) : '\n' ∉ element tag t := by
  have htag := (not_mem_blockTag h).2
  simp [element, htag, ht]

/-- The lines of an element whose text holds a line break: some line begins with the mark. -/
theorem exists_marked_line {tag : String} {t : Text} (h : Folded t) (hn : '\n' ∈ t) :
    ∃ r, lineBreak ++ r ∈ splitOn '\n' (element tag t) := by
  obtain ⟨line, lines, hfolds⟩ := h
  cases lines with
  | nil =>
    rw [hfolds.text] at hn
    exact absurd hn (hfolds.lines line List.mem_cons_self).single
  | cons l lines =>
    have hparts : element tag t = ('<' :: tag.toList ++ '>' :: line) ++ '\n' :: (lineBreak ++
        (join fold (l :: lines) ++ '<' :: '/' :: tag.toList ++ ['>'])) := by
      rw [element_eq, hfolds.text, Text.join_cons_cons, fold]
      simp
    obtain ⟨w, ws, hw⟩ := List.exists_cons_of_ne_nil
      (Text.splitOn_ne_nil '\n' (join fold (l :: lines) ++ '<' :: '/' :: tag.toList ++ ['>']))
    refine ⟨w, ?_⟩
    rw [hparts, Text.splitOn_append_cons, Text.splitOn_append_of_not_mem newline_not_mem_lineBreak hw]
    exact List.mem_append_right _ List.mem_cons_self

theorem not_mark_element {tag : String} (h : tag ∈ blockTags) (t r : Text) : lineBreak ++ r ≠ element tag t := by
  intro he
  have hsecond := congrArg (fun t : Text => t[1]?) he
  revert hsecond
  simp only [blockTags, List.mem_cons, List.not_mem_nil, or_false] at h
  rcases h with rfl | rfl | rfl | rfl | rfl | rfl | rfl <;> simp [lineBreak, element]

theorem writtenLines_ne_nil {bs : List Block} (h : bs ≠ []) : writtenLines bs ≠ [] := by
  obtain ⟨b, bs, rfl⟩ := List.exists_cons_of_ne_nil h
  cases bs with
  | nil => exact List.cons_ne_nil _ _
  | cons c bs =>
    rw [writtenLines, List.map_cons, List.map_cons, Text.join_cons_cons]
    exact List.cons_ne_nil _ _

/-- If two bodies are written the same and the blocks of the second fill single lines, each line of an element of the
first is an element of the second. -/
theorem exists_element_of_line {bs cs : List Block} (hne : bs ≠ []) (hcs : ∀ c ∈ cs, c.Ordinary ∧ ¬ Broken c.text)
    (h : writtenLines bs = writtenLines cs) {b : Block} (hb : b ∈ bs) {w : Text}
    (hw : w ∈ splitOn '\n' (element b.tag b.text)) : ∃ c ∈ cs, w = element c.tag c.text := by
  have hcne : cs ≠ [] := by
    rintro rfl
    exact writtenLines_ne_nil hne h
  have hmem : w ∈ splitOn '\n' (writtenLines bs) := by
    rw [writtenLines, Text.splitOn_join_eq_flatMap (by simpa using hne), List.flatMap_map]
    exact List.mem_flatMap.mpr ⟨b, hb, hw⟩
  have hsingle : ∀ t ∈ cs.map fun c => element c.tag c.text, '\n' ∉ t := by
    intro t ht
    obtain ⟨c, hc, rfl⟩ := List.mem_map.mp ht
    exact not_mem_element (hcs c hc).1.tag_mem fun hn => (hcs c hc).2 (.inr hn)
  rw [h, writtenLines, Text.splitOn_join (by simpa using hcne) hsingle] at hmem
  obtain ⟨c, hc, rfl⟩ := List.mem_map.mp hmem
  exact ⟨c, hc, rfl⟩

/-- **A body that is written as one of single lines is one.** -/
theorem not_broken_of_written_eq {bs cs : List Block} (hne : bs ≠ []) (hbs : ∀ b ∈ bs, b.Ordinary ∧ Folded b.text)
    (hcs : ∀ c ∈ cs, c.Ordinary ∧ ¬ Broken c.text) (h : writtenLines bs = writtenLines cs) :
    ∀ b ∈ bs, ¬ Broken b.text := by
  intro b hb hbroken
  have htag := (hbs b hb).1.tag_mem
  by_cases hn : '\n' ∈ b.text
  · -- A line of the element begins with the mark, and no element does.
    obtain ⟨r, hr⟩ : ∃ r, lineBreak ++ r ∈ splitOn '\n' (element b.tag b.text) := exists_marked_line (hbs b hb).2 hn
    obtain ⟨c, hc, he⟩ := exists_element_of_line hne hcs h hb hr
    exact not_mark_element (hcs c hc).1.tag_mem _ _ he
  · have hnil : b.text = [] := hbroken.resolve_right hn
    have hself : element b.tag b.text ∈ splitOn '\n' (element b.tag b.text) := by
      rw [Text.splitOn_of_not_mem (not_mem_element htag hn)]
      exact List.mem_singleton.mpr rfl
    obtain ⟨c, hc, he⟩ := exists_element_of_line hne hcs h hb hself
    have htext := (element_inj htag (hcs c hc).1.tag_mem he).2
    exact (hcs c hc).2 (.inl (htext.symm.trans hnil))

/-! ## Reading back -/

theorem textBlock_of_not_broken {l : Leaf} (hl : l.Ordinary) {b : Block} (hb : b ∈ l.blocks)
    (hbroken : ¬ Broken b.text) :
    b = textBlock b.tag b.text ∧ cleanText b.text = b.text := by
  -- A block stays the block of its first line until a further line breaks it.
  have hall : ∀ b ∈ l.blocks, Broken b.text ∨ (b = textBlock b.tag b.text ∧ cleanText b.text = b.text) :=
    Leaf.forall_mem_blocks hl (fun _ line _ => .inr ⟨rfl, cleanText_cleanText line⟩)
      fun line _ b _ => .inl (broken_withLine b _)
  exact (hall b hb).resolve_left hbroken

theorem flatMap_eq_of_forall₂ {α β : Type} {f : α → List β} {R : α → β → Prop} {as : List α} {bs : List β}
    (h : List.Forall₂ R as bs) (hf : ∀ a, ∀ b ∈ bs, R a b → f a = [b]) : as.flatMap f = bs := by
  induction h with
  | nil => rfl
  | @cons a b as bs hab _ ih =>
    rw [List.flatMap_cons, hf a b List.mem_cons_self hab, ih fun a' b' hb' => hf a' b' (List.mem_cons_of_mem _ hb')]
    rfl

/-- **A written body is read back as blocks that fill single lines**, and as the blocks it was written for if these are
such themselves. -/
theorem settled_ofMarkup_written {bs : List Block} (hbs : ∀ b ∈ bs, b.Ordinary ∧ Folded b.text) (hne : bs ≠ [])
    (hp : ['<', 'p'] <:+: writtenLines bs) : ∃ cs, (ofMarkup (writtenLines bs)).map Block.settled = cs ∧
      (∀ c ∈ cs, c.Ordinary ∧ ¬ Broken c.text) ∧
      ((∀ b ∈ bs, ¬ Broken b.text ∧ b = textBlock b.tag b.text ∧ cleanText b.text = b.text) → cs = bs) := by
  have hfront : Written.Kept [] := kept_of_isBlank ⟨List.not_mem_nil, List.not_mem_nil⟩ fun _ => .inl rfl
  obtain ⟨es, htext, hall⟩ := exists_written hbs hne hfront rfl
  rw [List.nil_append] at htext
  have hes : ∀ e ∈ es, e.Lawful ∧ isBlank e.front = true ∧ ∀ c ∈ (leafOfWritten e).blocks, ¬ Broken c.text :=
    ((List.forall₂_and_left es bs).mp (hall.imp fun _ _ h => ⟨⟨h.lawful, h.front, h.not_broken⟩, h⟩)).1
  have hene : es ≠ [] := fun h => hne (List.forall₂_nil_left_iff.mp (h ▸ hall))
  refine ⟨es.flatMap fun e => (leafOfWritten e).blocks, ?_, fun c hc => ?_, fun h => ?_⟩
  · rw [ofMarkup_of_marked hp, ← htext]
    exact settled_collect_ofMarkup hene (fun e he => (hes e he).1) fun e he => (hes e he).2.1
  · obtain ⟨e, he, hc⟩ := List.mem_flatMap.mp hc
    exact ⟨Leaf.ordinary_blocks (ordinary_leafOfWritten (hes e he).1) c hc, (hes e he).2.2 c hc⟩
  · exact flatMap_eq_of_forall₂ hall fun e b hb hfor => hfor.blocks_eq (h b hb).1 (h b hb).2.2 (h b hb).2.1

/-- The blocks of paragraphs and headings. -/
def simpleBlocks (n : Node) : List Block :=
  n.children.flatMap fun c => (leafOf (n.tag?.getD "") c).blocks

section Simple

variable {n : Node} (hn : ∀ c ∈ n.children, c.isSimple = true)
include hn

theorem ordinary_simpleBlocks : ∀ b ∈ simpleBlocks n, b.Ordinary ∧ Folded b.text := by
  intro b hb
  obtain ⟨c, hc, hb⟩ := List.mem_flatMap.mp hb
  have hl := Leaf.ordinary_of_isSimple (hn c hc) (n.tag?.getD "")
  exact ⟨Leaf.ordinary_blocks hl b hb, Leaf.folded_blocks hl (plain_of_isSimple (hn c hc)) b hb⟩

theorem render_simpleBlocks : render [] (collect [] [] n) = writtenLines (simpleBlocks n) :=
  render_of_settled (settled_collect_of_isSimple hn) fun b hb => (ordinary_simpleBlocks hn b hb).1

/-- A paragraph that is not blank is written as one. -/
theorem simpleBlocks_marked (hp : ∃ c ∈ n.children, c.hasTag "p" = true ∧ isBlank c.blockText = false) :
    ['<', 'p'] <:+: writtenLines (simpleBlocks n) := by
  obtain ⟨c, hc, htag, hblank⟩ := hp
  have hl := Leaf.ordinary_of_isSimple (hn c hc) (n.tag?.getD "")
  obtain ⟨tag, as, ns, rfl, -, -⟩ := Node.exists_of_isSimple (hn c hc)
  have ht : (leafOf (n.tag?.getD "") (.element tag as ns)).tag = "p" := eq_of_beq htag
  obtain ⟨b, bs, hb⟩ := List.exists_cons_of_ne_nil (Leaf.blocks_ne_nil ht hblank)
  have hmem : b ∈ (leafOf (n.tag?.getD "") (.element tag as ns)).blocks := hb ▸ List.mem_cons_self
  have hbtag : b.tag = "p" := (Leaf.forall_mem_blocks
    (P := fun b => b.tag = (leafOf (n.tag?.getD "") (.element tag as ns)).tag) hl
    (fun _ _ _ => rfl) (fun _ _ _ h => h) b hmem).trans ht
  have hfront : ['<', 'p'] <+: element b.tag b.text := by
    rw [hbtag]
    exact List.prefix_append ['<', 'p'] _
  exact hfront.isInfix.trans (Text.join_within ['\n'] (List.mem_map.mpr ⟨b, List.mem_flatMap.mpr ⟨_, hc, hmem⟩, rfl⟩))

/-- Whether the blocks fill single lines can be told from the lines of the paragraphs. -/
theorem forall_not_broken_simpleBlocks_iff : (∀ b ∈ simpleBlocks n, ¬ Broken b.text) ↔
    ∀ c ∈ n.children, c.hasTag "p" = true → (splitOn '\n' (trim c.blockText)).IsChain Separate := by
  have hleaf : ∀ c ∈ n.children, (∀ b ∈ (leafOf (n.tag?.getD "") c).blocks, ¬ Broken b.text) ↔
      (c.hasTag "p" = true → (splitOn '\n' (trim c.blockText)).IsChain Separate) := by
    intro c hc
    obtain ⟨tag, as, ns, rfl, -, -⟩ := Node.exists_of_isSimple (hn c hc)
    rw [Leaf.forall_not_broken_iff, Node.hasTag, beq_iff_eq]
    rfl
  refine ⟨fun h c hc => (hleaf c hc).mp fun b hb => h b (List.mem_flatMap.mpr ⟨c, hc, hb⟩), fun h b hb => ?_⟩
  obtain ⟨c, hc, hb⟩ := List.mem_flatMap.mp hb
  exact (hleaf c hc).mpr (h c hc) b hb

end Simple

/-- **When a formatted body reads back as itself.** A tree of paragraphs and headings that hold text and line breaks
only, one paragraph of them not blank, is written and read back as the same body exactly if in each paragraph, once
trimmed, every line after the first is empty, or has text and does not go on: a blank line is in front of it, or a time
of the day begins it. -/
theorem render_ofMarkup_render_iff {n : Node} (hn : ∀ c ∈ n.children, c.isSimple = true)
    (hp : ∃ c ∈ n.children, c.hasTag "p" = true ∧ isBlank c.blockText = false) :
    render [] (ofMarkup (render [] (collect [] [] n))) = render [] (collect [] [] n) ↔
      ∀ c ∈ n.children, c.hasTag "p" = true → (splitOn '\n' (trim c.blockText)).IsChain Separate := by
  have hbs := ordinary_simpleBlocks hn
  have hwritten := simpleBlocks_marked hn hp
  have hne : simpleBlocks n ≠ [] := by
    intro hnil
    rw [hnil] at hwritten
    cases List.infix_nil.mp hwritten
  obtain ⟨cs, hsettled, hcs, hsame⟩ := settled_ofMarkup_written hbs hne hwritten
  rw [render_simpleBlocks hn, ← forall_not_broken_simpleBlocks_iff hn,
    render_of_settled hsettled fun c hc => (hcs c hc).1]
  refine ⟨fun h => not_broken_of_written_eq hne hbs hcs h.symm, fun h => ?_⟩
  rw [hsame fun b hb => ⟨h b hb, ?_⟩]
  obtain ⟨c, hc, hb'⟩ := List.mem_flatMap.mp hb
  exact textBlock_of_not_broken (Leaf.ordinary_of_isSimple (hn c hc) _) hb' (h b hb)

/-- A heading between two paragraphs, the second of them with an empty line between two lines and a time of the day. -/
theorem render_ofMarkup_render_separate :
    let n : Node := .element "div" [] [.element "p" [] [.text .plain "One".toList],
      .element "h2" [] [.text .plain "Two".toList],
      .element "p" [] [.text .plain "Three".toList, .element "br" [] [], .text .plain "\nfour".toList,
        .element "br" [] [], .text .plain "10:30 Five".toList]]
    (∀ c ∈ n.children, c.isSimple = true) ∧
      (∃ c ∈ n.children, c.hasTag "p" = true ∧ isBlank c.blockText = false) ∧
      (∀ c ∈ n.children, c.hasTag "p" = true → (splitOn '\n' (trim c.blockText)).IsChain Separate) ∧
      render [] (ofMarkup (render [] (collect [] [] n))) = render [] (collect [] [] n) := by
  intro n
  have hn : ∀ c ∈ n.children, c.isSimple = true := by decide
  have hp : ∃ c ∈ n.children, c.hasTag "p" = true ∧ isBlank c.blockText = false := by decide
  have hlines : ∀ c ∈ n.children, c.hasTag "p" = true → (splitOn '\n' (trim c.blockText)).IsChain Separate := by
    decide +kernel
  exact ⟨hn, hp, hlines, (render_ofMarkup_render_iff hn hp).mpr hlines⟩

/-- Two lines of a paragraph are written as one block, and read back as two. -/
theorem not_reads_back_lineBreak :
    let n : Node := .element "div" [] [.element "p" [] [.text .plain "A".toList, .element "br" [] [],
      .text .plain "B".toList]]
    (∀ c ∈ n.children, c.isSimple = true) ∧
      (∃ c ∈ n.children, c.hasTag "p" = true ∧ isBlank c.blockText = false) ∧
      render [] (collect [] [] n) = "<p>A\n<br> B</p>".toList ∧
      render [] (ofMarkup (render [] (collect [] [] n))) = "<p>A</p>\n<p>B</p>".toList := by
  decide +kernel

end Excerpt.Body
