import Excerpt.Proofs.Body.Cleaned
import Excerpt.Proofs.Page.Written

/-!
# The blocks of a paragraph

A leaf is `Ordinary` if it is a paragraph or heading without marks and strong beginnings, or blank. The blocks that it
gives do not depend on the blocks before it, but for the way they stand (`settled_addLeaf`): a heading gives a title for
each of its lines; a paragraph begins with a block for its first line, and each further line is put behind a line break
or begins a block of its own, as the line in front of it says (`blocksFrom`).

If no line goes on from the one in front, there is a block for each line that is not empty (`blocksFrom_of_isChain`);
otherwise some block is empty or holds a line break (`exists_broken`).
-/

namespace Excerpt.Body

open Text (isBlank)

/-! ## Blocks apart from their surroundings -/

namespace Block

/-- The block without what tells how it stands among its neighbours. -/
def settled (b : Block) : Block :=
  { b with display := .block, afterBreak := false }

/-- The block with one more line after a line break. -/
def withLine (b : Block) (t : Text) : Block :=
  let joint := if (t.head?.map Text.isAlphanumeric).getD false then [' '] else []
  { b with text := b.text ++ '\n' :: lineBreak ++ joint ++ t }

end Block

/-- The block of a text that is not strong. -/
def textBlock (tag : String) (t : Text) : Block :=
  ⟨tag, .of tag t, false, t, none, .block, false⟩

theorem dropPrefix?_mark_of_not_mem {t : Text} (h : '<' ∉ t) : Text.dropPrefix? lineBreak t = none := by
  rw [Option.eq_none_iff_forall_ne_some]
  rintro r hr
  rw [Text.dropPrefix?_eq_some_iff] at hr
  exact h (hr ▸ List.mem_cons_self)

theorem promote_of_not_strong {b : Block} (h : b.strong = false) (next : Block) : promote next b = b := by
  rw [promote, h]
  simp

/-- What is added after a line break has a blank in front if it begins with a letter or digit. -/
theorem settled_add {t : Text} (h : '<' ∉ t) (b : Block) :
    ((b.add ['\n']).addBreak.add t).settled = b.settled.withLine t := by
  have hlast : b.text ++ '\n' :: lineBreak = b.text ++ "\n<br".toList ++ ['>'] := by simp [lineBreak]
  have hends : Text.endsWith '\n' (b.text ++ '\n' :: lineBreak) = false := by
    rw [Text.endsWith, hlast, List.getLast?_concat]
    rfl
  have hempty : (b.text ++ '\n' :: lineBreak).isEmpty = false := by simp
  have htext : ((b.add ['\n']).addBreak.add t).text = (b.settled.withLine t).text := by
    rw [Block.add, dropPrefix?_mark_of_not_mem h, addBreak_text, hends, hempty]
    simp [Block.withLine, Block.settled]
  exact congrArg (fun u => { b.settled with text := u }) htext

/-! ## The block of a line -/

/-- A leaf that is not strong and has no marks in its text: a paragraph, a heading, or blank. -/
structure Leaf.Ordinary (l : Leaf) : Prop where
  strong : l.strong = false
  unmarked : '<' ∉ l.text
  tag : l.tag ∈ Token.blockTags ∨ isBlank l.text = true

namespace Leaf

variable {l : Leaf}

theorem givesStrong_of_not (h : l.strong = false) : l.givesStrong = false := by
  rw [givesStrong, h, Bool.and_false]

end Leaf

theorem kind_paragraph (t : Text) : BlockKind.of "p" t = if isTimestamp t then .timestamp else .text := rfl

theorem kind_heading {tag : String} (h : tag ∈ Token.blockTags) (hp : tag ≠ "p") (t : Text) :
    BlockKind.of tag t = .title := by
  have hheading : isHeading tag = true := by
    revert tag
    decide
  rw [BlockKind.of, hheading, if_pos rfl]

theorem kind_ne_list {tag : String} (h : tag ∈ Token.blockTags) (t : Text) : (BlockKind.of tag t == .list) = false := by
  by_cases hp : tag = "p"
  · rw [hp, kind_paragraph]
    split <;> rfl
  · rw [kind_heading h hp]
    rfl

theorem isBlockTag_of_mem {tag : String} (h : tag ∈ Token.blockTags) : isBlockTag tag = true := by
  revert tag
  decide

namespace Leaf

variable {l : Leaf}

/-- A line without a mark in front gives the block of its text. -/
theorem block_of_not_mem (hs : l.strong = false) (ht : l.tag ∈ Token.blockTags) {line : Text} (hline : '<' ∉ line)
    (isFirst inline : Bool) : (l.block isFirst inline line).settled = textBlock l.tag line ∧
      (l.block isFirst inline line).isBlock = true ∧ (l.block isFirst inline line).afterBreak = false := by
  have hof : Block.of l.tag line l.givesStrong = ⟨l.tag, .of l.tag line, false, line, none, .block, false⟩ := by
    rw [Block.of, dropPrefix?_mark_of_not_mem hline, givesStrong_of_not hs, isBlockTag_of_mem ht]
    rfl
  rw [Leaf.block, hof]
  refine ⟨?_, ?_, rfl⟩
  · simp [Block.settled, textBlock, kind_ne_list ht]
  · cases isFirst <;> cases inline <;> rfl

/-- A line with a mark in front gives the block of what is behind the mark. -/
theorem block_mark (hs : l.strong = false) (ht : l.tag ∈ Token.blockTags) (t : Text) (isFirst inline : Bool) :
    (l.block isFirst inline (cleanText (lineBreak ++ t))).settled = textBlock l.tag (cleanText t) ∧
      (l.block isFirst inline (cleanText (lineBreak ++ t))).isBlock = true ∧
      (l.block isFirst inline (cleanText (lineBreak ++ t))).afterBreak = true := by
  obtain ⟨rest, hclean, htrim, -⟩ := exists_cleanText_mark t
  have hrest : Text.dropPrefix? lineBreak (cleanText (lineBreak ++ t)) = some rest :=
    Text.dropPrefix?_eq_some_iff.mpr hclean
  have hof : Block.of l.tag (cleanText (lineBreak ++ t)) l.givesStrong =
      ⟨l.tag, .of l.tag (cleanText t), false, cleanText t, none, .block, true⟩ := by
    rw [Block.of, hrest, givesStrong_of_not hs, isBlockTag_of_mem ht]
    dsimp only
    rw [htrim]
    rfl
  rw [Leaf.block, hof]
  refine ⟨?_, ?_, rfl⟩
  · simp [Block.settled, textBlock, kind_ne_list ht]
  · cases isFirst <;> cases inline <;> rfl

end Leaf

/-! ## The blocks of a paragraph -/

/-- Whether a line goes on with the block of the line in front of it: that line is not blank, and no time of the day
begins the line. -/
def goesOn (before line : Text) : Bool :=
  !isBlank before && !isTimestamp (cleanText line)

/-- The blocks of a paragraph from its last block so far, the line in front and the further lines. -/
def blocksFrom (b : Block) (before : Text) : List Text → List Block
  | [] => [b]
  | line :: rest =>
    if line.isEmpty then blocksFrom b line rest
    else if goesOn before line then blocksFrom (b.withLine (cleanText line)) line rest
    else b :: blocksFrom (textBlock "p" (cleanText line)) line rest

theorem isEmpty_cleanText_marked (t : Text) : (cleanText (marked t)).isEmpty = t.isEmpty := by
  rw [marked]
  split
  · rename_i h
    rw [List.isEmpty_iff.mp h]
    rfl
  · rename_i h
    rw [Bool.not_eq_true] at h
    rw [h, Bool.eq_false_iff]
    intro he
    rw [List.isEmpty_iff, cleanText_eq_nil_iff, isBlank, List.all_append] at he
    cases he

/-- A line has text if it is neither empty nor a mark alone. -/
def hasText (line : Text) : Bool :=
  !line.isEmpty && line != lineBreak

theorem hasText_cleanText {t : Text} (h : '<' ∉ t) : hasText (cleanText t) = !isBlank t := by
  have hne : (cleanText t != lineBreak) = true := by
    rw [bne_iff_ne]
    intro he
    exact h (mem_of_mem_cleanText (by decide) (he ▸ List.mem_cons_self))
  rw [hasText, hne, Bool.and_true, Bool.eq_iff_iff, Bool.not_eq_true', Bool.not_eq_true', ← Bool.not_eq_true,
    ← Bool.not_eq_true, List.isEmpty_iff, cleanText_eq_nil_iff]

theorem hasText_cleanText_marked (t : Text) : hasText (cleanText (marked t)) = !isBlank t := by
  by_cases ht : t = []
  · subst ht
    rfl
  · obtain ⟨rest, hclean, -, hrest⟩ := exists_cleanText_mark t
    rw [marked, if_neg (by simpa using ht), hclean, hasText, Bool.eq_iff_iff, Bool.not_eq_true', ← Bool.not_eq_true,
      ← hrest]
    simp [lineBreak]

/-- Whether a line goes on is told by what is left of the line in front of it. -/
theorem joinsLast_iff {b : Block} {before line prev : Text} (hb : b.afterBreak = true)
    (hkind : b.settled = textBlock "p" (cleanText line)) (hprev : hasText prev = !isBlank before) :
    joinsLast (some prev) b = goesOn before line := by
  have hk : (b.kind != .timestamp) = !isTimestamp (cleanText line) := by
    have h : b.kind = BlockKind.of "p" (cleanText line) := congrArg Block.kind hkind
    rw [h, kind_paragraph]
    cases isTimestamp (cleanText line) <;> rfl
  rw [joinsLast, hb, Bool.true_and, hk, ← hasText, hprev, goesOn]

/-- The lines of a paragraph after the first. -/
theorem settled_addLines {l : Leaf} (hs : l.strong = false) (ht : l.tag = "p") (inline : Bool) :
    ∀ {rest : List Text} {before prev : Text} {last : Block} {bs : List Block}, (∀ line ∈ rest, '<' ∉ line) →
      hasText prev = !isBlank before → last.strong = false →
      (addLines l inline (some prev) (last :: bs) (rest.map fun line => cleanText (marked line))).map Block.settled =
        (blocksFrom last.settled before rest).reverse ++ bs.map Block.settled
  | [], _, _, _, _, _, _, _ => rfl
  | line :: rest, before, prev, last, bs, hrest, hprev, hlast => by
    rw [List.forall_mem_cons] at hrest
    have hnext := hasText_cleanText_marked line
    rw [List.map_cons, addLines, isEmpty_cleanText_marked, blocksFrom]
    by_cases hline : line.isEmpty = true
    · -- An empty line gives no block, whether or not it closes the last one.
      rw [if_pos hline, if_pos hline]
      split
      · exact settled_addLines hs ht inline hrest.2 hnext hlast
      · exact settled_addLines hs ht inline hrest.2 hnext hlast
    · rw [if_neg hline, if_neg hline]
      have hmark : marked line = lineBreak ++ line := if_neg hline
      obtain ⟨hblock, hisBlock, hafter⟩ := Leaf.block_mark hs (ht ▸ by decide) line false inline
      rw [← hmark, ht] at hblock
      rw [← hmark] at hisBlock hafter
      rw [Option.isNone_some, place, hisBlock, Bool.not_true, if_neg Bool.false_ne_true,
        joinsLast_iff hafter hblock hprev]
      by_cases hgo : goesOn before line = true
      · rw [if_pos hgo, if_pos hgo]
        have hadd : (((last.add ['\n']).addBreak.add (l.block false inline (cleanText (marked line))).text)).settled =
            last.settled.withLine (cleanText line) := by
          have htext : (l.block false inline (cleanText (marked line))).text = cleanText line :=
            congrArg Block.text hblock
          rw [htext]
          exact settled_add (fun h => hrest.1 (mem_of_mem_cleanText (by decide) h)) last
        rw [← hadd]
        exact settled_addLines hs ht inline hrest.2 hnext hlast
      · rw [if_neg hgo, if_neg hgo, promote_of_not_strong hlast]
        have hstrong : (l.block false inline (cleanText (marked line))).strong = false :=
          congrArg Block.strong hblock
        rw [settled_addLines hs ht inline hrest.2 hnext hstrong, hblock]
        simp

/-! ## The blocks of a leaf -/

/-- The blocks of the lines of a paragraph. -/
def paragraphBlocks : List Text → List Block
  | [] => []
  | first :: rest => if first.isEmpty then [] else blocksFrom (textBlock "p" (cleanText first)) first rest

/-- The blocks of the lines of a heading. -/
def headingBlocks (tag : String) (lines : List Text) : List Block :=
  ((lines.map cleanText).filter (!·.isEmpty)).map (textBlock tag)

/-- The blocks of an ordinary leaf. -/
def Leaf.blocks (l : Leaf) : List Block :=
  if l.tag == "p" then paragraphBlocks l.pieces else headingBlocks l.tag l.pieces

theorem settled_closeLast (bs : List Block) : (closeLast bs).map Block.settled = bs.map Block.settled := by
  cases bs <;> rfl

theorem Leaf.pieces_of_isBlank {l : Leaf} (h : isBlank l.text = true) : l.pieces = [[]] := by
  rw [Leaf.pieces, Text.trim_eq_nil_iff.mpr h]
  rfl

/-- A blank leaf gives no block. -/
theorem Leaf.blocks_of_isBlank {l : Leaf} (h : isBlank l.text = true) : l.blocks = [] := by
  rw [Leaf.blocks, Leaf.pieces_of_isBlank h]
  split <;> rfl

theorem Leaf.lines_of_isBlank {l : Leaf} (h : isBlank l.text = true) : l.lines = [[]] := by
  rw [Leaf.lines_eq, Leaf.pieces_of_isBlank h]
  split <;> rfl

/-- A blank leaf closes the last block. -/
theorem addLeaf_of_isBlank {l : Leaf} (h : isBlank l.text = true) (bs : List Block) : addLeaf bs l = closeLast bs := by
  rw [addLeaf, Leaf.lines_of_isBlank h]
  rfl

theorem settled_addLeaf_blank {l : Leaf} (h : isBlank l.text = true) (bs : List Block) :
    (addLeaf bs l).map Block.settled = bs.map Block.settled := by
  rw [addLeaf_of_isBlank h, settled_closeLast]

/-- The first line of a leaf that is not blank is not blank. -/
theorem Leaf.exists_first {l : Leaf} (h : isBlank l.text = false) :
    ∃ first rest, l.pieces = first :: rest ∧ isBlank first = false := by
  obtain ⟨first, rest, hp⟩ := List.exists_cons_of_ne_nil (Text.splitOn_ne_nil '\n' (Text.trim l.text))
  refine ⟨first, rest, hp, ?_⟩
  have hne : Text.trim l.text ≠ [] := fun he => by
    rw [Text.trim_eq_nil_iff.mp he] at h
    cases h
  obtain ⟨c, t, ht⟩ := List.exists_cons_of_ne_nil hne
  have hc : Text.isSpace c = false := Text.isSpace_of_head?_trim (t := l.text) (by rw [ht]; rfl)
  have hnl : c ≠ '\n' := by
    rintro rfl
    cases hc
  obtain ⟨w, ws, hw⟩ := List.exists_cons_of_ne_nil (Text.splitOn_ne_nil '\n' t)
  rw [ht, Text.splitOn_cons_of_ne hnl hw] at hp
  rw [← (List.cons.inj hp).1, isBlank, List.all_cons, hc, Bool.false_and]

/-- The last line of a leaf that is not blank is not blank. -/
theorem Leaf.exists_last {l : Leaf} (h : isBlank l.text = false) :
    ∃ init last, l.pieces = init ++ [last] ∧ isBlank last = false := by
  have hne : Text.trim l.text ≠ [] := fun he => by
    rw [Text.trim_eq_nil_iff.mp he] at h
    cases h
  obtain ⟨u, c, hu⟩ := List.eq_nil_or_concat' (Text.trim l.text) |>.resolve_left hne
  have hc : Text.isSpace c = false := Text.isSpace_of_getLast?_trim (t := l.text) (by rw [hu, List.getLast?_concat])
  have hnl : '\n' ∉ [c] := by
    rw [List.mem_singleton]
    rintro rfl
    cases hc
  obtain ⟨init, w, hw⟩ := List.eq_nil_or_concat' (Text.splitOn '\n' u) |>.resolve_left (Text.splitOn_ne_nil '\n' u)
  refine ⟨init, w ++ [c], ?_, ?_⟩
  · rw [Leaf.pieces, hu]
    exact Text.splitOn_append hw (Text.splitOn_of_not_mem hnl)
  · rw [isBlank, List.all_append, List.all_cons, hc, Bool.false_and, Bool.and_false]

/-- A line without a mark begins a block. -/
theorem place_unmarked {b : Block} {bs : List Block} (hb : b.isBlock = true) (ha : b.afterBreak = false)
    (hbs : ∀ b ∈ bs, b.strong = false) (before : Option Text) : place before b bs = b :: bs := by
  cases bs with
  | nil => rfl
  | cons last bs =>
    have hjoins : joinsLast before b = false := by rw [joinsLast.eq_def, ha, Bool.false_and]
    rw [place, hb, hjoins, promote_of_not_strong (hbs last List.mem_cons_self)]
    rfl

theorem settled_addLeaf_paragraph {l : Leaf} (hl : l.Ordinary) (ht : l.tag = "p") (hb : isBlank l.text = false)
    {bs : List Block} (hbs : ∀ b ∈ bs, b.strong = false) :
    (addLeaf bs l).map Block.settled = l.blocks.reverse ++ bs.map Block.settled := by
  obtain ⟨first, rest, hp, hfirst⟩ := Leaf.exists_first hb
  have hmem : ∀ line ∈ first :: rest, '<' ∉ line := fun line hline hc =>
    hl.unmarked (Leaf.mem_of_mem_pieces (hp ▸ hline) hc)
  rw [List.forall_mem_cons] at hmem
  have hne : (cleanText first).isEmpty = false := by
    rw [Bool.eq_false_iff, ne_eq, List.isEmpty_iff, cleanText_eq_nil_iff, hfirst]
    decide
  have hfne := Text.isEmpty_of_not_blank hfirst
  obtain ⟨hblock, hisBlock, hafter⟩ := Leaf.block_of_not_mem hl.strong (ht ▸ by decide)
    (fun h => hmem.1 (mem_of_mem_cleanText (by decide) h)) true (continuesLast bs)
  rw [ht] at hblock
  have hlines : l.lines = cleanText first :: rest.map fun line => cleanText (marked line) := by
    rw [Leaf.lines_eq, ht, hp, beq_self_eq_true, if_pos rfl, markedLines, List.map_cons, List.map_map]
    rfl
  have hstrong : (l.block true (continuesLast bs) (cleanText first)).strong = false := congrArg Block.strong hblock
  rw [addLeaf, hlines, addLines, hne, if_neg Bool.false_ne_true, Option.isNone_none, place_unmarked hisBlock hafter hbs,
    settled_addLines hl.strong ht _ hmem.2 (hasText_cleanText hmem.1) hstrong, hblock,
    Leaf.blocks, ht, hp, beq_self_eq_true, if_pos rfl, paragraphBlocks, hfne]
  rfl

/-- The lines of a heading are titles of their own. -/
theorem settled_addLines_heading {l : Leaf} (hs : l.strong = false) (ht : l.tag ∈ Token.blockTags) (inline : Bool) :
    ∀ {lines : List Text} {before : Option Text} {bs : List Block}, (∀ line ∈ lines, '<' ∉ line) →
      (∀ b ∈ bs, b.strong = false) → (addLines l inline before bs (lines.map cleanText)).map Block.settled =
        (headingBlocks l.tag lines).reverse ++ bs.map Block.settled
  | [], _, _, _, _ => rfl
  | line :: lines, before, bs, hlines, hbs => by
    rw [List.forall_mem_cons] at hlines
    rw [List.map_cons, addLines, headingBlocks, List.map_cons, List.filter_cons]
    by_cases hline : (cleanText line).isEmpty = true
    · have hclose : ∀ b ∈ closeLast bs, b.strong = false := by
        cases bs with
        | nil => exact hbs
        | cons b bs =>
          exact List.forall_mem_cons.mpr ⟨hbs b List.mem_cons_self, fun c hc => hbs c (List.mem_cons_of_mem _ hc)⟩
      rw [if_pos hline, hline]
      split
      · rw [settled_addLines_heading hs ht inline hlines.2 hclose, settled_closeLast]
        rfl
      · exact settled_addLines_heading hs ht inline hlines.2 hbs
    · obtain ⟨hblock, hisBlock, hafter⟩ := Leaf.block_of_not_mem hs ht
        (fun h => hlines.1 (mem_of_mem_cleanText (by decide) h)) before.isNone inline
      have hstrong : (l.block before.isNone inline (cleanText line)).strong = false := congrArg Block.strong hblock
      rw [if_neg hline, place_unmarked hisBlock hafter hbs,
        settled_addLines_heading hs ht inline hlines.2 (List.forall_mem_cons.mpr ⟨hstrong, hbs⟩), List.map_cons, hblock,
        if_pos (by simpa using hline), List.map_cons, List.reverse_cons, List.append_assoc]
      rfl

theorem Leaf.tag_mem {l : Leaf} (hl : l.Ordinary) (hb : isBlank l.text = false) : l.tag ∈ Token.blockTags :=
  hl.tag.resolve_right (by rw [hb]; decide)

/-- **The blocks of an ordinary leaf are put behind the others.** -/
theorem settled_addLeaf {l : Leaf} (hl : l.Ordinary) {bs : List Block} (hbs : ∀ b ∈ bs, b.strong = false) :
    (addLeaf bs l).map Block.settled = l.blocks.reverse ++ bs.map Block.settled := by
  cases hb : isBlank l.text with
  | true => rw [settled_addLeaf_blank hb, Leaf.blocks_of_isBlank hb]; rfl
  | false =>
    by_cases ht : l.tag = "p"
    · exact settled_addLeaf_paragraph hl ht hb hbs
    · have hp : (l.tag == "p") = false := by simpa using ht
      have hmem : ∀ line ∈ l.pieces, '<' ∉ line := fun line hline hc => hl.unmarked (Leaf.mem_of_mem_pieces hline hc)
      rw [addLeaf, Leaf.lines_eq, Leaf.blocks, hp, if_neg Bool.false_ne_true, if_neg Bool.false_ne_true]
      exact settled_addLines_heading hl.strong (Leaf.tag_mem hl hb) _ hmem hbs

theorem blocksFrom_ne_nil : ∀ {rest : List Text} {b : Block} {before : Text}, blocksFrom b before rest ≠ []
  | [], _, _ => List.cons_ne_nil _ _
  | line :: rest, b, before => by
    rw [blocksFrom]
    split
    · exact blocksFrom_ne_nil
    · split
      · exact blocksFrom_ne_nil
      · exact List.cons_ne_nil _ _

/-- A paragraph that is not blank has a block. -/
theorem Leaf.blocks_ne_nil {l : Leaf} (ht : l.tag = "p") (hb : isBlank l.text = false) : l.blocks ≠ [] := by
  obtain ⟨first, rest, hp, hfirst⟩ := Leaf.exists_first hb
  rw [Leaf.blocks, ht, hp, beq_self_eq_true, if_pos rfl, paragraphBlocks, Text.isEmpty_of_not_blank hfirst]
  exact blocksFrom_ne_nil

/-! ## What all blocks of a leaf have in common -/

/-- What new blocks have and further lines keep, all blocks of a paragraph have. -/
theorem forall_mem_blocksFrom {P : Block → Prop} : ∀ {rest : List Text} {b : Block} {before : Text},
    (∀ line ∈ rest, P (textBlock "p" (cleanText line))) →
      (∀ line ∈ rest, ∀ b, P b → P (b.withLine (cleanText line))) → P b → ∀ c ∈ blocksFrom b before rest, P c
  | [], b, _, _, _, hb => List.forall_mem_singleton.mpr hb
  | line :: rest, b, before, hnew, hmore, hb => by
    rw [List.forall_mem_cons] at hnew hmore
    rw [blocksFrom]
    split
    · exact forall_mem_blocksFrom hnew.2 hmore.2 hb
    · split
      · exact forall_mem_blocksFrom hnew.2 hmore.2 (hmore.1 b hb)
      · exact List.forall_mem_cons.mpr ⟨hb, forall_mem_blocksFrom hnew.2 hmore.2 hnew.1⟩

/-- What the blocks of lines have and further lines keep, all blocks of a leaf have. -/
theorem Leaf.forall_mem_blocks {P : Block → Prop} {l : Leaf} (hl : l.Ordinary)
    (hnew : l.tag ∈ Token.blockTags → ∀ line ∈ l.pieces, P (textBlock l.tag (cleanText line)))
    (hmore : ∀ line ∈ l.pieces, ∀ b, P b → P (b.withLine (cleanText line))) : ∀ b ∈ l.blocks, P b := by
  cases hb : isBlank l.text with
  | true =>
    rw [Leaf.blocks_of_isBlank hb]
    exact fun _ h => by cases h
  | false =>
    have hnew := hnew (Leaf.tag_mem hl hb)
    rw [Leaf.blocks]
    split
    · rename_i ht
      rw [beq_iff_eq] at ht
      rw [ht] at hnew
      cases hp : l.pieces with
      | nil => exact fun _ h => by cases h
      | cons first rest =>
        rw [hp, List.forall_mem_cons] at hnew hmore
        rw [paragraphBlocks]
        split
        · exact fun _ h => by cases h
        · exact forall_mem_blocksFrom hnew.2 hmore.2 hnew.1
    · rw [headingBlocks]
      intro b hbm
      obtain ⟨t, ht, rfl⟩ := List.mem_map.mp hbm
      obtain ⟨line, hline, rfl⟩ := List.mem_map.mp (List.mem_filter.mp ht).1
      exact hnew line hline

/-- A block of a paragraph or heading: not strong, and of the kind of its tag. -/
structure Block.Ordinary (b : Block) : Prop where
  tag_mem : b.tag ∈ Token.blockTags
  strong : b.strong = false
  kind : ∃ t, b.kind = .of b.tag t

theorem Leaf.ordinary_blocks {l : Leaf} (hl : l.Ordinary) : ∀ b ∈ l.blocks, b.Ordinary :=
  Leaf.forall_mem_blocks hl (fun ht _ _ => ⟨ht, rfl, _, rfl⟩) fun _ _ _ hb => ⟨hb.tag_mem, hb.strong, hb.kind⟩

/-- Ordinary leaves give their blocks in turn. -/
theorem settled_addLeaves : ∀ {ls : List Leaf} {bs : List Block}, (∀ l ∈ ls, l.Ordinary) →
    (∀ b ∈ bs, b.strong = false) → (ls.foldl addLeaf bs).map Block.settled =
      (ls.flatMap Leaf.blocks).reverse ++ bs.map Block.settled
  | [], _, _, _ => rfl
  | l :: ls, bs, hl, hbs => by
    rw [List.forall_mem_cons] at hl
    have hadd := settled_addLeaf hl.1 hbs
    have hstrong : ∀ b ∈ addLeaf bs l, b.strong = false := by
      intro b hb
      have hmem : b.settled ∈ l.blocks.reverse ++ bs.map Block.settled := hadd ▸ List.mem_map_of_mem hb
      rcases List.mem_append.mp hmem with h | h
      · exact (Leaf.ordinary_blocks hl.1 _ (List.mem_reverse.mp h)).strong
      · obtain ⟨c, hc, he⟩ := List.mem_map.mp h
        exact (congrArg Block.strong he).symm.trans (hbs c hc)
    rw [List.foldl_cons, settled_addLeaves hl.2 hstrong, hadd]
    simp

/-- **The blocks of a tree of ordinary leaves are those of the leaves.** -/
theorem settled_collect {n : Node} (hl : ∀ l ∈ leavesIn [] (n.tag?.getD "") n.children, l.Ordinary) :
    (collect [] [] n).map Block.settled = (leavesIn [] (n.tag?.getD "") n.children).flatMap Leaf.blocks := by
  rw [collect, List.map_reverse, List.reverse_nil, settled_addLeaves hl (by simp)]
  simp

/-! ## Lines that go on and lines that do not -/

/-- Whether a line begins a block of its own, or is empty. -/
def Separate (before line : Text) : Prop :=
  line = [] ∨ isBlank line = false ∧ goesOn before line = false

instance (before line : Text) : Decidable (Separate before line) :=
  inferInstanceAs (Decidable (line = [] ∨ isBlank line = false ∧ goesOn before line = false))

theorem not_blank_of_isChain : ∀ {rest : List Text} {before : Text}, (before :: rest).IsChain Separate →
    ∀ line ∈ rest, line = [] ∨ isBlank line = false
  | [], _, _ => fun _ h => by cases h
  | line :: rest, before, h => by
    rw [List.isChain_cons_cons] at h
    exact List.forall_mem_cons.mpr ⟨h.1.imp_right And.left, not_blank_of_isChain h.2⟩

/-- If no line goes on, each line with text is a block. -/
theorem blocksFrom_of_isChain : ∀ {rest : List Text} {b : Block} {before : Text},
    (before :: rest).IsChain Separate → blocksFrom b before rest =
      b :: (rest.filter (!·.isEmpty)).map fun line => textBlock "p" (cleanText line)
  | [], _, _, _ => rfl
  | line :: rest, b, before, h => by
    rw [List.isChain_cons_cons] at h
    rw [blocksFrom]
    rcases h.1 with rfl | ⟨hline, hgo⟩
    · exact blocksFrom_of_isChain h.2
    · have hne := Text.isEmpty_of_not_blank hline
      rw [hne, hgo, if_neg Bool.false_ne_true, if_neg Bool.false_ne_true, blocksFrom_of_isChain h.2,
        List.filter_cons_of_pos (by rw [hne]; rfl), List.map_cons]

/-- A text that does not fill a single line. -/
def Broken (t : Text) : Prop :=
  t = [] ∨ '\n' ∈ t

theorem broken_withLine (b : Block) (t : Text) : Broken (b.withLine t).text :=
  .inr (by simp [Block.withLine])

theorem exists_broken_of_broken : ∀ {rest : List Text} {b : Block} {before : Text}, Broken b.text →
    ∃ c ∈ blocksFrom b before rest, Broken c.text
  | [], b, _, h => ⟨b, List.mem_singleton.mpr rfl, h⟩
  | line :: rest, b, before, h => by
    rw [blocksFrom]
    split
    · exact exists_broken_of_broken h
    · split
      · exact exists_broken_of_broken (broken_withLine b _)
      · exact ⟨b, List.mem_cons_self, h⟩

/-- If a line goes on or is blank but not empty, some block does not fill a single line. -/
theorem exists_broken : ∀ {rest : List Text} {b : Block} {before : Text}, ¬ (before :: rest).IsChain Separate →
    ∃ c ∈ blocksFrom b before rest, Broken c.text
  | [], b, before, h => (h (List.isChain_singleton _)).elim
  | line :: rest, b, before, h => by
    rw [List.isChain_cons_cons, not_and_or] at h
    rw [blocksFrom]
    by_cases hline : line.isEmpty = true
    · rw [if_pos hline]
      exact exists_broken (h.resolve_left fun hs => hs (.inl (List.isEmpty_iff.mp hline)))
    · rw [if_neg hline]
      by_cases hgo : goesOn before line = true
      · rw [if_pos hgo]
        exact exists_broken_of_broken (broken_withLine b _)
      · rw [if_neg hgo]
        rcases h with h | h
        · -- A line of white space after a blank one is a block without a text.
          have hblank : isBlank line = true := by
            rw [← Bool.not_eq_false]
            exact fun hb => h (.inr ⟨hb, Bool.not_eq_true _ ▸ hgo⟩)
          obtain ⟨c, hc, hbroken⟩ : ∃ c ∈ blocksFrom (textBlock "p" (cleanText line)) line rest, Broken c.text :=
            exists_broken_of_broken (.inl (cleanText_eq_nil_iff.mpr hblank))
          exact ⟨c, List.mem_cons_of_mem _ hc, hbroken⟩
        · obtain ⟨c, hc, hbroken⟩ := exists_broken h
          exact ⟨c, List.mem_cons_of_mem _ hc, hbroken⟩

theorem not_broken_cleanText {line : Text} (hb : isBlank line = false) (hn : '\n' ∉ line) :
    ¬ Broken (cleanText line) := by
  rintro (h | h)
  · rw [cleanText_eq_nil_iff, hb] at h
    cases h
  · exact hn (mem_of_mem_cleanText (by decide) h)

/-- **All blocks of a leaf fill a single line each, unless a line of a paragraph goes on or is blank but not empty.** -/
theorem Leaf.forall_not_broken_iff {l : Leaf} :
    (∀ b ∈ l.blocks, ¬ Broken b.text) ↔ (l.tag = "p" → l.pieces.IsChain Separate) := by
  have hsingle : ∀ line ∈ l.pieces, '\n' ∉ line := fun line h => Text.not_mem_of_mem_splitOn h
  by_cases ht : l.tag = "p"
  · rw [imp_iff_right ht, Leaf.blocks, ht, beq_self_eq_true, if_pos rfl]
    cases hb : isBlank l.text with
    | true =>
      rw [Leaf.pieces_of_isBlank hb]
      exact iff_of_true (fun b h => by cases h) (List.isChain_singleton _)
    | false =>
      obtain ⟨first, rest, hp, hfirst⟩ := Leaf.exists_first hb
      have hne := Text.isEmpty_of_not_blank hfirst
      rw [hp, List.forall_mem_cons] at hsingle
      rw [hp, paragraphBlocks, hne, if_neg Bool.false_ne_true]
      refine ⟨fun h => not_not.mp fun hchain => ?_, fun hchain => ?_⟩
      · obtain ⟨b, hmem, hbroken⟩ := exists_broken hchain
        exact h b hmem hbroken
      · rw [blocksFrom_of_isChain hchain, List.forall_mem_cons]
        refine ⟨not_broken_cleanText hfirst hsingle.1, fun b hmem => ?_⟩
        obtain ⟨line, hline, rfl⟩ := List.mem_map.mp hmem
        obtain ⟨hline, hne⟩ := List.mem_filter.mp hline
        rcases not_blank_of_isChain hchain line hline with rfl | hblank
        · cases hne
        · exact not_broken_cleanText hblank (hsingle.2 line hline)
  · have hp : (l.tag == "p") = false := by simpa using ht
    rw [Leaf.blocks, hp, if_neg Bool.false_ne_true, headingBlocks]
    refine iff_of_true (fun b hb => ?_) fun h => (ht h).elim
    obtain ⟨t, hmem, rfl⟩ := List.mem_map.mp hb
    obtain ⟨hclean, hne⟩ := List.mem_filter.mp hmem
    obtain ⟨line, hline, rfl⟩ := List.mem_map.mp hclean
    refine not_broken_cleanText (Bool.eq_false_iff.mpr fun h => ?_) (hsingle line hline)
    rw [cleanText_eq_nil_iff.mpr h] at hne
    cases hne

end Excerpt.Body
