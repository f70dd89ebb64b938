import Excerpt.Proofs.Body.Conservation

/-!
# Where the text of blocks comes from

A `Piece` of a text is a tag, a line break that the library puts in, or text of the page. `Sourced` is a block together
with the pieces of its text, and `Sourced.collect` is the walk over a tree with the pieces written down: without them it
is the walk itself (`Sourced.collect_blocks`). One step of it is a line of a leaf; what every step keeps, the walk keeps
(`Sourced.Keeps.collect`). So all page text in the blocks is text of the pages (`Sourced.stems_collect`).

A page can have the mark of a line break in its own text. The walk takes that mark off and puts it back; it counts as
page text here.
-/

namespace Excerpt.Body

open Text (bare)
open Node (stringsIn)

/-! ## Pieces -/

/-- A piece of a text, by the one who wrote it. -/
inductive Piece where
  /-- The tag that opens an element. -/
  | opening (tag : String)
  /-- The tag that closes an element. -/
  | closing (tag : String)
  /-- The mark of a line break. -/
  | mark
  | newline
  /-- Text of the page. -/
  | page (t : Text)
deriving DecidableEq, Repr

/-- The text of a piece. -/
def Piece.text : Piece → Text
  | opening tag => '<' :: tag.toList ++ ['>']
  | closing tag => '<' :: '/' :: tag.toList ++ ['>']
  | mark => lineBreak
  | newline => ['\n']
  | page t => t

/-- The text that pieces make up. -/
def plain (ps : List Piece) : Text :=
  ps.flatMap Piece.text

@[simp] theorem plain_nil : plain [] = [] := rfl

@[simp] theorem plain_cons (p : Piece) (ps : List Piece) : plain (p :: ps) = p.text ++ plain ps :=
  List.flatMap_cons

@[simp] theorem plain_append (ps qs : List Piece) : plain (ps ++ qs) = plain ps ++ plain qs :=
  List.flatMap_append

/-! ## Text of the page -/

/-- Whether the piece is no tag and, if it is page text, from one of the pages: white space aside, a stretch of its
strings. -/
def Piece.Stems (pages : List Node) : Piece → Prop
  | page t => ∃ n ∈ pages, bare t <:+: bare n.stringsBelow.flatten
  | mark | newline => True
  | opening _ | closing _ => False

/-- The text that a block gets when a text is added to it. -/
def addition (b : Block) (t : Text) : Text :=
  (b.add t).text.drop b.text.length

/-- Adding a text puts it at the end, without a mark in front or with that mark, and perhaps with a blank. -/
theorem add_text_within (b : Block) (t : Text) : ∃ u, (b.add t).text = b.text ++ u ∧ bare u <:+: bare t := by
  refine ⟨_, List.append_assoc _ _ _, ?_⟩
  have hblank : ∀ u : Text, bare (' ' :: u) = bare u := Text.bare_cons_of_space isSpace_blank
  -- The mark goes in front of the blank only if the text has begun with it.
  cases h : Text.dropPrefix? lineBreak t with
  | none =>
    simp only [Option.isSome_none, Option.getD_none, Bool.false_eq_true, if_false]
    split
    · exact (hblank t).symm ▸ List.infix_rfl
    · exact List.infix_rfl
  | some rest =>
    simp only [Option.isSome_some, Option.getD_some, if_true]
    rw [Text.dropPrefix?_eq_some_iff.mp h, bare_lineBreak_append]
    split
    · rw [List.append_assoc, bare_lineBreak_append]
      exact (hblank rest).symm ▸ List.infix_rfl
    · exact (List.suffix_append _ _).isInfix

theorem add_text_eq (b : Block) (t : Text) : (b.add t).text = b.text ++ addition b t := by
  obtain ⟨u, hu, -⟩ := add_text_within b t
  rw [addition, hu, List.drop_left]

theorem bare_addition (b : Block) (t : Text) : bare (addition b t) <:+: bare t := by
  obtain ⟨u, hu, h⟩ := add_text_within b t
  rwa [addition, hu, List.drop_left]

theorem addBreak_text (b : Block) : ((b.add ['\n']).addBreak).text = b.text ++ '\n' :: lineBreak := by
  have h : (b.add ['\n']).text = b.text ++ [] ++ ['\n'] := by
    simp [Block.add, Text.dropPrefix?, lineBreak, show Text.isAlphanumeric '\n' = false by decide]
  rw [Block.addBreak, h, List.append_nil, List.append_assoc, List.singleton_append]

/-! ## Cleaning a text behind a word

A word in front of a text, that is, characters that are no white space, is left as it is.
-/

section Word

variable {w : Text}

theorem tightenFrom_append (hw : ∀ c ∈ w, Text.isSpace c = false) (after : Bool) (t : Text) :
    ∃ after', tightenFrom after (w ++ t) = w ++ tightenFrom after' t := by
  induction w generalizing after with
  | nil => exact ⟨after, rfl⟩
  | cons c cs ih =>
    rw [List.forall_mem_cons] at hw
    have hc : c ≠ ' ' := by
      rintro rfl
      cases hw.1
    obtain ⟨after', h⟩ := ih hw.2 (Text.isWord c)
    exact ⟨after', by rw [List.cons_append, tightenFrom, if_neg hc, h, List.cons_append]⟩

theorem singleBlanksFrom_append (hw : ∀ c ∈ w, Text.isSpace c = false) (inRun : Bool) (t : Text) :
    ∃ inRun', singleBlanksFrom inRun (w ++ t) = w ++ singleBlanksFrom inRun' t := by
  induction w generalizing inRun with
  | nil => exact ⟨inRun, rfl⟩
  | cons c cs ih =>
    rw [List.forall_mem_cons] at hw
    have hc : c ≠ ' ' := by
      rintro rfl
      cases hw.1
    obtain ⟨inRun', h⟩ := ih hw.2 false
    exact ⟨inRun', by rw [List.cons_append, singleBlanksFrom, if_neg hc, h, List.cons_append]⟩

theorem trimEnd_append (hw : ∀ c ∈ w, Text.isSpace c = false) (t : Text) :
    Text.trimEnd Text.isSpace (w ++ t) = w ++ Text.trimEnd Text.isSpace t := by
  induction w with
  | nil => rfl
  | cons c cs ih =>
    rw [List.forall_mem_cons] at hw
    rw [List.cons_append, Text.trimEnd, ih hw.2]
    split
    · rename_i h
      rw [hw.1, List.cons_append, h]
      rfl
    · rfl

theorem trim_append (hw : ∀ c ∈ w, Text.isSpace c = false) (hne : w ≠ []) (t : Text) :
    Text.trim (w ++ t) = w ++ Text.trimEnd Text.isSpace t := by
  obtain ⟨c, cs, rfl⟩ := List.exists_cons_of_ne_nil hne
  have hc : Text.isSpace c = false := hw c List.mem_cons_self
  rw [Text.trim, Text.trimBy, Text.trimStart, List.cons_append, List.dropWhile_cons_of_neg (by rw [hc]; decide),
    ← List.cons_append, trimEnd_append hw]

theorem cleanText_append (hw : ∀ c ∈ w, Text.isSpace c = false) (hne : w ≠ []) (t : Text) :
    ∃ r, cleanText (w ++ t) = w ++ r ∧ bare r = bare t := by
  have hmap : w.map (fun c => if isOddBlank c then ' ' else c) = w := by
    refine (List.map_congr_left fun c hc => if_neg fun h => ?_).trans (List.map_id' w)
    cases (hw c hc).symm.trans (isSpace_of_isOddBlank h)
  have h : ∃ r, cleanText (w ++ t) = w ++ r := by
    rw [cleanText, List.map_append, hmap, tighten, singleBlanks]
    obtain ⟨after, ha⟩ := tightenFrom_append hw false (t.map fun c => if isOddBlank c then ' ' else c)
    rw [ha]
    obtain ⟨inRun, hr⟩ := singleBlanksFrom_append hw false
      (tightenFrom after (t.map fun c => if isOddBlank c then ' ' else c))
    exact ⟨_, by rw [hr, trim_append hw hne]⟩
  obtain ⟨r, hr⟩ := h
  refine ⟨r, hr, ?_⟩
  have hb := bare_cleanText (w ++ t)
  rw [hr, Text.bare_append, Text.bare_append] at hb
  exact List.append_cancel_left hb

end Word

/-! ## Text of a leaf -/

theorem bare_within {a b : Text} (h : a <:+: b) : bare a <:+: bare b :=
  h.filter _

theorem Leaf.bare_piece {l : Leaf} {piece : Text} (h : piece ∈ l.pieces) : bare piece <:+: bare l.text := by
  rw [← Leaf.bare_flatten_pieces]
  obtain ⟨before, after, he⟩ := List.append_of_mem h
  refine bare_within ⟨before.flatten, after.flatten, ?_⟩
  rw [he, List.flatten_append, List.flatten_cons, List.append_assoc]

/-- Whether the mark of a line is not in the text of its leaf: only the lines of a paragraph after its first one are
given a mark. `before` is the line in front, if any. -/
def Leaf.marks (l : Leaf) (before : Option Text) : Bool :=
  l.tag == "p" && before.isSome

theorem Leaf.bare_first {l : Leaf} {line : Text} (h : l.lines.head? = some line) : bare line <:+: bare l.text := by
  obtain ⟨first, rest, hp⟩ := List.exists_cons_of_ne_nil (Text.splitOn_ne_nil '\n' (Text.trim l.text))
  have hp : l.pieces = first :: rest := hp
  have hline : line = cleanText first := by
    rw [Leaf.lines_eq, hp, markedLines] at h
    split at h <;> exact (Option.some.inj h).symm
  rw [hline, bare_cleanText]
  exact Leaf.bare_piece (hp ▸ List.mem_cons_self)

theorem Leaf.bare_line {l : Leaf} {line : Text} (hl : (l.tag == "p") = false) (h : line ∈ l.lines) :
    bare line <:+: bare l.text := by
  rw [Leaf.lines_eq, hl] at h
  obtain ⟨piece, hp, rfl⟩ := List.mem_map.mp h
  rw [bare_cleanText]
  exact Leaf.bare_piece hp

theorem isSpace_lineBreak : ∀ c ∈ lineBreak, Text.isSpace c = false := by
  simp [lineBreak, Text.isSpace]

/-- A line of a leaf is text of the leaf, perhaps with a mark in front. -/
theorem Leaf.line_cases {l : Leaf} {line : Text} (h : line ∈ l.lines) :
    bare line <:+: bare l.text ∨ ∃ r, line = lineBreak ++ r ∧ bare r <:+: bare l.text := by
  rw [Leaf.lines_eq] at h
  obtain ⟨t, ht, rfl⟩ := List.mem_map.mp h
  have hclean : ∀ piece ∈ l.pieces, bare (cleanText piece) <:+: bare l.text := fun piece hp =>
    bare_cleanText piece ▸ Leaf.bare_piece hp
  split at ht
  · cases hp : l.pieces with
    | nil =>
      rw [hp] at ht
      cases ht
    | cons first rest =>
      rw [hp] at ht hclean
      rcases List.mem_cons.mp ht with rfl | ht
      · exact .inl (hclean t List.mem_cons_self)
      · obtain ⟨piece, hpiece, rfl⟩ := List.mem_map.mp ht
        rw [marked]
        split
        · exact .inl (hclean piece (List.mem_cons_of_mem _ hpiece))
        · obtain ⟨r, hr, hbare⟩ := cleanText_append isSpace_lineBreak (by decide) piece
          refine .inr ⟨r, hr, ?_⟩
          rw [hbare]
          exact Leaf.bare_piece (hp ▸ List.mem_cons_of_mem _ hpiece)
  · exact .inl (hclean t ht)

/-- The text of a block before anything is added to it is a stretch of the text of its leaf, white space aside: the mark
that the line was given is taken off again. -/
theorem Leaf.bare_block {l : Leaf} {line : Text} (h : line ∈ l.lines) (isFirst inline : Bool) :
    bare (l.block isFirst inline line).text <:+: bare l.text := by
  have he : (l.block isFirst inline line).text = (Block.of l.tag line l.givesStrong).text := rfl
  rw [he, Block.of]
  split
  · rename_i rest hrest
    rw [Text.dropPrefix?_eq_some_iff] at hrest
    rw [Text.bare_trim]
    rcases Leaf.line_cases h with hline | ⟨r, rfl, hr⟩
    · refine List.IsInfix.trans (bare_within ?_) hline
      exact hrest ▸ (List.suffix_append _ _).isInfix
    · exact List.append_cancel_left hrest ▸ hr
  · rename_i hnone
    rcases Leaf.line_cases h with hline | ⟨r, rfl, -⟩
    · exact hline
    · rw [Text.dropPrefix?_eq_some_iff.mpr rfl] at hnone
      cases hnone

/-- A block after a line break is one of a line with a mark in front. -/
theorem Leaf.mark_of_afterBreak {l : Leaf} {isFirst inline : Bool} {line : Text}
    (h : (l.block isFirst inline line).afterBreak = true) : ∃ rest, line = lineBreak ++ rest := by
  have he : (l.block isFirst inline line).afterBreak = (Block.of l.tag line l.givesStrong).afterBreak := rfl
  rw [he, Block.of] at h
  split at h
  · rename_i rest hrest
    exact ⟨rest, Text.dropPrefix?_eq_some_iff.mp hrest⟩
  · cases h

mutual

theorem bare_leafOf {xs : List Exclude} {parentTag : String} {l : Leaf} : ∀ {n : Node},
    l ∈ leavesOf xs parentTag n → bare l.text <:+: bare n.strings.flatten
  | .comment _, hl => by cases hl
  | .text _ s, hl | .instruction s, hl | .doctype s, hl => by
    rw [leavesOf, List.mem_singleton] at hl
    simp [hl, Node.strings]
  | .element tag as ns, hl => by
    rw [leavesOf] at hl
    split at hl
    · cases hl
    · split at hl
      · rw [List.mem_singleton.mp hl, Node.blockText, Node.bare_blockParts]
        exact List.infix_rfl
      · exact bare_leafIn hl

/-- The text of a leaf is a stretch of the strings of the nodes, white space aside. -/
theorem bare_leafIn {xs : List Exclude} {parentTag : String} {l : Leaf} : ∀ {ns : List Node},
    l ∈ leavesIn xs parentTag ns → bare l.text <:+: bare (stringsIn ns).flatten
  | n :: ns, hl => by
    rw [leavesIn] at hl
    rw [stringsIn, List.flatten_append, Text.bare_append]
    rcases List.mem_append.mp hl with hl | hl
    · exact (bare_leafOf hl).trans (List.prefix_append _ _).isInfix
    · exact (bare_leafIn hl).trans (List.suffix_append _ _).isInfix

end

/-! ## Blocks with their sources -/

/-- A block with the pieces of its text. -/
structure Sourced where
  block : Block
  pieces : List Piece
  text_eq : block.text = plain pieces

namespace Sourced

/-- A block whose text is text of the page. -/
def fresh (b : Block) : Sourced where
  block := b
  pieces := [.page b.text]
  text_eq := (List.append_nil _).symm

/-- The block with text of the page added to it. -/
def add (s : Sourced) (t : Text) : Sourced where
  block := s.block.add t
  pieces := s.pieces ++ [.page (addition s.block t)]
  text_eq := by rw [add_text_eq, s.text_eq, plain_append, plain_cons, plain_nil, List.append_nil, Piece.text]

/-- The block with a line break at its end. Its mark is text of the page if it stands there, and `own` if not. -/
def addBreak (own : Bool) (s : Sourced) : Sourced where
  block := (s.block.add ['\n']).addBreak
  pieces := s.pieces ++ [.newline, if own then .mark else .page lineBreak]
  text_eq := by rw [addBreak_text, s.text_eq, plain_append]; cases own <;> rfl

/-- The block promoted to a title if it is one in front of the next block. -/
def promote (next : Block) (s : Sourced) : Sourced where
  block := Body.promote next s.block
  pieces := s.pieces
  text_eq := (Reading.text_promote next s.block).trans s.text_eq

/-- The block closed against further text. -/
def close (s : Sourced) : Sourced where
  block := { s.block with display := .block }
  pieces := s.pieces
  text_eq := s.text_eq

/-! ### The walk -/

/-- The blocks of a list without their sources. -/
def blocks (ss : List Sourced) : List Block :=
  ss.map (·.block)

/-- The last block closed against further text. -/
def closeLast : List Sourced → List Sourced
  | [] => []
  | s :: ss => s.close :: ss

/-- The blocks with one more line of a leaf; `before` is the line in front of it, if any, and `own` says whether the
mark of the line, if it has one, is no text of the page. -/
def place (own : Bool) (before : Option Text) (b : Block) : List Sourced → List Sourced
  | [] => [fresh b]
  | last :: ss =>
    if !b.isBlock then last.add b.text :: ss
    else if joinsLast before b then (last.addBreak own).add b.text :: ss
    else fresh b :: last.promote b :: ss

/-- The blocks with the lines of a leaf from some line on. -/
def addLines (l : Leaf) (inline : Bool) : Option Text → List Sourced → List Text → List Sourced
  | _, ss, [] => ss
  | before, ss, line :: rest =>
    let ss :=
      if line.isEmpty then (if rest.isEmpty then closeLast ss else ss)
      else place (l.marks before) before (l.block before.isNone inline line) ss
    addLines l inline (some line) ss rest

/-- The blocks with one more leaf. -/
def addLeaf (ss : List Sourced) (l : Leaf) : List Sourced :=
  addLines l (continuesLast (blocks ss)) none ss l.lines

/-- The blocks with those below a node, in order after the earlier ones. -/
def collect (excludes : List Exclude) (ss : List Sourced) (n : Node) : List Sourced :=
  ((leavesIn excludes (n.tag?.getD "") n.children).foldl addLeaf ss.reverse).reverse

/-! ### Without the sources -/

theorem blocks_closeLast : ∀ ss : List Sourced, blocks (closeLast ss) = Body.closeLast (blocks ss)
  | [] => rfl
  | _ :: _ => rfl

theorem blocks_place (own : Bool) (before : Option Text) (b : Block) : ∀ ss : List Sourced,
    blocks (place own before b ss) = Body.place before b (blocks ss)
  | [] => rfl
  | last :: ss => by
    rw [place, blocks, blocks, List.map_cons, Body.place]
    split
    · rfl
    · split <;> rfl

theorem blocks_addLines (l : Leaf) (inline : Bool) : ∀ (before : Option Text) (ss : List Sourced) (lines : List Text),
    blocks (addLines l inline before ss lines) = Body.addLines l inline before (blocks ss) lines
  | _, _, [] => rfl
  | before, ss, line :: rest => by
    rw [addLines, Body.addLines, blocks_addLines l inline (some line)]
    congr 1
    split
    · split
      · exact blocks_closeLast ss
      · rfl
    · exact blocks_place ..

theorem blocks_addLeaf (ss : List Sourced) (l : Leaf) : blocks (addLeaf ss l) = Body.addLeaf (blocks ss) l :=
  blocks_addLines ..

theorem blocks_addLeaves (ls : List Leaf) (ss : List Sourced) :
    blocks (ls.foldl addLeaf ss) = ls.foldl Body.addLeaf (blocks ss) := by
  induction ls generalizing ss with
  | nil => rfl
  | cons l ls ih => rw [List.foldl_cons, List.foldl_cons, ih, blocks_addLeaf]

/-- The walk with sources is the walk. -/
theorem collect_blocks (xs : List Exclude) (ss : List Sourced) (n : Node) :
    blocks (collect xs ss n) = Body.collect xs (blocks ss) n := by
  have h := blocks_addLeaves (leavesIn xs (n.tag?.getD "") n.children) ss.reverse
  rw [collect, Body.collect, blocks, List.map_reverse, ← blocks, h, blocks, List.map_reverse, blocks]

theorem collect_pages_blocks (xs : List Exclude) (pages : List Node) (ss : List Sourced) :
    blocks (pages.foldl (collect xs) ss) = pages.foldl (Body.collect xs) (blocks ss) := by
  induction pages generalizing ss with
  | nil => rfl
  | cons n ns ih => rw [List.foldl_cons, List.foldl_cons, ih, collect_blocks]

/-! ### What the walk keeps -/

/-- What a line of the leaf does to blocks keeps a property of blocks. -/
structure Keeps (P : Sourced → Prop) (l : Leaf) : Prop where
  fresh : ∀ line ∈ l.lines, ∀ isFirst inline, P (fresh (l.block isFirst inline line))
  add : ∀ line ∈ l.lines, ∀ isFirst inline, ∀ {s}, P s → P (s.add (l.block isFirst inline line).text)
  addBreak : ∀ own, (own = false → bare lineBreak <:+: bare l.text) → ∀ {s}, P s → P (s.addBreak own)
  promote : ∀ next, ∀ {s}, P s → P (s.promote next)
  close : ∀ {s}, P s → P s.close

namespace Keeps

variable {P : Sourced → Prop} {l : Leaf} {ss : List Sourced}

theorem closeLast (h : Keeps P l) (hs : ∀ s ∈ ss, P s) : ∀ s ∈ closeLast ss, P s := by
  cases ss with
  | nil => exact hs
  | cons s ss =>
    rw [List.forall_mem_cons] at hs
    exact List.forall_mem_cons.mpr ⟨h.close hs.1, hs.2⟩

/-- One more line. Its mark is text of the page unless the walk has put it there. -/
theorem place (h : Keeps P l) {own : Bool} {line : Text} (hl : line ∈ l.lines)
    (hown : own = false → bare line <:+: bare l.text) (before : Option Text) (isFirst inline : Bool)
    (hs : ∀ s ∈ ss, P s) : ∀ s ∈ place own before (l.block isFirst inline line) ss, P s := by
  cases ss with
  | nil => exact List.forall_mem_singleton.mpr (h.fresh line hl isFirst inline)
  | cons last ss =>
    rw [List.forall_mem_cons] at hs
    rw [Sourced.place]
    split
    · exact List.forall_mem_cons.mpr ⟨h.add line hl isFirst inline hs.1, hs.2⟩
    · split
      · rename_i hjoins
        obtain ⟨rest, he⟩ := Leaf.mark_of_afterBreak (Bool.and_eq_true_iff.mp hjoins).1
        have hmark : bare lineBreak <:+: bare line := bare_within (he ▸ (List.prefix_append _ _).isInfix)
        have hbreak := h.addBreak own (fun ho => hmark.trans (hown ho)) hs.1
        exact List.forall_mem_cons.mpr ⟨h.add line hl isFirst inline hbreak, hs.2⟩
      · exact List.forall_mem_cons.mpr ⟨h.fresh line hl isFirst inline,
          List.forall_mem_cons.mpr ⟨h.promote _ hs.1, hs.2⟩⟩

theorem addLines (h : Keeps P l) (inline : Bool) : ∀ {lines : List Text} {before : Option Text} {ss : List Sourced},
    (∀ line ∈ lines, line ∈ l.lines) → (before = none → lines = l.lines) → (∀ s ∈ ss, P s) →
    ∀ s ∈ addLines l inline before ss lines, P s
  | [], _, _, _, _, hs => hs
  | line :: rest, before, ss, hl, hfirst, hs => by
    rw [List.forall_mem_cons] at hl
    rw [Sourced.addLines]
    refine addLines h inline hl.2 nofun ?_
    split
    · split
      · exact h.closeLast hs
      · exact hs
    · -- A mark that the leaf was not given stands in its text: in another leaf than a paragraph, or in the first line.
      refine h.place hl.1 (fun hown => ?_) before before.isNone inline hs
      rcases Bool.and_eq_false_iff.mp hown with ht | hb
      · exact Leaf.bare_line ht hl.1
      · have hb : before = none := by simpa using hb
        exact Leaf.bare_first ((hfirst hb).symm ▸ rfl)

theorem addLeaves : ∀ {ls : List Leaf} {ss : List Sourced}, (∀ l ∈ ls, Keeps P l) → (∀ s ∈ ss, P s) →
    ∀ s ∈ ls.foldl addLeaf ss, P s
  | [], _, _, hs => hs
  | l :: ls, _, h, hs => by
    rw [List.forall_mem_cons] at h
    rw [List.foldl_cons]
    exact addLeaves h.2 (h.1.addLines _ (fun _ hl => hl) (fun _ => rfl) hs)

/-- What every leaf keeps, the walk keeps. -/
theorem collect {xs : List Exclude} {n : Node} (h : ∀ l ∈ leavesIn xs (n.tag?.getD "") n.children, Keeps P l)
    (hs : ∀ s ∈ ss, P s) : ∀ s ∈ collect xs ss n, P s := by
  intro s hm
  exact addLeaves h (fun s hm => hs s (List.mem_reverse.mp hm)) s (List.mem_reverse.mp hm)

/-- What every leaf of several pages keeps, holds of all their blocks. -/
theorem collect_pages {xs : List Exclude} : ∀ {pages : List Node} {ss : List Sourced},
    (∀ n ∈ pages, ∀ l ∈ leavesIn xs (n.tag?.getD "") n.children, Keeps P l) → (∀ s ∈ ss, P s) →
    ∀ s ∈ pages.foldl (Sourced.collect xs) ss, P s
  | [], _, _, hs => hs
  | n :: ns, _, h, hs => by
    rw [List.forall_mem_cons] at h
    rw [List.foldl_cons]
    exact collect_pages h.2 (collect h.1 hs)

end Keeps

/-! ### Page text is from the page -/

/-- **The page text of the blocks is text of the pages**, and the rest of it is line breaks. -/
theorem stems_collect (xs : List Exclude) (pages : List Node) :
    ∀ s ∈ pages.foldl (collect xs) [], ∀ p ∈ s.pieces, p.Stems pages := by
  refine Keeps.collect_pages (fun n hn l hl => ?_) (by simp)
  have hline : ∀ line ∈ l.lines, ∀ isFirst inline,
      bare (l.block isFirst inline line).text <:+: bare n.stringsBelow.flatten :=
    fun line h isFirst inline => (Leaf.bare_block h isFirst inline).trans (bare_leafIn hl)
  exact {
    fresh := fun line h isFirst inline => List.forall_mem_singleton.mpr ⟨n, hn, hline line h isFirst inline⟩
    add := fun line h isFirst inline s hs => List.forall_mem_append.mpr ⟨hs, List.forall_mem_singleton.mpr
      ⟨n, hn, (bare_addition s.block _).trans (hline line h isFirst inline)⟩⟩
    addBreak := fun own hown _ hs => List.forall_mem_append.mpr ⟨hs, List.forall_mem_cons.mpr ⟨trivial,
      List.forall_mem_singleton.mpr <| by
        cases own with
        | true => trivial
        | false => exact ⟨n, hn, (hown rfl).trans (bare_leafIn hl)⟩⟩⟩
    promote := fun _ _ hs => hs
    close := fun hs => hs }

end Sourced

end Excerpt.Body
