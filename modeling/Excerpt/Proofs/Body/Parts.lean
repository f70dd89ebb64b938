import Excerpt.Proofs.Body.LoneBreaks

/-!
# The parts of a leaf

A part of a leaf is what one of its lines gives: a text, and whether the text goes into the last block, behind a break.
Empty lines give nothing. The parts are all that a leaf tells the blocks, its tags and its weight apart: adding the leaf
is adding its parts (`sealed_addLeaf`, `sealed_addLeaves`).

A block that has another one behind it keeps its text, and the last one only grows (`Tops`, `tops_grown`, `tops_apart`).

Without `<` in it, the parts of a leaf hold its text in cleaned pieces (`Leaf.bare_parts`,
`Leaf.exists_piece_of_mem_parts`); the first of them goes into no other block (`Leaf.joins_first`), and the last one has
text (`Leaf.text_last`).
-/

namespace Excerpt.Body

open Text (bare isBlank)

/-- What a line gives: its text without a break in front, and whether it goes into the last block, behind a break. -/
structure Part where
  text : Text
  joins : Bool
deriving DecidableEq, Repr

/-- The parts of the lines of a leaf from some line on; `before` is the line in front of it, if any. -/
def Leaf.partsFrom (l : Leaf) : Option Text → List Text → List Part
  | _, [] => []
  | before, line :: rest =>
    if line.isEmpty then l.partsFrom (some line) rest
    else ⟨unbroken line, joinsLast before (l.block true true line)⟩ :: l.partsFrom (some line) rest

/-- The parts of a leaf. -/
def Leaf.parts (l : Leaf) : List Part :=
  l.partsFrom none l.lines

/-! ## Blocks from parts -/

/-- The block without a note of a break in front of it. -/
def Block.sealed (b : Block) : Block :=
  { b with afterBreak := false }

/-- What shows of a block: its tag, its kind, whether it is strong, and its text. -/
def Block.face (b : Block) : String × BlockKind × Bool × Text :=
  (b.tag, b.kind, b.strong, b.text)

/-- The block of a part of a leaf; `isFirst` and `inline` say where it stands. -/
def Leaf.blockOf (l : Leaf) (isFirst inline : Bool) (t : Text) : Block where
  tag := l.tag
  kind := .of l.tag t
  strong := l.givesStrong
  text := t
  listTag := if BlockKind.of l.tag t == .list then some l.parentTag else none
  display := if !isFirst || !inline then .inlineBlock else if isBlockTag l.tag then .block else .inline
  afterBreak := false

/-- The blocks with one more, which goes into the last one if it is inline or joins it. -/
def put (b : Block) (joins : Bool) : List Block → List Block
  | [] => [b]
  | last :: bs =>
    if !b.isBlock then last.add b.text :: bs
    else if joins then last.addBelow b.text :: bs
    else b :: promote b last :: bs

/-- The blocks with the parts of a leaf behind its first one. -/
def Leaf.putMore (l : Leaf) (bs : List Block) (ps : List Part) : List Block :=
  ps.foldl (fun bs p => put (l.blockOf false false p.text) p.joins bs) bs

/-- The blocks with the parts of a leaf. -/
def Leaf.putParts (l : Leaf) (inline : Bool) (bs : List Block) : List Part → List Block
  | [] => closeLast bs
  | p :: ps => l.putMore (put (l.blockOf true inline p.text) p.joins bs) ps

/-- The blocks with one more leaf, by its parts. -/
def putLeaf (bs : List Block) (l : Leaf) : List Block :=
  l.putParts (continuesLast bs) bs l.parts

theorem place_eq (before : Option Text) (b : Block) (bs : List Block) :
    place before b bs = put b (joinsLast before b) bs := by
  cases bs <;> rfl

theorem map_sealed_put (b : Block) (joins : Bool) (bs : List Block) :
    (put b joins bs).map Block.sealed = put b.sealed joins (bs.map Block.sealed) := by
  cases bs with
  | nil => rfl
  | cons last bs =>
    have hblock : b.sealed.isBlock = b.isBlock := rfl
    have hpromote : (promote b last).sealed = promote b.sealed last.sealed := by
      rw [promote, promote]
      exact apply_ite Block.sealed _ _ _
    rw [List.map_cons, put, put, hblock]
    split
    · rfl
    · split
      · rfl
      · rw [List.map_cons, List.map_cons, hpromote]

theorem sealed_block (l : Leaf) (isFirst inline : Bool) (line : Text) :
    (l.block isFirst inline line).sealed = l.blockOf isFirst inline (unbroken line) := by
  rw [Leaf.block, Block.of, unbroken]
  cases Text.dropPrefix? lineBreak line <;> rfl

theorem isBlock_blockOf (l : Leaf) (isFirst inline : Bool) (t : Text) :
    (l.blockOf isFirst inline t).isBlock = !(isFirst && inline && !isBlockTag l.tag) := by
  rw [Block.isBlock, Leaf.blockOf]
  cases isFirst <;> cases inline <;> cases isBlockTag l.tag <;> rfl

/-- A part behind the first one goes into the last block, or begins a block behind it. -/
theorem putMore_cons (l : Leaf) (b : Block) (bs : List Block) (p : Part) (ps : List Part) :
    l.putMore (b :: bs) (p :: ps) =
      if p.joins then l.putMore (b.addBelow p.text :: bs) ps
      else l.putMore (l.blockOf false false p.text :: promote (l.blockOf false false p.text) b :: bs) ps := by
  rw [Leaf.putMore, List.foldl_cons, put, isBlock_blockOf]
  cases p.joins <;> rfl

/-- The first part of a leaf goes into the last block if it is inline and the block is open, or if it joins the block;
otherwise it begins a block behind it. -/
theorem putLeaf_cons {l : Leaf} {p : Part} {ps : List Part} (h : l.parts = p :: ps) (b : Block) (bs : List Block) :
    putLeaf (b :: bs) l =
      if continuesLast (b :: bs) && !isBlockTag l.tag then l.putMore (b.add p.text :: bs) ps
      else if p.joins then l.putMore (b.addBelow p.text :: bs) ps
      else l.putMore (l.blockOf true (continuesLast (b :: bs)) p.text ::
        promote (l.blockOf true (continuesLast (b :: bs)) p.text) b :: bs) ps := by
  rw [putLeaf, h, Leaf.putParts, put, isBlock_blockOf, Bool.true_and, Bool.not_not]
  split
  · rfl
  · split <;> rfl

theorem putLeaf_of_isBlank {l : Leaf} (h : l.parts = []) (bs : List Block) : putLeaf bs l = closeLast bs := by
  rw [putLeaf, h, Leaf.putParts]

section Lines

variable {l : Leaf} {inline : Bool}

/-- Lines behind the first one add their parts. -/
theorem sealed_addLines : ∀ {lines : List Text} {prev : Text} {bs : List Block}, Tidy lines →
    (addLines l inline (some prev) bs lines).map Block.sealed =
      l.putMore (bs.map Block.sealed) (l.partsFrom (some prev) lines)
  | [], _, _, _ => rfl
  | line :: rest, prev, bs, h => by
    rw [addLines, Leaf.partsFrom]
    by_cases hline : line.isEmpty = true
    · -- An empty line is not the last one, so it closes nothing.
      have hrest : rest.isEmpty = false := by
        cases rest with
        | nil => exact (h.last line rfl (List.isEmpty_iff.mp hline)).elim
        | cons => rfl
      simp only [hline, hrest, if_true, if_false, Bool.false_eq_true]
      exact sealed_addLines h.tail
    · simp only [if_neg hline]
      rw [sealed_addLines h.tail, place_eq, map_sealed_put, sealed_block]
      rfl

/-- **Adding a leaf is adding its parts.** -/
theorem sealed_addLeaf (bs : List Block) (l : Leaf) :
    (addLeaf bs l).map Block.sealed = putLeaf (bs.map Block.sealed) l := by
  have hcontinues : continuesLast (bs.map Block.sealed) = continuesLast bs := by cases bs <;> rfl
  rw [putLeaf, hcontinues]
  cases hl : isBlank l.text with
  | true =>
    rw [addLeaf_of_isBlank hl, Leaf.parts, Leaf.lines_of_isBlank hl]
    cases bs <;> rfl
  | false =>
    obtain ⟨first, rest, hlines, hfirst⟩ := l.exists_first_line hl
    have htidy : Tidy (first :: rest) := hlines ▸ l.tidy_lines hl
    have hne : ¬ first.isEmpty = true := by simpa using hfirst
    rw [addLeaf, Leaf.parts, hlines, addLines, Leaf.partsFrom, if_neg hne, if_neg hne,
      sealed_addLines htidy.tail, place_eq, map_sealed_put, sealed_block]
    rfl

theorem sealed_addLeaves : ∀ (ls : List Leaf) (bs : List Block),
    (ls.foldl addLeaf bs).map Block.sealed = ls.foldl putLeaf (bs.map Block.sealed)
  | [], _ => rfl
  | l :: ls, bs => by rw [List.foldl_cons, List.foldl_cons, sealed_addLeaves ls, sealed_addLeaf]

end Lines

/-! ## The leaves of a tree -/

/-- The blocks with those of further leaves. -/
def collectLeaves (blocks : List Block) (ls : List Leaf) : List Block :=
  (ls.foldl addLeaf blocks.reverse).reverse

theorem collect_eq (xs : List Exclude) (blocks : List Block) (tag : String) (as : Attrs) (ns : List Node) :
    collect xs blocks (.element tag as ns) = collectLeaves blocks (leavesIn xs tag ns) := rfl

/-- The blocks with those of further leaves, the last one first and without notes of breaks. -/
def sealedLeaves (blocks : List Block) (ls : List Leaf) : List Block :=
  ls.foldl putLeaf (blocks.reverse.map Block.sealed)

theorem sealed_collectLeaves (blocks : List Block) (ls : List Leaf) :
    (collectLeaves blocks ls).reverse.map Block.sealed = sealedLeaves blocks ls := by
  rw [collectLeaves, List.reverse_reverse, sealed_addLeaves, sealedLeaves]

theorem map_text_collectLeaves (blocks : List Block) (ls : List Leaf) :
    (collectLeaves blocks ls).map (·.text) = ((sealedLeaves blocks ls).map (·.text)).reverse := by
  rw [← sealed_collectLeaves, List.map_map, List.map_reverse, List.reverse_reverse]
  rfl

theorem map_face_collectLeaves (blocks : List Block) (ls : List Leaf) :
    (collectLeaves blocks ls).map Block.face = ((sealedLeaves blocks ls).map Block.face).reverse := by
  rw [← sealed_collectLeaves, List.map_map, List.map_reverse, List.reverse_reverse]
  rfl

theorem length_collectLeaves (blocks : List Block) (ls : List Leaf) :
    (collectLeaves blocks ls).length = (sealedLeaves blocks ls).length := by
  rw [← sealed_collectLeaves, List.length_map, List.length_reverse]

theorem sealedLeaves_append (blocks : List Block) (ls ls' : List Leaf) :
    sealedLeaves blocks (ls ++ ls') = ls'.foldl putLeaf (sealedLeaves blocks ls) :=
  List.foldl_append

/-! ## Texts that are added -/

/-- What comes between a text and one that is added to it; `spaced` says whether a blank may come there. -/
def joint (spaced : Bool) (t : Text) : Text :=
  if spaced && (t.head?.map Text.isAlphanumeric).getD false then [' '] else []

theorem add_text_joint (b : Block) {t : Text} (h : '<' ∉ t) :
    (b.add t).text = b.text ++ (joint (!b.text.isEmpty && !Text.endsWith '\n' b.text) t ++ t) := by
  rw [Block.add, dropPrefix?_mark_of_not_mem h, joint]
  simp only [Option.isSome_none, Option.getD_none, Bool.or_false, Bool.false_eq_true, if_false, List.append_assoc]
  congr 3
  cases b.text.isEmpty <;> cases (t.head?.map Text.isAlphanumeric).getD false <;> simp

/-! ## Blocks that only grow -/

/-- Right behind blocks with the given texts stands one with a text of the kind `P`. The last block comes first. -/
def Tops (P : Text → Prop) (texts : List Text) (bs : List Block) : Prop :=
  ∃ more t, bs.map (·.text) = more ++ t :: texts ∧ P t

namespace Tops

variable {P : Text → Prop} {texts : List Text} {bs : List Block}

theorem top {b : Block} (h : P b.text) : Tops P (bs.map (·.text)) (b :: bs) :=
  ⟨[], b.text, rfl, h⟩

/-- Behind a further block, nothing changes. -/
theorem cons (b : Block) (h : Tops P texts bs) : Tops P texts (b :: bs) := by
  obtain ⟨more, t, he, ht⟩ := h
  exact ⟨b.text :: more, t, by rw [List.map_cons, he]; rfl, ht⟩

/-- The last block may get more text. -/
theorem grow (hP : ∀ t u, P t → P (t ++ u)) {b b' : Block} (hb : b.text <+: b'.text) (h : Tops P texts (b :: bs)) :
    Tops P texts (b' :: bs) := by
  obtain ⟨more, t, he, ht⟩ := h
  obtain ⟨u, hu⟩ := hb
  rw [List.map_cons] at he
  cases more with
  | nil =>
    obtain ⟨rfl, htexts⟩ := List.cons.inj he
    exact ⟨[], b'.text, by rw [List.map_cons, htexts]; rfl, hu ▸ hP _ u ht⟩
  | cons m more =>
    obtain ⟨-, htexts⟩ := List.cons.inj he
    exact ⟨b'.text :: more, t, by rw [List.map_cons, htexts]; rfl, ht⟩

theorem put (hP : ∀ t u, P t → P (t ++ u)) (b : Block) (joins : Bool) (h : Tops P texts bs) :
    Tops P texts (put b joins bs) := by
  cases bs with
  | nil =>
    obtain ⟨more, t, he, -⟩ := h
    simp at he
  | cons last bs =>
    rw [Body.put]
    split
    · exact h.grow hP (Grown.add last b.text).text
    · split
      · exact h.grow hP (Grown.addBelow last b.text).text
      · exact (h.grow hP (Grown.promote b last).text).cons b

theorem putMore (hP : ∀ t u, P t → P (t ++ u)) (l : Leaf) : ∀ (ps : List Part) {bs : List Block}, Tops P texts bs →
    Tops P texts (l.putMore bs ps)
  | [], _, h => h
  | _ :: ps, _, h => putMore hP l ps (h.put hP _ _)

theorem putLeaf (hP : ∀ t u, P t → P (t ++ u)) (l : Leaf) (h : Tops P texts bs) : Tops P texts (putLeaf bs l) := by
  rw [Body.putLeaf]
  cases l.parts with
  | nil =>
    cases bs with
    | nil => exact h
    | cons b bs => exact h.grow hP List.prefix_rfl
  | cons p ps => exact putMore hP l ps (h.put hP _ _)

theorem putLeaves (hP : ∀ t u, P t → P (t ++ u)) : ∀ (ls : List Leaf) {bs : List Block}, Tops P texts bs →
    Tops P texts (ls.foldl Body.putLeaf bs)
  | [], _, h => h
  | l :: ls, _, h => putLeaves hP ls (h.putLeaf hP l)

theorem imp {Q : Text → Prop} (hPQ : ∀ t, P t → Q t) (h : Tops P texts bs) : Tops Q texts bs := by
  obtain ⟨more, t, he, ht⟩ := h
  exact ⟨more, t, he, hPQ t ht⟩

/-- A block with another one behind it keeps its text. -/
theorem eq_of_any {t : Text} (h : Tops (fun _ => True) (t :: texts) bs) : Tops (· = t) texts bs := by
  obtain ⟨more, u, he, -⟩ := h
  exact ⟨more ++ [u], t, by rw [he]; simp, rfl⟩

/-- Blocks with the same texts have the same text at one place. -/
theorem meet {Q : Text → Prop} {cs : List Block} (h : Tops P texts bs) (h' : Tops Q texts cs)
    (he : bs.map (·.text) = cs.map (·.text)) : ∃ t, P t ∧ Q t := by
  obtain ⟨more, t, hbs, ht⟩ := h
  obtain ⟨more', t', hcs, ht'⟩ := h'
  rw [hbs, hcs, List.append_cons, List.append_cons more'] at he
  have htexts := List.append_cancel_right he
  obtain ⟨-, heq⟩ := List.append_inj' htexts rfl
  obtain rfl := (List.cons.inj heq).1
  exact ⟨t, ht, ht'⟩

end Tops

theorem tops_grown (l : Leaf) (b : Block) (bs : List Block) (ps : List Part) (ls : List Leaf) :
    Tops (b.text <+: ·) (bs.map (·.text)) (ls.foldl putLeaf (l.putMore (b :: bs) ps)) := by
  have hgrow : ∀ t u, b.text <+: t → b.text <+: t ++ u := fun t u h => h.trans (List.prefix_append t u)
  exact Tops.putLeaves hgrow ls (Tops.putMore hgrow l ps (Tops.top List.prefix_rfl))

/-- A block that a part joins goes on with a line break. -/
theorem tops_below (l : Leaf) (b : Block) (bs : List Block) (t : Text) (ps : List Part) (ls : List Leaf) :
    Tops (b.text ++ '\n' :: lineBreak <+: ·) (bs.map (·.text))
    (ls.foldl putLeaf (l.putMore (b.addBelow t :: bs) ps)) := by
  have hbreak : b.text ++ '\n' :: lineBreak <+: (b.addBelow t).text := by
    rw [← addBreak_text]
    exact (Grown.add _ t).text
  exact (tops_grown l (b.addBelow t) bs ps ls).imp fun _ h => hbreak.trans h

/-- A block that another one follows keeps its text. -/
theorem tops_apart (l : Leaf) (c b : Block) (bs : List Block) (ps : List Part) (ls : List Leaf) :
    Tops (· = b.text) (bs.map (·.text)) (ls.foldl putLeaf (l.putMore (c :: promote c b :: bs) ps)) := by
  have htop := (tops_grown l c (promote c b :: bs) ps ls).imp fun _ _ => trivial
  rw [List.map_cons, Reading.text_promote] at htop
  exact htop.eq_of_any

/-! ## Which parts a leaf has -/

theorem Leaf.length_partsFrom (l : Leaf) : ∀ (before : Option Text) (lines : List Text),
    (l.partsFrom before lines).length = (lines.filter (!·.isEmpty)).length
  | _, [] => rfl
  | before, line :: rest => by
    rw [partsFrom, List.filter_cons]
    cases line.isEmpty with
    | true => exact l.length_partsFrom (some line) rest
    | false => exact congrArg (· + 1) (l.length_partsFrom (some line) rest)

theorem Leaf.givesStrong_eq (l : Leaf) : l.givesStrong = (l.parts.length == 1 && l.strong) := by
  rw [givesStrong, parts, l.length_partsFrom]

theorem Leaf.partsFrom_append (l : Leaf) {line : Text} (h : line ≠ []) : ∀ (before : Option Text) (front : List Text),
    ∃ ps joins, l.partsFrom before (front ++ [line]) = ps ++ [⟨unbroken line, joins⟩]
  | before, [] => ⟨[], _, by rw [List.nil_append, partsFrom, if_neg (by simpa using h)]; rfl⟩
  | before, first :: front => by
    obtain ⟨ps, joins, hps⟩ := l.partsFrom_append h (some first) front
    rw [List.cons_append, partsFrom, hps]
    split
    · exact ⟨ps, joins, rfl⟩
    · exact ⟨_ :: ps, joins, rfl⟩

theorem Leaf.mem_partsFrom {l : Leaf} {p : Part} : ∀ {before : Option Text} {lines : List Text},
    p ∈ l.partsFrom before lines → ∃ line ∈ lines, p.text = unbroken line
  | before, line :: rest, h => by
    have hmore : p ∈ l.partsFrom (some line) rest → ∃ line' ∈ line :: rest, p.text = unbroken line' := fun h =>
      have ⟨line', hline, he⟩ := Leaf.mem_partsFrom h
      ⟨line', List.mem_cons_of_mem _ hline, he⟩
    rw [partsFrom] at h
    split at h
    · exact hmore h
    · rcases List.mem_cons.mp h with rfl | h
      · exact ⟨line, List.mem_cons_self, rfl⟩
      · exact hmore h

theorem Leaf.bare_partsFrom (l : Leaf) : ∀ (before : Option Text) (lines : List Text),
    bare ((l.partsFrom before lines).flatMap (·.text)) = lines.flatMap fun line => bare (unbroken line)
  | _, [] => rfl
  | before, line :: rest => by
    rw [partsFrom, List.flatMap_cons]
    cases line with
    | nil => exact l.bare_partsFrom (some []) rest
    | cons c line =>
      rw [if_neg (by simp), List.flatMap_cons, Text.bare_append, l.bare_partsFrom]

theorem unbroken_of_not_mem {t : Text} (h : '<' ∉ t) : unbroken t = t := by
  rw [unbroken, dropPrefix?_mark_of_not_mem h]

/-- Cleaning behind a mark is cleaning, the mark taken off. -/
theorem unbroken_cleanText_marked (t : Text) : unbroken (cleanText (marked t)) = cleanText t := by
  rw [marked]
  split
  · rename_i h
    rw [List.isEmpty_iff.mp h]
    rfl
  · obtain ⟨rest, hclean, htrim, -⟩ := exists_cleanText_mark t
    rw [unbroken, Text.dropPrefix?_eq_some_iff.mpr hclean]
    exact htrim

theorem trim_unbroken {t : Text} (h : Text.trim t = t) : Text.trim (unbroken t) = unbroken t := by
  rw [unbroken]
  cases Text.dropPrefix? lineBreak t with
  | none => exact h
  | some rest => exact Text.trim_trim rest

namespace Leaf

variable {l : Leaf}

/-- The parts of a leaf that is not blank begin with that of the first line. -/
theorem exists_parts (hb : isBlank l.text = false) : ∃ first rest, l.lines = first :: rest ∧ first ≠ [] ∧
    l.parts = ⟨unbroken first, Text.startsWith lineBreak first⟩ :: l.partsFrom (some first) rest := by
  obtain ⟨first, rest, hlines, hfirst⟩ := l.exists_first_line hb
  refine ⟨first, rest, hlines, hfirst, ?_⟩
  rw [parts, hlines, partsFrom, if_neg (by simpa using hfirst), joinsLast_none, l.afterBreak_block]

theorem parts_eq_nil_iff : l.parts = [] ↔ isBlank l.text = true := by
  cases hb : isBlank l.text with
  | true => exact iff_of_true (by rw [parts, lines_of_isBlank hb]; rfl) rfl
  | false =>
    obtain ⟨first, rest, -, -, hparts⟩ := l.exists_parts hb
    rw [hparts]
    simp

theorem not_isBlank_of_parts {p : Part} {ps : List Part} (h : l.parts = p :: ps) : isBlank l.text = false := by
  rw [← Bool.not_eq_true, ← parts_eq_nil_iff, h]
  exact List.cons_ne_nil p ps

theorem trim_of_mem_parts {p : Part} (h : p ∈ l.parts) : Text.trim p.text = p.text := by
  cases hb : isBlank l.text with
  | true =>
    rw [parts, lines_of_isBlank hb] at h
    cases h
  | false =>
    obtain ⟨line, hline, htext⟩ := mem_partsFrom h
    rw [htext]
    exact trim_unbroken ((l.tidy_lines hb).trim line hline)

/-- Behind a line without text, the next part begins a block. -/
theorem joins_of_not_hasText (l : Leaf) : ∀ {lines : List Text} {prev : Text} {p : Part} {ps : List Part},
    hasText prev = false → l.partsFrom (some prev) lines = p :: ps → p.joins = false
  | line :: rest, prev, p, ps, hprev, h => by
    rw [partsFrom] at h
    split at h
    · rename_i hline
      exact l.joins_of_not_hasText (by rw [List.isEmpty_iff.mp hline]; rfl) h
    · rw [← (List.cons.inj h).1]
      exact joinsLast_of_not_hasText hprev _

section Unmarked

variable (hl : '<' ∉ l.text)

include hl

theorem mark_not_mem_piece {piece : Text} (h : piece ∈ l.pieces) : '<' ∉ cleanText piece :=
  fun hm => hl (mem_of_mem_pieces h (mem_of_mem_cleanText (by decide) hm))

theorem unbroken_cleanText {piece : Text} (h : piece ∈ l.pieces) : unbroken (cleanText piece) = cleanText piece :=
  unbroken_of_not_mem (mark_not_mem_piece hl h)

/-- The lines without their breaks are the pieces of the text, cleaned. -/
theorem map_unbroken_lines : l.lines.map unbroken = l.pieces.map cleanText := by
  have hclean : ∀ pieces : List Text, (∀ piece ∈ pieces, piece ∈ l.pieces) →
      (pieces.map cleanText).map unbroken = pieces.map cleanText := fun pieces h => by
    rw [List.map_map]
    exact List.map_congr_left fun piece hpiece => unbroken_cleanText hl (h piece hpiece)
  rw [lines_eq]
  split
  · cases hp : l.pieces with
    | nil => rfl
    | cons first rest =>
      have hfirst : unbroken (cleanText first) = cleanText first := unbroken_cleanText hl (hp ▸ List.mem_cons_self)
      rw [markedLines, List.map_cons, List.map_cons, List.map_cons, hfirst, List.map_map, List.map_map]
      exact congrArg _ (List.map_congr_left fun piece _ => unbroken_cleanText_marked piece)
  · exact hclean l.pieces fun _ h => h

theorem exists_piece_of_mem_parts {p : Part} (h : p ∈ l.parts) : ∃ piece ∈ l.pieces, p.text = cleanText piece := by
  obtain ⟨line, hline, he⟩ := mem_partsFrom h
  have hmem : p.text ∈ l.lines.map unbroken := he ▸ List.mem_map_of_mem hline
  rw [map_unbroken_lines hl] at hmem
  obtain ⟨piece, hpiece, hclean⟩ := List.mem_map.mp hmem
  exact ⟨piece, hpiece, hclean.symm⟩

/-- The parts hold the text of the leaf. -/
theorem bare_parts : bare (l.parts.flatMap (·.text)) = bare l.text := by
  have hlines : l.lines.flatMap (fun line => bare (unbroken line)) = (l.lines.map unbroken).flatMap bare := by
    rw [List.flatMap_map]
  have hbare : (fun piece => bare (cleanText piece)) = bare := funext bare_cleanText
  rw [parts, l.bare_partsFrom, hlines, map_unbroken_lines hl, List.flatMap_map, hbare, ← bare_flatten_pieces, bare,
    List.filter_flatten, List.flatMap_def]
  rfl

/-- The first part is the first piece of the text, cleaned. It has text, and goes into no other block. -/
theorem exists_first_part (hb : isBlank l.text = false) :
    ∃ piece pieces ps, l.pieces = piece :: pieces ∧ isBlank piece = false ∧
    l.parts = ⟨cleanText piece, false⟩ :: ps := by
  obtain ⟨first, rest, hlines, -, hparts⟩ := l.exists_parts hb
  obtain ⟨piece, pieces, hp, hpiece⟩ := exists_first hb
  have hmem : piece ∈ l.pieces := hp ▸ List.mem_cons_self
  have hclean : first = cleanText piece := by
    rw [lines_eq, hp] at hlines
    split at hlines <;> exact (List.cons.inj hlines).1.symm
  have hunmarked : Text.startsWith lineBreak (cleanText piece) = false := by
    rw [Text.startsWith, dropPrefix?_mark_of_not_mem (mark_not_mem_piece hl hmem)]
    rfl
  rw [hclean, unbroken_cleanText hl hmem, hunmarked] at hparts
  exact ⟨piece, pieces, _, hp, hpiece, hparts⟩

theorem joins_first {p : Part} {ps : List Part} (h : l.parts = p :: ps) : p.joins = false := by
  obtain ⟨piece, -, qs, -, -, hparts⟩ := exists_first_part hl (not_isBlank_of_parts h)
  rw [(List.cons.inj (h.symm.trans hparts)).1]

theorem not_isBlank_first {p : Part} {ps : List Part} (h : l.parts = p :: ps) : isBlank p.text = false := by
  obtain ⟨piece, -, qs, -, hpiece, hparts⟩ := exists_first_part hl (not_isBlank_of_parts h)
  rw [(List.cons.inj (h.symm.trans hparts)).1, ← Bool.not_eq_true, ← Text.bare_eq_nil_iff, bare_cleanText,
    Text.bare_eq_nil_iff, hpiece]
  exact Bool.false_ne_true

theorem mark_not_mem_parts {p : Part} (h : p ∈ l.parts) : '<' ∉ p.text := by
  obtain ⟨piece, hpiece, he⟩ := exists_piece_of_mem_parts hl h
  rw [he]
  exact mark_not_mem_piece hl hpiece

/-- The last line of a leaf that is not blank has text. -/
theorem exists_last_line (hb : isBlank l.text = false) :
    ∃ front line, l.lines = front ++ [line] ∧ hasText line = true := by
  obtain ⟨init, last, hp, hlast⟩ := exists_last hb
  have hclean : hasText (cleanText last) = true := by
    rw [hasText_cleanText fun hm => hl (mem_of_mem_pieces (hp ▸ List.mem_append_right _ List.mem_cons_self) hm), hlast]
    rfl
  rw [lines_eq, hp]
  split
  · cases init with
    | nil => exact ⟨[], _, rfl, hclean⟩
    | cons first init =>
      refine ⟨(first :: init.map marked).map cleanText, cleanText (marked last), by simp [markedLines], ?_⟩
      rw [hasText_cleanText_marked, hlast]
      rfl
  · exact ⟨_, _, List.map_append, hclean⟩

/-- The last part has text. -/
theorem text_last {p : Part} {ps : List Part} (h : l.parts = ps ++ [p]) : p.text ≠ [] := by
  cases hb : isBlank l.text with
  | true =>
    rw [parts, lines_of_isBlank hb] at h
    simp [partsFrom] at h
  | false =>
    obtain ⟨front, line, hlines, htext⟩ := exists_last_line hl hb
    rw [hasText, Bool.and_eq_true, Bool.not_eq_true', bne_iff_ne] at htext
    have hne : line ≠ [] := by
      rintro rfl
      cases htext.1
    have htrim : Text.trim line = line :=
      (l.tidy_lines hb).trim line (hlines ▸ List.mem_append_right _ List.mem_cons_self)
    obtain ⟨qs, joins, hparts⟩ := l.partsFrom_append hne none front
    rw [parts, hlines, hparts] at h
    obtain ⟨-, hp⟩ := List.append_inj' h rfl
    rw [← (List.cons.inj hp).1]
    intro hnil
    have hblank : isBlank (unbroken line) = true := by
      rw [show unbroken line = [] from hnil]
      rfl
    exact htext.2 ((isBlank_unbroken_iff htrim hne).mp hblank)

end Unmarked

end Leaf

end Excerpt.Body
