import Excerpt.Proofs.Body.Growth
import Excerpt.Proofs.Body.Wrapped

/-!
# Lone breaks and blocks without text

A cleaned line can be a lone break: nothing but the mark of a line break. The mark is taken off, so a block that begins
with such a line has no text. The break begins a block if it is the first line at all, or has a line without text in
front of it; otherwise it goes into the last block.

A block without text gets one only while it is the last block. Another line of the same leaf never goes into it, so the
lone break has to be the last line of its leaf; and of the leaves behind, the first with a text has to go into the block
(`fills`). `AllFilled` says so of all lone breaks, and `run_full_iff` that it is what it takes for all blocks to have a
text.
-/

namespace Excerpt.Body

open Text (isBlank)

/-! ## Lone breaks -/

/-- The text of a line without a break in front. -/
def unbroken (t : Text) : Text :=
  match Text.dropPrefix? lineBreak t with
  | some rest => Text.trim rest
  | none => t

/-- Whether a lone break begins a block, `front` being the lines of its leaf in front of it: behind a line without text,
and at the beginning if nothing has begun that it could go into. -/
def beginsBlock (begun : Bool) (front : List Text) : Bool :=
  match front.getLast? with
  | none => !begun
  | some line => !hasText line

/-- Each lone break that begins a block is the last of the lines, and the block is filled by what follows. -/
def BreaksFilled (filled : Prop) (begun : Bool) (lines : List Text) : Prop :=
  ∀ front rest, lines = front ++ lineBreak :: rest → beginsBlock begun front = true → rest = [] ∧ filled

/-- Whether the last block, which has no text, gets one from the leaves; `isOpen` says whether text may be added to it.
Of a leaf that is no block of its own the first line goes into an open block, and so may the second; of other leaves a
first line with a break in front. -/
def fills (isOpen : Bool) : List Leaf → Bool
  | [] => false
  | l :: ls =>
    if isBlank l.text then fills false ls
    else if isOpen && !isBlockTag l.tag then
      match l.lines with
      | [] => false
      | [line] => !isBlank (unbroken (unbroken line)) || fills true ls
      | line :: next :: _ => !isBlank (unbroken (unbroken line)) || joinsLast (some line) (l.block false true next)
    else (l.lines.head?.map (Text.startsWith lineBreak)).getD false

/-- All blocks that begin with a lone break are filled; `begun` says whether there are blocks already. -/
def AllFilled (begun : Bool) : List Leaf → Prop
  | [] => True
  | l :: ls => BreaksFilled (fills true ls = true) begun l.lines ∧ AllFilled (begun || !isBlank l.text) ls

@[simp] theorem breaksFilled_nil {filled : Prop} {begun : Bool} : BreaksFilled filled begun [] := by
  intro front rest h
  simp at h

/-- Behind a line, the line takes the place of what has begun. -/
theorem beginsBlock_cons (begun : Bool) (line : Text) (front : List Text) :
    beginsBlock begun (line :: front) = beginsBlock (hasText line) front := by
  cases front <;> rfl

theorem breaksFilled_cons {filled : Prop} {begun : Bool} {line : Text} {lines : List Text} :
    BreaksFilled filled begun (line :: lines) ↔
      (line = lineBreak → begun = false → lines = [] ∧ filled) ∧ BreaksFilled filled (hasText line) lines := by
  constructor
  · refine fun h => ⟨?_, fun front rest hlines hbegins => ?_⟩
    · rintro rfl hbegun
      exact h [] lines rfl (by rw [hbegun]; rfl)
    · exact h (line :: front) rest (by rw [hlines]; rfl) (by rwa [beginsBlock_cons])
  · rintro ⟨hfirst, hrest⟩ front rest hlines hbegins
    cases front with
    | nil =>
      obtain ⟨rfl, rfl⟩ := List.cons.inj hlines
      exact hfirst rfl (by simpa [beginsBlock] using hbegins)
    | cons c front =>
      obtain ⟨rfl, hcons⟩ := List.cons.inj hlines
      rw [beginsBlock_cons] at hbegins
      exact hrest front rest hcons hbegins

/-! ## Texts that lines add -/

theorem text_block (l : Leaf) (isFirst inline : Bool) (line : Text) :
    (l.block isFirst inline line).text = unbroken line := by
  have hof : (l.block isFirst inline line).text = (Block.of l.tag line l.givesStrong).text := rfl
  rw [hof, Block.of, unbroken]
  cases Text.dropPrefix? lineBreak line <;> rfl

/-- Of the lines with nothing to trim, the lone break alone has no text behind the break. -/
theorem isBlank_unbroken_iff {line : Text} (htrim : Text.trim line = line) (hne : line ≠ []) :
    isBlank (unbroken line) = true ↔ line = lineBreak := by
  refine ⟨fun h => ?_, fun h => by rw [h]; rfl⟩
  rw [unbroken] at h
  split at h
  · rename_i rest hrest
    rw [Text.isBlank_trim] at h
    rw [Text.dropPrefix?_eq_some_iff] at hrest
    rw [← htrim, hrest, Text.trim_append_blank h]
    rfl
  · rw [← Text.trim_eq_nil_iff, htrim] at h
    exact (hne h).elim

/-- A text is added to a block without the break in front. -/
theorem isBlank_add (b : Block) (t : Text) : isBlank (b.add t).text = (isBlank b.text && isBlank (unbroken t)) := by
  have hrest : isBlank (unbroken t) = isBlank ((Text.dropPrefix? lineBreak t).getD t) := by
    rw [unbroken]
    cases Text.dropPrefix? lineBreak t with
    | none => rfl
    | some rest => exact Text.isBlank_trim rest
  rw [hrest, Block.add]
  generalize (Text.dropPrefix? lineBreak t).getD t = rest
  dsimp only
  rw [Text.isBlank_append, Text.isBlank_append]
  cases hblank : isBlank rest with
  | false => rw [Bool.and_false, Bool.and_false]
  | true =>
    -- Nothing comes between the block and a blank text.
    have hhead : (rest.head?.map Text.isAlphanumeric).getD false = false := by
      cases rest with
      | nil => rfl
      | cons c rest =>
        refine Bool.eq_false_iff.mpr fun hc => ?_
        have hspace : Text.isSpace c = true := List.all_eq_true.mp hblank c List.mem_cons_self
        rw [isSpace_of_isAlphanumeric hc] at hspace
        cases hspace
    rw [hhead, Bool.and_false, Bool.false_and, if_neg Bool.false_ne_true]
    simp [isBlank]

theorem isBlank_addBelow (b : Block) (t : Text) : isBlank (b.addBelow t).text = false := by
  rw [Block.addBelow, isBlank_add, addBreak_text, Text.isBlank_append]
  simp [isBlank, lineBreak, show Text.isSpace '<' = false by decide]

theorem isBlank_promote (next b : Block) : isBlank (promote next b).text = isBlank b.text := by
  rw [promote]
  split <;> rfl

/-! ## Blocks with a text and without -/

/-- All blocks have a text. -/
def Full (bs : List Block) : Prop :=
  ∀ b ∈ bs, isBlank b.text = false

/-- The last block, which comes first, is the only one without a text. -/
def Waits (bs : List Block) : Prop :=
  ∃ b front, bs = b :: front ∧ isBlank b.text = true ∧ Full front

/-- A block in front of the last one has no text. -/
def Lost (bs : List Block) : Prop :=
  ∃ b front, bs = b :: front ∧ ¬ Full front

theorem full_cons {b : Block} {bs : List Block} : Full (b :: bs) ↔ isBlank b.text = false ∧ Full bs :=
  List.forall_mem_cons

section States

variable {bs : List Block} {b : Block}

theorem Waits.not_full (h : Waits bs) : ¬ Full bs := by
  obtain ⟨b, front, rfl, hb, -⟩ := h
  exact fun h => by cases hb.symm.trans (full_cons.mp h).1

theorem Lost.not_full (h : Lost bs) : ¬ Full bs := by
  obtain ⟨b, front, rfl, hfront⟩ := h
  exact fun h => hfront (full_cons.mp h).2

theorem Full.closeLast (h : Full bs) : Full (closeLast bs) := by
  cases bs with
  | nil => exact h
  | cons b bs => exact full_cons.mpr ⟨(full_cons.mp h).1, (full_cons.mp h).2⟩

theorem Waits.closeLast (h : Waits bs) : Waits (closeLast bs) := by
  obtain ⟨b, front, rfl, hb, hfront⟩ := h
  exact ⟨_, front, rfl, hb, hfront⟩

theorem Lost.closeLast (h : Lost bs) : Lost (closeLast bs) := by
  obtain ⟨b, front, rfl, hfront⟩ := h
  exact ⟨_, front, rfl, hfront⟩

/-! ## What a line does -/

theorem Lost.place (h : Lost bs) (before : Option Text) (b : Block) : Lost (place before b bs) := by
  obtain ⟨last, front, rfl, hfront⟩ := h
  rw [Body.place]
  split
  · exact ⟨_, front, rfl, hfront⟩
  · split
    · exact ⟨_, front, rfl, hfront⟩
    · exact ⟨_, _, rfl, fun h => hfront (full_cons.mp h).2⟩

/-- A block with a text keeps all blocks full, wherever it goes. -/
theorem Full.place (h : Full bs) (before : Option Text) (hb : isBlank b.text = false) : Full (place before b bs) := by
  cases bs with
  | nil => exact full_cons.mpr ⟨hb, h⟩
  | cons last front =>
    rw [full_cons] at h
    rw [Body.place]
    split
    · exact full_cons.mpr ⟨by rw [isBlank_add, h.1, Bool.false_and], h.2⟩
    · split
      · exact full_cons.mpr ⟨isBlank_addBelow _ _, h.2⟩
      · exact full_cons.mpr ⟨hb, full_cons.mpr ⟨by rw [isBlank_promote, h.1], h.2⟩⟩

/-- A block that goes into the last one keeps all blocks full. -/
theorem Full.place_into {before : Option Text} (h : Full bs) (hne : bs ≠ [])
    (hb : b.isBlock = false ∨ joinsLast before b = true) : Full (Body.place before b bs) := by
  cases bs with
  | nil => exact (hne rfl).elim
  | cons last front =>
    rw [full_cons] at h
    rw [Body.place]
    split
    · exact full_cons.mpr ⟨by rw [isBlank_add, h.1, Bool.false_and], h.2⟩
    · rename_i hblock
      rw [if_pos (hb.resolve_left fun hinline => hblock (by rw [hinline]; rfl))]
      exact full_cons.mpr ⟨isBlank_addBelow _ _, h.2⟩

/-- A block behind a break fills the last one, and any other that stands apart begins behind it. -/
theorem Waits.place (h : Waits bs) (before : Option Text) (hb : b.isBlock = true) :
    (joinsLast before b = true → Full (Body.place before b bs)) ∧
      (joinsLast before b = false → Lost (Body.place before b bs)) := by
  obtain ⟨last, front, rfl, hlast, hfront⟩ := h
  have hplace : Body.place before b (last :: front) =
      if joinsLast before b then last.addBelow b.text :: front else b :: promote b last :: front := by
    rw [Body.place, hb]
    rfl
  rw [hplace]
  refine ⟨fun hjoins => ?_, fun hjoins => ?_⟩
  · rw [if_pos hjoins]
    exact full_cons.mpr ⟨isBlank_addBelow _ _, hfront⟩
  · rw [hjoins, if_neg Bool.false_ne_true]
    refine ⟨_, _, rfl, fun h => ?_⟩
    rw [full_cons, isBlank_promote, hlast] at h
    cases h.1

end States

/-! ## The lines of a leaf -/

/-- Lines with nothing to trim, of which the last is not empty. -/
structure Tidy (lines : List Text) : Prop where
  trim : ∀ line ∈ lines, Text.trim line = line
  last : ∀ line, lines.getLast? = some line → line ≠ []

theorem Tidy.tail {line : Text} {lines : List Text} (h : Tidy (line :: lines)) : Tidy lines where
  trim _ hmem := h.trim _ (List.mem_cons_of_mem _ hmem)
  last _ hlast := h.last _ (by rw [List.getLast?_cons, hlast]; rfl)

theorem Tidy.exists_ne_nil {lines : List Text} (h : Tidy lines) (hne : lines ≠ []) : ∃ line ∈ lines, line ≠ [] :=
  ⟨lines.getLast hne, List.getLast_mem hne, h.last _ (List.getLast?_eq_some_getLast hne)⟩

theorem kind_ne_timestamp (tag : String) : BlockKind.of tag [] ≠ .timestamp := by
  rw [BlockKind.of]
  repeat' split
  all_goals first | exact BlockKind.noConfusion | contradiction

namespace Leaf

variable {l : Leaf}

theorem exists_first_line (h : isBlank l.text = false) : ∃ first rest, l.lines = first :: rest ∧ first ≠ [] := by
  obtain ⟨first, rest, hp, hfirst⟩ := exists_first h
  have hne : cleanText first ≠ [] := fun he => by
    rw [cleanText_eq_nil_iff, hfirst] at he
    cases he
  rw [lines_eq, hp]
  split
  · exact ⟨_, _, rfl, hne⟩
  · exact ⟨_, _, rfl, hne⟩

theorem tidy_lines (h : isBlank l.text = false) : Tidy l.lines where
  trim line hline := by
    rw [lines, List.mem_map] at hline
    obtain ⟨piece, -, rfl⟩ := hline
    rw [cleanText_eq, Text.trim_trim]
  last line hline := by
    obtain ⟨init, last, hp, hlast⟩ := exists_last h
    rw [lines_eq, hp] at hline
    split at hline
    · cases init with
      | nil =>
        have hsingle : some (cleanText last) = some line := hline
        obtain rfl := Option.some.inj hsingle
        rw [ne_eq, cleanText_eq_nil_iff, hlast]
        decide
      | cons first init =>
        rw [List.cons_append, markedLines, List.map_append, ← List.cons_append, List.map_append, List.map_singleton,
          List.map_singleton, List.getLast?_concat] at hline
        obtain rfl := Option.some.inj hline
        rw [ne_eq, ← List.isEmpty_iff, isEmpty_cleanText_marked, Text.isEmpty_of_not_blank hlast]
        decide
    · rw [List.map_append, List.map_singleton, List.getLast?_concat] at hline
      obtain rfl := Option.some.inj hline
      rw [ne_eq, cleanText_eq_nil_iff, hlast]
      decide

theorem isBlock_further (l : Leaf) (inline : Bool) (line : Text) : (l.block false inline line).isBlock = true := by
  simp [Leaf.block, Block.isBlock]

theorem afterBreak_block (l : Leaf) (isFirst inline : Bool) (line : Text) :
    (l.block isFirst inline line).afterBreak = Text.startsWith lineBreak line := by
  have hof : (l.block isFirst inline line).afterBreak = (Block.of l.tag line l.givesStrong).afterBreak := rfl
  rw [hof, Block.of, Text.startsWith]
  cases Text.dropPrefix? lineBreak line <;> rfl

end Leaf

/-- Whether a lone break goes on from something: the line in front if it has text, and at the beginning of a leaf the
last block. -/
def begun (before : Option Text) (bs : List Block) : Bool :=
  match before with
  | none => !bs.isEmpty
  | some line => hasText line

theorem joinsLast_none (b : Block) : joinsLast none b = b.afterBreak :=
  Bool.and_true _

theorem joinsLast_some (line : Text) (b : Block) :
    joinsLast (some line) b = (b.afterBreak && (hasText line && b.kind != .timestamp)) := rfl

/-- Behind a line without text, nothing joins the last block. -/
theorem joinsLast_of_not_hasText {line : Text} (h : hasText line = false) (b : Block) :
    joinsLast (some line) b = false := by
  rw [joinsLast_some, h, Bool.false_and, Bool.and_false]

section Lines

variable {l : Leaf} {bs : List Block} {before : Option Text} {inline : Bool} {line : Text}

/-- Whether a lone break joins the last block. -/
theorem joinsLast_lineBreak (hbs : bs ≠ []) (isFirst : Bool) :
    joinsLast before (l.block isFirst inline lineBreak) = begun before bs := by
  have hkind : ((l.block isFirst inline lineBreak).kind != .timestamp) = true := by
    rw [bne_iff_ne]
    exact kind_ne_timestamp l.tag
  have hbreak : (l.block isFirst inline lineBreak).afterBreak = true := l.afterBreak_block _ _ _
  cases before with
  | none => simp [joinsLast_none, hbreak, begun, hbs]
  | some line => rw [joinsLast_some, hbreak, hkind, Bool.true_and, Bool.and_true, begun]

/-- A lone break that goes on from nothing begins a block without a text, and any other line keeps all blocks full. -/
theorem Full.place_line (h : Full bs) (htrim : Text.trim line = line) (hne : line ≠ [])
    (hbs : bs = [] → before = none ∧ inline = false) :
    (line = lineBreak → begun before bs = false →
      Waits (Body.place before (l.block before.isNone inline line) bs) ∧
        continuesLast (Body.place before (l.block before.isNone inline line) bs) = true) ∧
    (¬ (line = lineBreak ∧ begun before bs = false) →
        Full (Body.place before (l.block before.isNone inline line) bs)) := by
  refine ⟨?_, fun hno => ?_⟩
  · rintro rfl hbegun
    have hblank : isBlank (l.block before.isNone inline lineBreak).text = true := by rw [text_block]; rfl
    cases bs with
    | nil =>
      obtain ⟨rfl, rfl⟩ := hbs rfl
      exact ⟨⟨_, [], rfl, hblank, h⟩, rfl⟩
    | cons last front =>
      obtain ⟨prev, rfl⟩ : ∃ prev, before = some prev := by
        cases before with
        | none => cases hbegun
        | some prev => exact ⟨prev, rfl⟩
      have hplace : Body.place (some prev) (l.block false inline lineBreak) (last :: front) =
          l.block false inline lineBreak :: promote (l.block false inline lineBreak) last :: front := by
        rw [Body.place, l.isBlock_further, joinsLast_lineBreak (List.cons_ne_nil last front), hbegun]
        rfl
      rw [full_cons] at h
      rw [Option.isNone_some, hplace]
      exact ⟨⟨_, _, rfl, hblank, full_cons.mpr ⟨by rw [isBlank_promote, h.1], h.2⟩⟩, rfl⟩
  · by_cases hline : line = lineBreak
    · subst hline
      have hbegun : begun before bs = true := by
        rw [← Bool.not_eq_false]
        exact fun hf => hno ⟨rfl, hf⟩
      have hbsne : bs ≠ [] := by
        rintro rfl
        rw [(hbs rfl).1] at hbegun
        cases hbegun
      exact h.place_into hbsne (.inr ((joinsLast_lineBreak hbsne _).trans hbegun))
    · refine h.place before ?_
      rw [text_block, Bool.eq_false_iff, ne_eq, isBlank_unbroken_iff htrim hne]
      exact hline

theorem place_ne_nil (before : Option Text) (b : Block) (bs : List Block) : place before b bs ≠ [] := by
  cases bs with
  | nil => exact List.cons_ne_nil _ _
  | cons last front =>
    rw [place]
    split
    · exact List.cons_ne_nil _ _
    · split <;> exact List.cons_ne_nil _ _

end Lines

/-! ## What leaves do -/

section Leaves

variable {l : Leaf} {ls : List Leaf} {bs : List Block} {inline : Bool}

theorem Lost.addLines : ∀ {lines : List Text} {before : Option Text} {bs : List Block}, Lost bs →
    Lost (addLines l inline before bs lines)
  | [], _, _, h => h
  | line :: lines, before, bs, h => by
    rw [Body.addLines]
    refine Lost.addLines ?_
    split
    · split
      · exact h.closeLast
      · exact h
    · exact h.place before _

theorem Lost.addLeaves : ∀ {ls : List Leaf} {bs : List Block}, Lost bs → Lost (ls.foldl addLeaf bs)
  | [], _, h => h
  | l :: _, bs, h => by
    rw [List.foldl_cons]
    exact Lost.addLeaves (Lost.addLines h)

/-- **No further line of the leaf goes into a block that began with a lone break.** -/
theorem Waits.lost : ∀ {lines : List Text} {prev : Text} {bs : List Block}, Waits bs → hasText prev = false →
    (∃ line ∈ lines, line ≠ []) → Lost (addLines l inline (some prev) bs lines)
  | [], _, _, _, _, hlines => by
    obtain ⟨line, hline, -⟩ := hlines
    cases hline
  | line :: lines, prev, bs, h, hprev, hlines => by
    rw [addLines]
    by_cases hline : line = []
    · subst hline
      have hrest : ∃ line ∈ lines, line ≠ [] := by simpa using hlines
      refine Waits.lost ?_ rfl hrest
      simp only [List.isEmpty_nil, if_true]
      split
      · exact h.closeLast
      · exact h
    · rw [if_neg (by simpa using hline)]
      exact Lost.addLines ((h.place _ (l.isBlock_further _ _)).2 (joinsLast_of_not_hasText hprev _))

theorem closeLast_ne_nil (h : bs ≠ []) : closeLast bs ≠ [] := by
  cases bs with
  | nil => exact (h rfl).elim
  | cons b bs => exact List.cons_ne_nil _ _

/-- The leaves tell whether all blocks have a text in the end, from full blocks on and from blocks of which the last
waits. -/
structure Told (ls : List Leaf) : Prop where
  full : ∀ {bs}, Full bs → (Full (ls.foldl addLeaf bs) ↔ AllFilled (!bs.isEmpty) ls)
  waits : ∀ {bs}, Waits bs → (Full (ls.foldl addLeaf bs) ↔ fills (continuesLast bs) ls = true ∧ AllFilled true ls)

/-- Lines put to full blocks leave all blocks full in the end just if each lone break among them that begins a block is
the last line and is filled by the leaves behind. -/
theorem Told.addLines_iff (hls : Told ls) : ∀ {lines : List Text} {before : Option Text} {bs : List Block}, Full bs →
    (bs = [] → before = none ∧ inline = false) → (before = none → ∃ first rest, lines = first :: rest ∧ first ≠ []) →
    Tidy lines → (Full (ls.foldl addLeaf (addLines l inline before bs lines)) ↔
      BreaksFilled (fills true ls = true) (begun before bs) lines ∧ AllFilled true ls)
  | [], before, bs, h, hbs, hfirst, _ => by
    have hne : bs ≠ [] := fun he => by
      obtain ⟨first, rest, hlines, -⟩ := hfirst (hbs he).1
      cases hlines
    have hbegun : (!bs.isEmpty) = true := by simpa using hne
    simp only [addLines, hls.full h, hbegun, breaksFilled_nil, true_and]
  | line :: rest, before, bs, h, hbs, hfirst, htidy => by
    have hnext : ∀ cs : List Block, Full cs → cs ≠ [] →
        (Full (ls.foldl addLeaf (addLines l inline (some line) cs rest)) ↔
        BreaksFilled (fills true ls = true) (hasText line) rest ∧ AllFilled true ls) := fun cs hcs hne =>
      hls.addLines_iff hcs (fun he => (hne he).elim) (fun hn => by cases hn) htidy.tail
    rw [addLines, breaksFilled_cons]
    by_cases hline : line = []
    · have hne : bs ≠ [] := fun he => by
        obtain ⟨first, rest, hlines, hne⟩ := hfirst (hbs he).1
        exact hne ((List.cons.inj hlines).1.symm.trans hline)
      have hno : line ≠ lineBreak := by rw [hline]; decide
      simp only [List.isEmpty_iff.mpr hline, if_true, hno, false_implies, true_and]
      split
      · exact hnext _ h.closeLast (closeLast_ne_nil hne)
      · exact hnext _ h hne
    · rw [if_neg (by simpa using hline)]
      obtain ⟨hbreak, helse⟩ := h.place_line (l := l) (htidy.trim line List.mem_cons_self) hline hbs
      by_cases hlone : line = lineBreak ∧ begun before bs = false
      · -- The one way out of the full blocks; from here every further line of the leaf loses.
        obtain ⟨hwait, hopen⟩ := hbreak hlone.1 hlone.2
        simp only [hlone.1, hlone.2, true_implies] at hwait hopen ⊢
        cases rest with
        | nil => simp only [addLines, hls.waits hwait, hopen, breaksFilled_nil, true_and, and_true]
        | cons next rest =>
          have hlost : Lost (addLines l inline (some lineBreak) _ (next :: rest)) :=
            hwait.lost rfl (htidy.tail.exists_ne_nil (List.cons_ne_nil next rest))
          refine iff_of_false hlost.addLeaves.not_full fun hand => ?_
          cases hand.1.1.1
      · rw [hnext _ (helse hlone) (place_ne_nil _ _ _)]
        exact ⟨fun hand => ⟨⟨fun he hb => (hlone ⟨he, hb⟩).elim, hand.1⟩, hand.2⟩, fun hand => ⟨hand.1.2, hand.2⟩⟩

theorem Leaf.isBlock_first (l : Leaf) (inline : Bool) (line : Text) :
    (l.block true inline line).isBlock = !(inline && !isBlockTag l.tag) := by
  have hof : (Block.of l.tag line l.givesStrong).display = if isBlockTag l.tag then Display.block else .inline := by
    rw [Block.of]
    cases Text.dropPrefix? lineBreak line <;> rfl
  rw [Block.isBlock, Leaf.block]
  dsimp only
  rw [hof]
  cases inline <;> cases isBlockTag l.tag <;> rfl

/-- Lines behind one that has left all blocks full. -/
theorem Told.behind_iff (hls : Told ls) (h : Full bs) (hne : bs ≠ []) {line : Text} {rest : List Text}
    (htidy : Tidy (line :: rest)) : Full (ls.foldl addLeaf (addLines l inline (some line) bs rest)) ↔
      BreaksFilled (fills true ls = true) true (line :: rest) ∧ AllFilled true ls := by
  rw [hls.addLines_iff h (fun he => (hne he).elim) (fun hn => by cases hn) htidy.tail, breaksFilled_cons]
  simp [begun]

/-- A further line goes into a block that waits if it joins it, and otherwise no line does. -/
theorem Told.further_iff (hls : Told ls) (h : Waits bs) {prev line : Text} {rest : List Text}
    (htidy : Tidy (line :: rest)) :
    Full (ls.foldl addLeaf (addLines l inline (some prev) bs (line :: rest))) ↔
      joinsLast (some prev) (l.block false inline line) = true ∧
        BreaksFilled (fills true ls = true) (hasText prev) (line :: rest) ∧ AllFilled true ls := by
  cases hjoins : joinsLast (some prev) (l.block false inline line) with
  | true =>
    have hfull := (h.place _ (l.isBlock_further inline line)).1 hjoins
    have hprev : hasText prev = true := by
      rw [← Bool.not_eq_false]
      intro hno
      rw [joinsLast_of_not_hasText hno] at hjoins
      cases hjoins
    have hline : line ≠ [] := by
      rintro rfl
      rw [joinsLast_some, l.afterBreak_block] at hjoins
      cases hjoins
    rw [addLines, if_neg (by simpa using hline), Option.isNone_some, hprev,
      hls.behind_iff hfull (place_ne_nil _ _ _) htidy]
    exact (and_iff_right rfl).symm
  | false =>
    have hlost : Lost (addLines l inline (some prev) bs (line :: rest)) := by
      by_cases hline : line = []
      · have hrest : ∃ line ∈ rest, line ≠ [] := by
          simpa [hline] using htidy.exists_ne_nil (List.cons_ne_nil line rest)
        rw [addLines, if_pos (List.isEmpty_iff.mpr hline)]
        refine Waits.lost ?_ (by rw [hline]; rfl) hrest
        split
        · exact h.closeLast
        · exact h
      · rw [addLines, if_neg (by simpa using hline)]
        exact ((h.place _ (l.isBlock_further inline line)).2 hjoins).addLines
    exact iff_of_false hlost.addLeaves.not_full fun hand => by cases hand.1

/-- A leaf whose first line goes into the block that waits. -/
theorem Told.addLeaf_open_iff (hls : Told ls) (h : Waits bs) (hl : isBlank l.text = false)
    (hopen : continuesLast bs = true)
    (htag : isBlockTag l.tag = false) : Full (ls.foldl addLeaf (addLeaf bs l)) ↔
      fills true (l :: ls) = true ∧ BreaksFilled (fills true ls = true) true l.lines ∧ AllFilled true ls := by
  obtain ⟨first, rest, hlines, hne⟩ := l.exists_first_line hl
  have htidy : Tidy (first :: rest) := hlines ▸ l.tidy_lines hl
  obtain ⟨last, front, rfl, hblank, hfront⟩ := h
  have hplace : place none (l.block true true first) (last :: front) = last.add (unbroken first) :: front := by
    rw [place, l.isBlock_first, htag, text_block]
    rfl
  have hadd : isBlank (last.add (unbroken first)).text = isBlank (unbroken (unbroken first)) := by
    rw [isBlank_add, hblank, Bool.true_and]
  rw [addLeaf, hopen, hlines, addLines, if_neg (by simpa using hne), Option.isNone_none, hplace, fills,
    hl, htag, hlines]
  cases hfirst : isBlank (unbroken (unbroken first)) with
  | false =>
    rw [hls.behind_iff (full_cons.mpr ⟨hadd.trans hfirst, hfront⟩) (List.cons_ne_nil _ _) htidy]
    cases rest <;> simp [hfirst]
  | true =>
    have hwaits : Waits (last.add (unbroken first) :: front) := ⟨_, front, rfl, hadd.trans hfirst, hfront⟩
    rw [breaksFilled_cons]
    cases rest with
    | nil =>
      have hcontinues : continuesLast (last.add (unbroken first) :: front) = true := hopen
      rw [addLines, hls.waits hwaits, hcontinues]
      simp [hfirst]
    | cons next rest =>
      rw [hls.further_iff hwaits htidy.tail]
      simp [hfirst]

/-- A leaf that begins behind the block that waits, unless a break leads into it. -/
theorem Told.addLeaf_closed_iff (hls : Told ls) (h : Waits bs) (hl : isBlank l.text = false)
    (hclosed : (continuesLast bs && !isBlockTag l.tag) = false) : Full (ls.foldl addLeaf (addLeaf bs l)) ↔
      fills (continuesLast bs) (l :: ls) = true ∧ BreaksFilled (fills true ls = true) true l.lines ∧
        AllFilled true ls := by
  obtain ⟨first, rest, hlines, hne⟩ := l.exists_first_line hl
  have htidy : Tidy (first :: rest) := hlines ▸ l.tidy_lines hl
  have hblock : (l.block true (continuesLast bs) first).isBlock = true := by
    rw [l.isBlock_first, hclosed]
    rfl
  have hplace := h.place none hblock
  rw [addLeaf, hlines, addLines, if_neg (by simpa using hne), fills, hl, hclosed, hlines]
  cases hmark : Text.startsWith lineBreak first with
  | true =>
    have hjoins : joinsLast none (l.block true (continuesLast bs) first) = true := by
      rw [joinsLast_none, l.afterBreak_block, hmark]
    rw [Option.isNone_none, hls.behind_iff (hplace.1 hjoins) (place_ne_nil _ _ _) htidy]
    simp [hmark]
  | false =>
    have hjoins : joinsLast none (l.block true (continuesLast bs) first) = false := by
      rw [joinsLast_none, l.afterBreak_block, hmark]
    refine iff_of_false (hplace.2 hjoins).addLines.addLeaves.not_full fun hand => ?_
    simp [hmark] at hand

/-- A leaf behind a block that waits. -/
theorem Told.addLeaf_iff (hls : Told ls) (h : Waits bs) (hl : isBlank l.text = false) :
    Full (ls.foldl addLeaf (addLeaf bs l)) ↔
      fills (continuesLast bs) (l :: ls) = true ∧ BreaksFilled (fills true ls = true) true l.lines ∧
        AllFilled true ls := by
  cases hclosed : continuesLast bs && !isBlockTag l.tag with
  | true =>
    rw [Bool.and_eq_true, Bool.not_eq_true'] at hclosed
    rw [hclosed.1]
    exact hls.addLeaf_open_iff h hl hclosed.1 hclosed.2
  | false => exact hls.addLeaf_closed_iff h hl hclosed

/-- A leaf behind full blocks. -/
theorem Told.addLeaf_full_iff (hls : Told ls) (h : Full bs) (hl : isBlank l.text = false) :
    Full (ls.foldl addLeaf (addLeaf bs l)) ↔
      BreaksFilled (fills true ls = true) (!bs.isEmpty) l.lines ∧ AllFilled true ls := by
  obtain ⟨first, rest, hlines, hfirst⟩ := l.exists_first_line hl
  rw [addLeaf]
  refine hls.addLines_iff h ?_ (fun _ => ⟨first, rest, hlines, hfirst⟩) (l.tidy_lines hl)
  rintro rfl
  exact ⟨rfl, rfl⟩

theorem breaksFilled_of_isBlank {filled : Prop} {begun : Bool} (h : isBlank l.text = true) :
    BreaksFilled filled begun l.lines := by
  rw [Leaf.lines_of_isBlank h, breaksFilled_cons]
  exact ⟨fun he => absurd he (by decide), breaksFilled_nil⟩

/-- **Leaves tell whether all blocks have a text.** -/
theorem told : ∀ ls : List Leaf, Told ls
  | [] => by
    refine ⟨fun h => iff_of_true h trivial, fun h => iff_of_false h.not_full fun hand => ?_⟩
    cases hand.1
  | l :: ls => by
    have hls := told ls
    refine ⟨fun {bs} h => ?_, fun {bs} h => ?_⟩
    · rw [List.foldl_cons, AllFilled]
      cases hl : isBlank l.text with
      | true =>
        have hempty : (closeLast bs).isEmpty = bs.isEmpty := by cases bs <;> rfl
        rw [addLeaf_of_isBlank hl, hls.full h.closeLast, hempty]
        simp [breaksFilled_of_isBlank hl]
      | false => simp [hls.addLeaf_full_iff h hl]
    · rw [List.foldl_cons, AllFilled, Bool.true_or]
      cases hl : isBlank l.text with
      | true =>
        have hclosed : continuesLast (closeLast bs) = false := by cases bs <;> rfl
        rw [addLeaf_of_isBlank hl, hls.waits h.closeLast, hclosed, fills, if_pos hl]
        simp [breaksFilled_of_isBlank hl]
      | false => exact hls.addLeaf_iff h hl

end Leaves

/-! ## Leaves without marks -/

/-- Behind a line without text there is no line of white space; it may be empty. -/
def Clear (before line : Text) : Prop :=
  isBlank line = true → line ≠ [] → isBlank before = false

instance (before line : Text) : Decidable (Clear before line) :=
  inferInstanceAs (Decidable (isBlank line = true → line ≠ [] → isBlank before = false))

/-- The marked lines that become lone breaks are those of white space. -/
theorem cleanText_marked_eq_iff {line : Text} :
    cleanText (marked line) = lineBreak ↔ isBlank line = true ∧ line ≠ [] := by
  by_cases hline : line = []
  · subst hline
    exact iff_of_false (by decide) fun h => h.2 rfl
  · obtain ⟨rest, hclean, -, hrest⟩ := exists_cleanText_mark line
    rw [marked, if_neg (by simpa using hline), hclean, ← hrest, List.append_right_eq_self]
    exact (and_iff_left hline).symm

theorem breaksFilled_marked_iff {filled : Prop} :
    ∀ {rest : List Text} {before prev : Text}, hasText prev = !isBlank before →
    (∀ line, rest.getLast? = some line → isBlank line = false) →
    (BreaksFilled filled (hasText prev) (rest.map fun line => cleanText (marked line)) ↔ (before :: rest).IsChain Clear)
  | [], _, _, _, _ => by simp
  | line :: rest, before, prev, hprev, hlast => by
    have hlast' : ∀ line, rest.getLast? = some line → isBlank line = false := fun last hl =>
      hlast last (by rw [List.getLast?_cons, hl]; rfl)
    rw [List.map_cons, breaksFilled_cons, breaksFilled_marked_iff (hasText_cleanText_marked line) hlast',
      List.isChain_cons_cons, cleanText_marked_eq_iff, hprev]
    refine and_congr_left fun _ => ⟨fun h hblank hne => ?_, fun h hblank hbefore => ?_⟩
    · -- The last line is not blank, so a lone break would have a line behind it.
      rw [← Bool.not_eq_true]
      intro hbefore
      obtain ⟨hrest, -⟩ := h ⟨hblank, hne⟩ (by rw [hbefore]; rfl)
      rw [List.map_eq_nil_iff] at hrest
      have hline := hlast line (by rw [hrest]; rfl)
      rw [hblank] at hline
      cases hline
    · rw [h hblank.1 hblank.2] at hbefore
      cases hbefore

/-- In a leaf without marks the lone breaks are lines of white space, with a line behind them that has text. -/
theorem Leaf.breaksFilled_iff {l : Leaf} (hl : '<' ∉ l.text) {filled : Prop} {begun : Bool} :
    BreaksFilled filled begun l.lines ↔ (l.tag = "p" → l.pieces.IsChain Clear) := by
  have hclean : ∀ piece ∈ l.pieces, cleanText piece ≠ lineBreak := fun piece hpiece he =>
    hl (mem_of_mem_pieces hpiece (mem_of_mem_cleanText (by decide) (he ▸ List.mem_cons_self)))
  by_cases ht : l.tag = "p"
  · rw [imp_iff_right ht]
    cases hb : isBlank l.text with
    | true =>
      rw [pieces_of_isBlank hb]
      exact iff_of_true (breaksFilled_of_isBlank hb) (List.isChain_singleton _)
    | false =>
      obtain ⟨init, last, hp, hlast⟩ := exists_last hb
      obtain ⟨first, rest, hp', hfirst⟩ := exists_first hb
      rw [hp', List.forall_mem_cons] at hclean
      have hmem : '<' ∉ first := fun h => hl (mem_of_mem_pieces (hp' ▸ List.mem_cons_self) h)
      have hrest : ∀ line, rest.getLast? = some line → isBlank line = false := by
        intro line hline
        have he : (first :: rest).getLast? = some line := by rw [List.getLast?_cons, hline]; rfl
        rw [← hp', hp, List.getLast?_concat] at he
        rw [← Option.some.inj he]
        exact hlast
      have hlines : l.lines = cleanText first :: rest.map fun line => cleanText (marked line) := by
        rw [lines_eq, ht, hp', beq_self_eq_true, if_pos rfl, markedLines, List.map_cons, List.map_map]
        rfl
      rw [hlines, breaksFilled_cons, breaksFilled_marked_iff (hasText_cleanText hmem) hrest, hp']
      exact and_iff_right fun he => (hclean.1 he).elim
  · refine iff_of_true (fun front rest hlines => ?_) fun h => (ht h).elim
    have hp : (l.tag == "p") = false := by simpa using ht
    rw [lines_eq, hp, if_neg Bool.false_ne_true] at hlines
    have hmem : lineBreak ∈ l.pieces.map cleanText := hlines ▸ List.mem_append_right _ List.mem_cons_self
    obtain ⟨piece, hpiece, he⟩ := List.mem_map.mp hmem
    exact (hclean piece hpiece he).elim

theorem allFilled_iff : ∀ {ls : List Leaf} {begun : Bool}, (∀ l ∈ ls, '<' ∉ l.text) →
    (AllFilled begun ls ↔ ∀ l ∈ ls, l.tag = "p" → l.pieces.IsChain Clear)
  | [], _, _ => by simp [AllFilled]
  | l :: ls, begun, h => by
    rw [List.forall_mem_cons] at h ⊢
    rw [AllFilled, l.breaksFilled_iff h.1, allFilled_iff h.2]

/-! ## Runs -/

/-- Without filters, all blocks come through. -/
theorem letThrough_nil : ∀ bs : List Block, letThrough [] bs = bs
  | [] => rfl
  | b :: bs => by
    rw [letThrough_cons, letThrough_nil bs]
    rfl

/-- The leaves of all trees that a run walks over. -/
def allLeaves (calls : List (List Exclude × Node)) : List Leaf :=
  calls.flatMap fun c => leavesIn c.1 (c.2.tag?.getD "") c.2.children

theorem allLeaves_cons (c : List Exclude × Node) (calls : List (List Exclude × Node)) :
    allLeaves (c :: calls) = leavesIn c.1 (c.2.tag?.getD "") c.2.children ++ allLeaves calls :=
  List.flatMap_cons

theorem foldl_collect : ∀ (calls : List (List Exclude × Node)) (bs : List Block),
    calls.foldl (fun bs c => collect c.1 bs c.2) bs = ((allLeaves calls).foldl addLeaf bs.reverse).reverse
  | [], bs => (List.reverse_reverse bs).symm
  | c :: calls, bs => by
    rw [List.foldl_cons, foldl_collect calls, collect, List.reverse_reverse, allLeaves_cons, List.foldl_append]

/-- **When all blocks have a text.** After any run, all blocks have a text just if every block that begins with a lone
break is filled; and just then no filters let a block without a text into a body. If there is no `<` in the trees, it
comes to this: in the paragraphs, no line of white space stands behind a line without text. -/
theorem run_full_iff (calls : List (List Exclude × Node)) :
    ((∀ b ∈ (Builder.run calls).blocks, isBlank b.text = false) ↔ AllFilled false (allLeaves calls)) ∧
      ((∀ filters b, .block b ∈ emitFrom filters none (Builder.run calls).blocks → isBlank b.text = false) ↔
        AllFilled false (allLeaves calls)) ∧
      ((∀ c ∈ calls, ∀ t ∈ c.2.stringsBelow, '<' ∉ t) →
        (AllFilled false (allLeaves calls) ↔ ∀ l ∈ allLeaves calls, l.tag = "p" → l.pieces.IsChain Clear)) := by
  have hblocks : (∀ b ∈ (Builder.run calls).blocks, isBlank b.text = false) ↔ AllFilled false (allLeaves calls) := by
    rw [Builder.blocks_run, foldl_collect]
    simp only [List.mem_reverse]
    exact (told (allLeaves calls)).full fun b hb => by cases hb
  refine ⟨hblocks, ⟨fun h => hblocks.mp fun b hb => h [] b ?_, fun h filters b hb => hblocks.mpr h b ?_⟩,
    fun hplain => ?_⟩
  · have hall : b ∈ letThrough [] (Builder.run calls).blocks := by rwa [letThrough_nil]
    rw [← filterMap_emitFrom [] none, List.mem_filterMap] at hall
    obtain ⟨line, hline, he⟩ := hall
    cases line with
    | block c =>
      obtain rfl := Option.some.inj he
      exact hline
    | opening | closing => cases he
  · exact (letThrough_sublist filters _).subset (mem_of_emitFrom hb)
  · refine allFilled_iff fun l hl hm => ?_
    obtain ⟨c, hc, hl⟩ := List.mem_flatMap.mp hl
    rcases mem_leavesIn hl hm with h | ⟨t, ht, hm⟩
    · cases h
    · exact hplain c hc t ht hm

/-- A line of white space behind a line with text, and a break at the end of a page that the next page fills. -/
theorem run_full_iff_twoPages :
    let calls : List (List Exclude × Node) :=
      [([], .element "div" [] [.element "p" [] [.text .plain "a".toList, .element "br" [] [], .text .plain " ".toList,
          .element "br" [] [], .text .plain "b".toList], .element "h2" [] [.text .plain "c\n\n<br>".toList]]),
        ([], .element "div" [] [.text .plain "d".toList, .element "p" [] [.text .plain "e".toList]])]
    AllFilled false (allLeaves calls) ∧
      (Builder.run calls).blocks.map (·.text) = ["a\n<br>".toList, "b".toList, "c".toList, "d".toList, "e".toList] := by
  intro calls
  have htexts : (Builder.run calls).blocks.map (·.text) =
      ["a\n<br>".toList, "b".toList, "c".toList, "d".toList, "e".toList] := by decide
  refine ⟨(run_full_iff calls).1.mp fun b hb => ?_, htexts⟩
  have hmem : b.text ∈ (Builder.run calls).blocks.map (·.text) := List.mem_map_of_mem hb
  rw [htexts] at hmem
  revert hmem
  generalize b.text = t
  revert t
  decide

/-- A second line of white space in a row is a block without a text, and it goes into the body. -/
theorem run_not_full :
    ¬ ∀ calls : List (List Exclude × Node), (∀ b ∈ (Builder.run calls).blocks, isBlank b.text = false) ∧
      ∀ b, .block b ∈ emitFrom [] none (Builder.run calls).blocks → isBlank b.text = false := by
  intro h
  let calls : List (List Exclude × Node) :=
    [([], .element "div" [] [.element "p" [] [.text .plain "A".toList, .element "br" [] [], .text .plain " ".toList,
      .element "br" [] [], .text .plain " ".toList, .element "br" [] [], .text .plain "B".toList]])]
  exact absurd (h calls).1 (by decide)

end Excerpt.Body
