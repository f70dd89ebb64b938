import Excerpt.Proofs.Body.Cleanup

/-!
# Readings of blocks

A `Reading` reads texts so that white space and line break marks count for nothing. Whatever the reading, one more line
of a leaf adds its reading to that of the blocks (`Reading.holds_place`), hence so does a leaf (`Reading.holds_addLeaf`)
and a tree (`Reading.holds_collect`). The invariant of the walk is `Reading.Holds`.

`Reading.letters` keeps some characters, none of them in the mark; every text can be read so.
-/

namespace Excerpt.Body

open Text (bare)

/-! ## Readings -/

/-- A way to read texts in which white space and line break marks count for nothing. -/
structure Reading where
  /-- Texts of these characters can always be read. -/
  plain : Char → Prop
  /-- The texts without white space that can be read. -/
  Fits : Text → Prop
  /-- What is read. -/
  of : Text → Text
  plain_newline : plain '\n'
  fits_of_plain : ∀ {t}, (∀ c ∈ t, plain c) → Fits t
  fits_append : ∀ {a b}, Fits a → Fits b → Fits (a ++ b)
  of_append : ∀ {a} b, Fits a → of (a ++ b) = of a ++ of b
  fits_mark : ∀ {t}, Fits (lineBreak ++ t) ↔ Fits t
  of_mark : ∀ t, of (lineBreak ++ t) = of t

namespace Reading

variable (R : Reading)

/-- Whether a text can be read. -/
def Reads (t : Text) : Prop :=
  R.Fits (bare t)

/-- The reading of a text. -/
def text (t : Text) : Text :=
  R.of (bare t)

variable {R}

theorem fits_nil : R.Fits [] :=
  R.fits_of_plain (by simp)

theorem of_nil : R.of [] = [] := by
  have h := R.of_append [] (fits_nil (R := R))
  simpa using h

theorem reads_of_plain {t : Text} (h : ∀ c ∈ t, R.plain c) : R.Reads t :=
  R.fits_of_plain fun c hc => h c (Text.mem_of_mem_bare hc)

theorem reads_append {a b : Text} (ha : R.Reads a) (hb : R.Reads b) : R.Reads (a ++ b) := by
  rw [Reads, Text.bare_append]
  exact R.fits_append ha hb

theorem text_append {a : Text} (b : Text) (ha : R.Reads a) : R.text (a ++ b) = R.text a ++ R.text b := by
  rw [text, Text.bare_append]
  exact R.of_append _ ha

theorem reads_mark {t : Text} : R.Reads (lineBreak ++ t) ↔ R.Reads t := by
  rw [Reads, bare_lineBreak_append]
  exact R.fits_mark

theorem text_mark (t : Text) : R.text (lineBreak ++ t) = R.text t := by
  rw [text, bare_lineBreak_append]
  exact R.of_mark _

theorem reads_congr {a b : Text} (h : bare a = bare b) : R.Reads a ↔ R.Reads b := by
  rw [Reads, Reads, h]

theorem text_congr {a b : Text} (h : bare a = bare b) : R.text a = R.text b := by
  rw [text, text, h]

/-- Texts one after the other are read one by one. -/
theorem text_flatMap {α : Type} {f : α → Text} : ∀ {as : List α}, (∀ a ∈ as, R.Reads (f a)) →
    R.text (as.flatMap f) = as.flatMap fun a => R.text (f a)
  | [], _ => of_nil
  | a :: as, h => by
    rw [List.forall_mem_cons] at h
    rw [List.flatMap_cons, List.flatMap_cons, text_append _ h.1, text_flatMap h.2]

/-- A mark in front of a text may be cut off. -/
theorem reads_unmarked {t r : Text} (h : Text.dropPrefix? lineBreak t = some r) :
    (R.Reads r ↔ R.Reads t) ∧ R.text r = R.text t := by
  rw [Text.dropPrefix?_eq_some_iff.mp h]
  exact ⟨reads_mark.symm, (text_mark r).symm⟩

/-! ## Lines of a leaf -/

theorem reads_marked {t : Text} (h : R.Reads t) : R.Reads (marked t) := by
  rw [marked]
  split
  · exact h
  · exact reads_mark.mpr h

theorem text_marked (t : Text) : R.text (marked t) = R.text t := by
  rw [marked]
  split
  · rfl
  · exact text_mark t

theorem reads_markedLines {ts : List Text} (h : ∀ t ∈ ts, R.Reads t) : ∀ t ∈ markedLines ts, R.Reads t := by
  cases ts with
  | nil => exact h
  | cons w ws =>
    intro t ht
    rcases List.mem_cons.mp ht with rfl | ht
    · exact h _ List.mem_cons_self
    · obtain ⟨u, hu, rfl⟩ := List.mem_map.mp ht
      exact reads_marked (h u (List.mem_cons_of_mem _ hu))

theorem flatMap_markedLines (ts : List Text) : (markedLines ts).flatMap R.text = ts.flatMap R.text := by
  cases ts with
  | nil => rfl
  | cons w ws =>
    simp only [markedLines, List.flatMap_cons, List.flatMap_map]
    simp only [text_marked]

/-- The lines of a leaf can be read if its text is plain. -/
theorem reads_lines {l : Leaf} (h : ∀ c ∈ l.text, R.plain c) : ∀ line ∈ l.lines, R.Reads line := by
  have hp : ∀ t ∈ l.pieces, R.Reads t := fun t ht => reads_of_plain fun c hc => h c (Leaf.mem_of_mem_pieces ht hc)
  intro line hline
  rw [Leaf.lines_eq] at hline
  obtain ⟨t, ht, rfl⟩ := List.mem_map.mp hline
  rw [reads_congr (bare_cleanText t)]
  split at ht
  · exact reads_markedLines hp t ht
  · exact hp t ht

/-- The lines of a leaf read as its text. -/
theorem flatMap_lines {l : Leaf} (h : ∀ c ∈ l.text, R.plain c) : l.lines.flatMap R.text = R.text l.text := by
  have hp : ∀ t ∈ l.pieces, R.Reads t := fun t ht => reads_of_plain fun c hc => h c (Leaf.mem_of_mem_pieces ht hc)
  have hc : ∀ t, R.text (cleanText t) = R.text t := fun t => text_congr (bare_cleanText t)
  rw [Leaf.lines_eq, List.flatMap_map]
  simp only [hc]
  rw [← text_congr (Leaf.bare_flatten_pieces l), ← List.flatMap_id, text_flatMap (f := id) hp]
  split
  · exact flatMap_markedLines _
  · rfl

/-! ## Blocks -/

variable (R)

/-- Blocks, the last one first, hold a reading: they can be read, and their texts in order read as it. -/
def Holds (bs : List Block) (u : Text) : Prop :=
  (∀ b ∈ bs, R.Reads b.text) ∧ bs.reverse.flatMap (fun b => R.text b.text) = u

variable {R} {bs : List Block} {u : Text}

theorem holds_nil : R.Holds [] [] :=
  ⟨by simp, rfl⟩

theorem holds_cons {b : Block} {t : Text} (h : R.Holds bs u) (hb : R.Reads b.text) (ht : R.text b.text = t) :
    R.Holds (b :: bs) (u ++ t) := by
  obtain ⟨hr, hu⟩ := h
  refine ⟨List.forall_mem_cons.mpr ⟨hb, hr⟩, ?_⟩
  rw [List.reverse_cons, List.flatMap_append, hu, List.flatMap_singleton, ht]

/-- A block that changes all but its text. -/
theorem holds_replace {b b' : Block} (ht : b'.text = b.text) (h : R.Holds (b :: bs) u) : R.Holds (b' :: bs) u := by
  obtain ⟨hr, hu⟩ := h
  rw [List.forall_mem_cons] at hr
  refine ⟨List.forall_mem_cons.mpr ⟨ht ▸ hr.1, hr.2⟩, ?_⟩
  simpa [ht] using hu

/-- A text put at the end of the last block. -/
theorem holds_extend {b b' : Block} {t : Text} (ht : b'.text = b.text ++ t) (hr : R.Reads t)
    (h : R.Holds (b :: bs) u) : R.Holds (b' :: bs) (u ++ R.text t) := by
  obtain ⟨hall, hu⟩ := h
  rw [List.forall_mem_cons] at hall
  refine ⟨List.forall_mem_cons.mpr ⟨ht ▸ reads_append hall.1 hr, hall.2⟩, ?_⟩
  rw [← hu]
  simp [ht, text_append _ hall.1]

/-! ## One line -/

/-- The block of a line reads as the line. -/
theorem reads_block (l : Leaf) (isFirst inline : Bool) {line : Text} (h : R.Reads line) :
    R.Reads (l.block isFirst inline line).text ∧ R.text (l.block isFirst inline line).text = R.text line := by
  have he : (l.block isFirst inline line).text = (Block.of l.tag line l.givesStrong).text := rfl
  rw [he, Block.of]
  split
  · rename_i rest hr
    obtain ⟨hreads, htext⟩ := reads_unmarked (R := R) hr
    exact ⟨(reads_congr (Text.bare_trim rest)).mpr (hreads.mpr h), (text_congr (Text.bare_trim rest)).trans htext⟩
  · exact ⟨h, rfl⟩

/-- What is put between a text and an addition to it. -/
theorem add_text (b : Block) (t : Text) : ∃ joint rest, (b.add t).text = b.text ++ (joint ++ rest) ∧
    (joint = [] ∨ joint = [' '] ∨ joint = lineBreak ++ [' ']) ∧
    (rest = t ∨ Text.dropPrefix? lineBreak t = some rest) := by
  refine ⟨_, _, List.append_assoc _ _ _, ?_, ?_⟩
  · split
    · split
      · exact Or.inr (Or.inr rfl)
      · exact Or.inr (Or.inl rfl)
    · exact Or.inl rfl
  · cases h : Text.dropPrefix? lineBreak t with
    | none => exact Or.inl rfl
    | some rest => exact Or.inr rfl

theorem holds_add {b : Block} {t : Text} (ht : R.Reads t) (h : R.Holds (b :: bs) u) :
    R.Holds (b.add t :: bs) (u ++ R.text t) := by
  obtain ⟨joint, rest, he, hj, hrest⟩ := add_text b t
  have hbare : R.Reads rest ∧ R.text rest = R.text t := by
    rcases hrest with rfl | hrest
    · exact ⟨ht, rfl⟩
    · exact ⟨(reads_unmarked hrest).1.mpr ht, (reads_unmarked hrest).2⟩
  have hblank : bare (' ' :: rest) = bare rest := Text.bare_cons_of_space isSpace_blank rest
  have hjoint : R.Reads (joint ++ rest) ∧ R.text (joint ++ rest) = R.text t := by
    rcases hj with rfl | rfl | rfl
    · exact hbare
    · exact ⟨(reads_congr hblank).mpr hbare.1, (text_congr hblank).trans hbare.2⟩
    · rw [List.append_assoc]
      exact ⟨reads_mark.mpr ((reads_congr hblank).mpr hbare.1),
        (text_mark _).trans ((text_congr hblank).trans hbare.2)⟩
  rw [← hjoint.2]
  exact holds_extend he hjoint.1 h

/-- A line break at the end of the last block reads as nothing. -/
theorem holds_addBreak {b : Block} (h : R.Holds (b :: bs) u) : R.Holds ((b.add ['\n']).addBreak :: bs) u := by
  have hn : R.Reads ['\n'] ∧ R.text ['\n'] = [] := ⟨fits_nil, of_nil⟩
  have hm : R.Reads lineBreak ∧ R.text lineBreak = [] := ⟨R.fits_mark.mpr fits_nil, (R.of_mark []).trans of_nil⟩
  have h1 := holds_add hn.1 h
  have h2 : R.Holds ((b.add ['\n']).addBreak :: bs) (u ++ R.text ['\n'] ++ R.text lineBreak) :=
    holds_extend rfl hm.1 h1
  rwa [hn.2, hm.2, List.append_nil, List.append_nil] at h2

theorem text_promote (next b : Block) : (promote next b).text = b.text := by
  rw [promote]
  split <;> rfl

/-- One more line adds its reading. -/
theorem holds_place (before : Option Text) {b : Block} (hb : R.Reads b.text) (h : R.Holds bs u) :
    R.Holds (place before b bs) (u ++ R.text b.text) := by
  cases bs with
  | nil => exact holds_cons h hb rfl
  | cons last bs =>
    rw [place]
    split
    · exact holds_add hb h
    · split
      · exact holds_add hb (holds_addBreak h)
      · exact holds_cons (holds_replace (text_promote b last) h) hb rfl

theorem holds_closeLast (h : R.Holds bs u) : R.Holds (closeLast bs) u := by
  cases bs with
  | nil => exact h
  | cons b bs => exact holds_replace (b := b) rfl h

/-! ## Leaves and trees -/

/-- The lines of a leaf add their readings. -/
theorem holds_addLines (l : Leaf) (inline : Bool) : ∀ {lines : List Text} (before : Option Text) {bs : List Block}
    {u : Text}, (∀ line ∈ lines, R.Reads line) → R.Holds bs u →
    R.Holds (addLines l inline before bs lines) (u ++ lines.flatMap R.text)
  | [], _, _, _, _, h => by simpa [addLines] using h
  | line :: rest, before, bs, u, hl, h => by
    rw [List.forall_mem_cons] at hl
    rw [addLines, List.flatMap_cons, ← List.append_assoc]
    refine holds_addLines l inline (some line) hl.2 ?_
    split
    · rename_i he
      rw [List.isEmpty_iff.mp he, text, Text.bare_nil, of_nil, List.append_nil]
      split
      · exact holds_closeLast h
      · exact h
    · obtain ⟨hr, ht⟩ := reads_block l before.isNone inline hl.1
      rw [← ht]
      exact holds_place before hr h

theorem holds_addLeaf {l : Leaf} (hl : ∀ c ∈ l.text, R.plain c) (h : R.Holds bs u) :
    R.Holds (addLeaf bs l) (u ++ R.text l.text) := by
  rw [← flatMap_lines hl]
  exact holds_addLines l _ none (reads_lines hl) h

theorem holds_addLeaves : ∀ {ls : List Leaf} {bs : List Block} {u : Text}, (∀ l ∈ ls, ∀ c ∈ l.text, R.plain c) →
    R.Holds bs u → R.Holds (ls.foldl addLeaf bs) (u ++ ls.flatMap (R.text ·.text))
  | [], _, _, _, h => by simpa using h
  | l :: ls, _, _, hl, h => by
    rw [List.forall_mem_cons] at hl
    rw [List.foldl_cons, List.flatMap_cons, ← List.append_assoc]
    exact holds_addLeaves hl.2 (holds_addLeaf hl.1 h)

/-- A tree adds the readings of its leaves. -/
theorem holds_collect {xs : List Exclude} {blocks : List Block} {n : Node}
    (hl : ∀ l ∈ leavesIn xs (n.tag?.getD "") n.children, ∀ c ∈ l.text, R.plain c) (h : R.Holds blocks.reverse u) :
    R.Holds (collect xs blocks n).reverse
      (u ++ (leavesIn xs (n.tag?.getD "") n.children).flatMap (R.text ·.text)) := by
  rw [collect, List.reverse_reverse]
  exact holds_addLeaves hl h

/-! ## Letters -/

/-- The reading that keeps some characters, which are no white space and not in the mark. -/
def letters (keep : Char → Bool) (hm : lineBreak.any keep = false) : Reading where
  plain _ := True
  Fits _ := True
  of t := t.filter keep
  plain_newline := trivial
  fits_of_plain _ := trivial
  fits_append _ _ := trivial
  of_append _ _ := List.filter_append _ _
  fits_mark := Iff.rfl
  of_mark t := by
    rw [List.filter_append, List.filter_eq_nil_iff.mpr (List.any_eq_false.mp hm), List.nil_append]

end Reading

end Excerpt.Body
