import Excerpt.Proofs.Body.Cleanup

/-!
# The builder of blocks

The walk over trees holds its blocks with the last one first, so the block that further text goes to is the head. Here
the blocks stand in order, and the builder remembers that block by its place, as a `Builder`; beside each block stands
what it was when it came in. The remembered block is the last one (`Sound`), and so the builder collects the blocks of
the walk (`blocks_parse`).

All that a line of a leaf can do to a builder is in `Step`. What every step keeps, a run keeps (`Keeps.run`).
-/

namespace Excerpt.Body

/-- A block as it is now, and as it was when it came in. -/
structure Entry where
  arrived : Block
  block : Block

namespace Entry

/-- A block that comes in. -/
def fresh (b : Block) : Entry :=
  ⟨b, b⟩

/-- The entry with its block changed. -/
def change (f : Block → Block) (e : Entry) : Entry :=
  { e with block := f e.block }

@[simp] theorem block_fresh (b : Block) : (fresh b).block = b := rfl

@[simp] theorem block_change (f : Block → Block) (e : Entry) : (e.change f).block = f e.block := rfl

/-- A change touches the block as it is now, not as it came in. -/
@[simp] theorem arrived_change (f : Block → Block) (e : Entry) : (e.change f).arrived = e.arrived := rfl

end Entry

/-- The block closed against further text. -/
def Block.close (b : Block) : Block :=
  { b with display := .block }

/-- The block with a text behind a line break. -/
def Block.addBelow (b : Block) (t : Text) : Block :=
  (b.add ['\n']).addBreak.add t

/-- The block is one that a line of the leaf gives. -/
def Leaf.Gives (l : Leaf) (b : Block) : Prop :=
  ∃ line ∈ l.lines, ∃ isFirst inline, b = l.block isFirst inline line

/-- The lines of a leaf that is not inline stand apart. -/
theorem Leaf.isBlock_block (l : Leaf) (isFirst : Bool) (line : Text) : (l.block isFirst false line).isBlock = true := by
  simp [Leaf.block, Block.isBlock]

/-- The blocks in order, and the place of the one that is remembered, to which further text may be added. -/
structure Builder where
  entries : List Entry
  remembered : Option Nat

namespace Builder

/-! ## What the builder does -/

/-- A builder without blocks. -/
def empty : Builder :=
  ⟨[], none⟩

/-- The blocks as they are now. -/
def blocks (s : Builder) : List Block :=
  s.entries.map (·.block)

/-- The block that is remembered. -/
def previous? (s : Builder) : Option Block :=
  s.remembered.bind fun i => s.blocks[i]?

/-- The builder with the remembered block changed. -/
def change (f : Block → Block) (s : Builder) : Builder :=
  match s.remembered with
  | none => s
  | some i => { s with entries := s.entries.modify i (.change f) }

/-- The builder with one more block, which it remembers. -/
def push (b : Block) (s : Builder) : Builder :=
  ⟨s.entries ++ [.fresh b], some s.entries.length⟩

/-- Whether a text continues the remembered block: there are blocks, and that one does not stand alone. -/
def continues (s : Builder) : Bool :=
  !(s.entries.isEmpty || (s.previous?.map (·.display == .block)).getD false)

/-- The builder with the block of a line; `before` is the line in front of it, if any. -/
def place (before : Option Text) (b : Block) (s : Builder) : Builder :=
  match s.previous? with
  | none => s.push b
  | some _ =>
    if !b.isBlock then s.change (·.add b.text)
    else if joinsLast before b then s.change (·.addBelow b.text)
    else (s.change (promote b)).push b

/-- The builder with one more line of a leaf; an empty one at the end closes the remembered block. -/
def addLine (l : Leaf) (inline : Bool) (before : Option Text) (line : Text) (isLast : Bool) (s : Builder) : Builder :=
  if line.isEmpty then (if isLast then s.change Block.close else s)
  else s.place before (l.block before.isNone inline line)

/-- The builder with the lines of a leaf from some line on. -/
def addLines (l : Leaf) (inline : Bool) : Option Text → Builder → List Text → Builder
  | _, s, [] => s
  | before, s, line :: rest => addLines l inline (some line) (s.addLine l inline before line rest.isEmpty) rest

/-- The builder with one more leaf. -/
def addLeaf (s : Builder) (l : Leaf) : Builder :=
  addLines l s.continues none s l.lines

/-- The builder after a walk over the tree below a node. -/
def parse (s : Builder) (excludes : List Exclude) (n : Node) : Builder :=
  (leavesIn excludes (n.tag?.getD "") n.children).foldl addLeaf s

/-- The builder after walks over several trees, each with its excludes. -/
def run (calls : List (List Exclude × Node)) : Builder :=
  calls.foldl (fun s c => s.parse c.1 c.2) empty

/-! ## The remembered block is the last one -/

/-- The builder remembers the last block. -/
def Sound (s : Builder) : Prop :=
  ∀ i, s.remembered = some i ↔ i + 1 = s.entries.length

/-- The builder whose last block is that of an entry. -/
def ofLast (front : List Entry) (e : Entry) : Builder :=
  ⟨front ++ [e], some front.length⟩

/-- An empty builder remembers nothing. -/
theorem sound_empty : Sound empty := by
  intro i
  simp [empty]

theorem sound_ofLast (front : List Entry) (e : Entry) : Sound (ofLast front e) := by
  intro i
  simp only [ofLast, Option.some.injEq, List.length_append, List.length_singleton]
  omega

/-- A sound builder is empty or has a last block. -/
theorem Sound.cases {s : Builder} (h : s.Sound) : s = empty ∨ ∃ front e, s = ofLast front e := by
  obtain ⟨entries, remembered⟩ := s
  rcases List.eq_nil_or_concat entries with rfl | ⟨front, e, rfl⟩
  · left
    cases remembered with
    | none => rfl
    | some i => cases (h i).mp rfl
  · right
    refine ⟨front, e, ?_⟩
    have hlast := (h front.length).mpr (by simp)
    simp only at hlast
    rw [ofLast, hlast, List.concat_eq_append]

/-- A sound builder is told by its entries. -/
theorem Sound.eq_ofLast {s : Builder} {front : List Entry} {e : Entry} (h : s.Sound) (he : s.entries = front ++ [e]) :
    s = ofLast front e := by
  rcases h.cases with rfl | ⟨front', e', rfl⟩
  · simp [empty] at he
  · obtain ⟨rfl, hlast⟩ := List.append_inj' he rfl
    cases hlast
    rfl

section OfLast

variable (front : List Entry) (e : Entry)

@[simp] theorem entries_ofLast : (ofLast front e).entries = front ++ [e] := rfl

@[simp] theorem blocks_ofLast : (ofLast front e).blocks = front.map (·.block) ++ [e.block] :=
  List.map_append

@[simp] theorem previous?_ofLast : (ofLast front e).previous? = some e.block := by
  rw [previous?, blocks_ofLast]
  simp [ofLast]

/-- Changes go to the remembered block, which is the last one. -/
@[simp] theorem change_ofLast (f : Block → Block) : (ofLast front e).change f = ofLast front (e.change f) := by
  simp [change, ofLast, List.modify_eq_take_drop]

@[simp] theorem push_ofLast (b : Block) : (ofLast front e).push b = ofLast (front ++ [e]) (.fresh b) := rfl

/-- Where a block goes behind a last one: into it as inline text, into it behind a break, or behind it, which may make a
title of the last one. -/
theorem place_ofLast (before : Option Text) (b : Block) : (ofLast front e).place before b =
    if !b.isBlock then ofLast front (e.change (·.add b.text))
    else if joinsLast before b then ofLast front (e.change (·.addBelow b.text))
    else ofLast (front ++ [e.change (promote b)]) (.fresh b) := by
  rw [place, previous?_ofLast]
  simp only [change_ofLast, push_ofLast]

end OfLast

/-! ## The same blocks as the walk's -/

/-- The builder is sound and has the given blocks, of which the last one comes first. -/
structure Mirrors (s : Builder) (bs : List Block) : Prop where
  sound : s.Sound
  blocks : s.blocks = bs.reverse

namespace Mirrors

variable {s : Builder} {bs : List Block}

theorem empty : Mirrors .empty [] :=
  ⟨sound_empty, rfl⟩

/-- The last block of the builder is the head of the list. -/
theorem ofLast {front : List Entry} {e : Entry} {b : Block} (hb : e.block = b)
    (hfront : (front.map (·.block)).reverse = bs) : Mirrors (.ofLast front e) (b :: bs) :=
  ⟨sound_ofLast front e, by rw [blocks_ofLast, hb, ← hfront, List.reverse_cons, List.reverse_reverse]⟩

/-- A builder that mirrors blocks is empty, as they are, or has the first of them as its last one. -/
theorem cases (h : Mirrors s bs) : (s = .empty ∧ bs = []) ∨
    ∃ front e, s = .ofLast front e ∧ bs = e.block :: (front.map (·.block)).reverse := by
  rcases h.sound.cases with rfl | ⟨front, e, rfl⟩
  · exact .inl ⟨rfl, List.reverse_eq_nil_iff.mp h.blocks.symm⟩
  · refine .inr ⟨front, e, rfl, ?_⟩
    rw [← List.reverse_reverse bs, ← h.blocks, blocks_ofLast, List.reverse_append]
    rfl

/-- A block goes to the same place in both, as the last block settles it. -/
theorem place (h : Mirrors s bs) (before : Option Text) (b : Block) :
    Mirrors (s.place before b) (Body.place before b bs) := by
  rcases h.cases with ⟨rfl, rfl⟩ | ⟨front, e, rfl, rfl⟩
  · exact ofLast rfl rfl
  · rw [place_ofLast, Body.place]
    split
    · exact ofLast rfl rfl
    · split
      · exact ofLast rfl rfl
      · exact ofLast rfl (by simp)

/-- Closing the last block is closing the head. -/
theorem close (h : Mirrors s bs) : Mirrors (s.change Block.close) (closeLast bs) := by
  rcases h.cases with ⟨rfl, rfl⟩ | ⟨front, e, rfl, rfl⟩
  · exact empty
  · rw [change_ofLast]
    exact ofLast rfl rfl

/-- Whether the last block is open is seen alike. -/
theorem continues (h : Mirrors s bs) : s.continues = continuesLast bs := by
  rcases h.cases with ⟨rfl, rfl⟩ | ⟨front, e, rfl, rfl⟩
  · rfl
  · simp [Builder.continues, continuesLast, bne]

/-- The lines of a leaf follow one another, each told what the one in front was. -/
theorem addLines (l : Leaf) (inline : Bool) : ∀ {lines : List Text} (before : Option Text) {s : Builder}
    {bs : List Block}, Mirrors s bs →
    Mirrors (addLines l inline before s lines) (Body.addLines l inline before bs lines)
  | [], _, _, _, h => h
  | line :: rest, before, s, bs, h => by
    rw [Builder.addLines, Body.addLines]
    refine addLines l inline (some line) ?_
    rw [addLine]
    split
    · split
      · exact h.close
      · exact h
    · exact h.place before _

theorem addLeaf (h : Mirrors s bs) (l : Leaf) : Mirrors (s.addLeaf l) (Body.addLeaf bs l) := by
  rw [Builder.addLeaf, Body.addLeaf, h.continues]
  exact h.addLines l _ none

theorem addLeaves : ∀ {ls : List Leaf} {s : Builder} {bs : List Block}, Mirrors s bs →
    Mirrors (ls.foldl Builder.addLeaf s) (ls.foldl Body.addLeaf bs)
  | [], _, _, h => h
  | l :: _, _, _, h => by
    rw [List.foldl_cons, List.foldl_cons]
    exact addLeaves (h.addLeaf l)

end Mirrors

section Runs

variable {s : Builder}

/-- A walk begins with the blocks that the builder has. -/
theorem mirrors_parse (hs : s.Sound) (xs : List Exclude) (n : Node) :
    Mirrors (s.parse xs n) (collect xs s.blocks n).reverse := by
  rw [collect, List.reverse_reverse]
  exact Mirrors.addLeaves ⟨hs, (List.reverse_reverse _).symm⟩

/-- The builder collects the blocks that the walk collects. -/
theorem blocks_parse (hs : s.Sound) (xs : List Exclude) (n : Node) : (s.parse xs n).blocks = collect xs s.blocks n := by
  rw [(mirrors_parse hs xs n).blocks, List.reverse_reverse]

theorem sound_parse (hs : s.Sound) (xs : List Exclude) (n : Node) : (s.parse xs n).Sound :=
  (mirrors_parse hs xs n).sound

/-- Walk follows walk; what a walk leaves is where the next one begins. -/
theorem mirrors_calls : ∀ {calls : List (List Exclude × Node)} {s : Builder}, s.Sound →
    Mirrors (calls.foldl (fun s c => s.parse c.1 c.2) s)
      (calls.foldl (fun bs c => collect c.1 bs c.2) s.blocks).reverse
  | [], _, hs => ⟨hs, (List.reverse_reverse _).symm⟩
  | c :: _, s, hs => by
    rw [List.foldl_cons, List.foldl_cons, ← blocks_parse hs]
    exact mirrors_calls (sound_parse hs c.1 c.2)

/-- The remembered block is the last one after any run. -/
theorem sound_run (calls : List (List Exclude × Node)) : (run calls).Sound :=
  (mirrors_calls sound_empty).sound

/-- A builder has the blocks that the walks collect. -/
theorem blocks_run (calls : List (List Exclude × Node)) :
    (run calls).blocks = calls.foldl (fun bs c => collect c.1 bs c.2) [] := by
  rw [run, (mirrors_calls sound_empty).blocks, List.reverse_reverse]
  rfl

end Runs

/-! ## What a line does -/

/-- What a line of a leaf can do to a builder, `new` being the blocks that it can give. -/
inductive Step (new : Block → Prop) : Builder → Builder → Prop
  | same (s : Builder) : Step new s s
  | close (front : List Entry) (e : Entry) : Step new (ofLast front e) (ofLast front (e.change Block.close))
  | add (front : List Entry) (e : Entry) {b : Block} (hb : new b) :
    Step new (ofLast front e) (ofLast front (e.change (·.add b.text)))
  | addBelow (front : List Entry) (e : Entry) {b : Block} (hb : new b) :
    Step new (ofLast front e) (ofLast front (e.change (·.addBelow b.text)))
  | first {b : Block} (hb : new b) (hblock : b.isBlock = true) : Step new empty (ofLast [] (.fresh b))
  | next (front : List Entry) (e : Entry) {b : Block} (hb : new b) (hblock : b.isBlock = true) :
    Step new (ofLast front e) (ofLast (front ++ [e.change (promote b)]) (.fresh b))

section Steps

variable {new : Block → Prop} {s s' : Builder}

/-- Whatever a step does, the last block is the remembered one after it. -/
theorem Step.sound (h : Step new s s') (hs : s.Sound) : s'.Sound := by
  cases h with
  | same => exact hs
  | _ => exact sound_ofLast _ _

theorem ofLast_ne_empty (front : List Entry) (e : Entry) : ofLast front e ≠ empty := fun h => by
  simpa [empty] using congrArg entries h

/-- Blocks do not go away. -/
theorem Step.eq_empty (h : Step new s s') (he : s' = empty) : s = empty := by
  cases h with
  | same => exact he
  | _ => exact (ofLast_ne_empty _ _ he).elim

/-- A line of a leaf is a step, be it placed, passed over or closing the last block. -/
theorem step_addLine {l : Leaf} {inline : Bool} {line : Text} (hs : s.Sound) (hin : s = empty → inline = false)
    (hline : line ∈ l.lines) (before : Option Text) (isLast : Bool) :
    Step l.Gives s (s.addLine l inline before line isLast) := by
  have hb : l.Gives (l.block before.isNone inline line) := ⟨line, hline, _, _, rfl⟩
  rw [addLine]
  split
  · split
    · rcases hs.cases with rfl | ⟨front, e, rfl⟩
      · exact .same _
      · rw [change_ofLast]
        exact .close front e
    · exact .same s
  · rcases hs.cases with rfl | ⟨front, e, rfl⟩
    · -- In front of the first block nothing is continued, so it stands apart.
      rw [hin rfl] at hb ⊢
      exact .first hb (l.isBlock_block _ _)
    · rw [place_ofLast]
      split
      · exact .add front e hb
      · rename_i hblock
        split
        · exact .addBelow front e hb
        · exact .next front e hb (by simpa using hblock)

end Steps

/-! ## What a run keeps -/

/-- What a line can do keeps a property of builders. -/
def Keeps (P : Builder → Prop) (new : Block → Prop) : Prop :=
  ∀ s s', Step new s s' → P s → P s'

namespace Keeps

variable {P : Builder → Prop} {s : Builder}

theorem addLines {l : Leaf} (h : Keeps P l.Gives) {inline : Bool} : ∀ {lines : List Text} {before : Option Text}
    {s : Builder}, (∀ line ∈ lines, line ∈ l.lines) → s.Sound → (s = empty → inline = false) → P s →
    P (addLines l inline before s lines)
  | [], _, _, _, _, _, hp => hp
  | line :: rest, before, s, hl, hs, hin, hp => by
    rw [List.forall_mem_cons] at hl
    have hstep := step_addLine hs hin hl.1 before rest.isEmpty
    rw [Builder.addLines]
    exact addLines h hl.2 (hstep.sound hs) (fun he => hin (hstep.eq_empty he)) (h _ _ hstep hp)

theorem addLeaf {l : Leaf} (h : Keeps P l.Gives) (hs : s.Sound) (hp : P s) : P (s.addLeaf l) := by
  refine h.addLines (fun _ hline => hline) hs ?_ hp
  rintro rfl
  rfl

theorem addLeaves : ∀ {ls : List Leaf} {s : Builder}, (∀ l ∈ ls, Keeps P l.Gives) → s.Sound → P s →
    P (ls.foldl Builder.addLeaf s)
  | [], _, _, _, hp => hp
  | l :: ls, s, h, hs, hp => by
    rw [List.forall_mem_cons] at h
    have hsound : (s.addLeaf l).Sound := (Mirrors.addLeaf ⟨hs, (List.reverse_reverse _).symm⟩ l).sound
    rw [List.foldl_cons]
    exact addLeaves h.2 hsound (h.1.addLeaf hs hp)

/-- What every leaf of a tree keeps, a walk over the tree keeps. -/
theorem parse {xs : List Exclude} {n : Node} (h : ∀ l ∈ leavesIn xs (n.tag?.getD "") n.children, Keeps P l.Gives)
    (hs : s.Sound) (hp : P s) : P (s.parse xs n) :=
  addLeaves h hs hp

theorem calls : ∀ {calls : List (List Exclude × Node)} {s : Builder},
    (∀ c ∈ calls, ∀ l ∈ leavesIn c.1 (c.2.tag?.getD "") c.2.children, Keeps P l.Gives) → s.Sound → P s →
    P (calls.foldl (fun s c => s.parse c.1 c.2) s)
  | [], _, _, _, hp => hp
  | c :: _, s, h, hs, hp => by
    rw [List.forall_mem_cons] at h
    rw [List.foldl_cons]
    exact Keeps.calls h.2 (sound_parse hs c.1 c.2) (parse h.1 hs hp)

/-- **What every leaf of all trees keeps, holds after a run.** -/
theorem run {calls : List (List Exclude × Node)}
    (h : ∀ c ∈ calls, ∀ l ∈ leavesIn c.1 (c.2.tag?.getD "") c.2.children, Keeps P l.Gives) (hp : P empty) :
    P (run calls) :=
  Keeps.calls h sound_empty hp

end Keeps

end Builder

end Excerpt.Body
