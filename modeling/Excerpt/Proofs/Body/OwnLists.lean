import Mathlib.Data.List.Chain
import Excerpt.Proofs.Body.Wrapped

/-!
# Items in their own lists

A list is named after its first item, and later items go into it whatever element they are from. So all items stand in a
list of their own tag (`OwnLists`), and all lists are `ul` or `ol` (`KnownLists`), just if the blocks that are written
are `Uniform`: items are from such lists, and items that follow one another are from elements of one name
(`ownLists_iff`).
-/

namespace Excerpt.Body

open Builder (run)

/-- The tags of lists. -/
def listTags : List String :=
  ["ul", "ol"]

/-- Whether all items among the lines stand in a list of their own tag. -/
def OwnLists (ls : List Line) : Prop :=
  ∀ pre b post, ls = pre ++ .block b :: post → b.kind = .list → ∃ tag, b.listTag = some tag ∧ Inside tag pre post

/-- Whether all lists that the lines open have the tag of a list. -/
def KnownLists (ls : List Line) : Prop :=
  ∀ tag, .opening tag ∈ ls → tag ∈ listTags

/-- Whether two blocks, if both are items, are from elements of one name. -/
def Alike (b b' : Block) : Prop :=
  b.kind = .list → b'.kind = .list → b.listTag = b'.listTag

instance (b b' : Block) : Decidable (Alike b b') :=
  inferInstanceAs (Decidable (b.kind = .list → b'.kind = .list → b.listTag = b'.listTag))

/-- Blocks whose items are from lists, those that follow one another from elements of one name. -/
structure Uniform (bs : List Block) : Prop where
  known : ∀ b ∈ bs, b.kind = .list → ∃ tag ∈ listTags, b.listTag = some tag
  alike : bs.IsChain Alike

theorem uniform_nil : Uniform [] :=
  ⟨by simp, .nil⟩

theorem uniform_cons {b : Block} {bs : List Block} : Uniform (b :: bs) ↔
    (b.kind = .list → ∃ tag ∈ listTags, b.listTag = some tag) ∧ (∀ b' ∈ bs.head?, Alike b b') ∧ Uniform bs := by
  constructor
  · rintro ⟨hknown, halike⟩
    rw [List.forall_mem_cons] at hknown
    rw [List.isChain_cons] at halike
    exact ⟨hknown.1, halike.1, hknown.2, halike.2⟩
  · rintro ⟨hb, hhead, hknown, halike⟩
    exact ⟨List.forall_mem_cons.mpr ⟨hb, hknown⟩, List.isChain_cons.mpr ⟨hhead, halike⟩⟩

/-- A block that is no item says nothing about the others. -/
theorem uniform_cons_of_ne {b : Block} {bs : List Block} (hb : b.kind ≠ .list) : Uniform (b :: bs) ↔ Uniform bs := by
  rw [uniform_cons]
  exact ⟨fun h => h.2.2, fun h => ⟨fun hk => absurd hk hb, fun _ _ hk => absurd hk hb, h⟩⟩

/-! ## The open list -/

/-- Whether for each item among the lines a list of its tag is open, `current` being the tag of the list that is open in
front of the lines. -/
def Tracks (current : Option String) (ls : List Line) : Prop :=
  ∀ pre b post, ls = pre ++ .block b :: post → b.kind = .list →
    ∃ tag, b.listTag = some tag ∧ openAfter current pre = some tag

theorem Wrapped.ownLists_iff {ls : List Line} (h : Wrapped none ls) : OwnLists ls ↔ Tracks none ls := by
  refine forall₃_congr fun pre b post => forall_congr' fun hls => forall_congr' fun _ => exists_congr fun tag => ?_
  rw [(hls ▸ h : Wrapped none (pre ++ .block b :: post)).inside_iff]

section Lines

variable {current : Option String} {tag : String} {b : Block} {ls : List Line}

theorem tracks_cons {l : Line} : Tracks current (l :: ls) ↔
    (∀ b, l = .block b → b.kind = .list → ∃ tag, b.listTag = some tag ∧ current = some tag) ∧
    Tracks (l.after current) ls := by
  constructor
  · intro h
    refine ⟨?_, fun pre b post hls => h (l :: pre) b post (congrArg (l :: ·) hls)⟩
    rintro b rfl
    exact h [] b ls rfl
  · rintro ⟨hhead, hrest⟩ pre b post hls
    cases pre with
    | nil =>
      obtain ⟨rfl, rfl⟩ := List.cons.inj hls
      exact hhead b rfl
    | cons l' pre =>
      obtain ⟨rfl, htail⟩ := List.cons.inj hls
      exact hrest pre b post htail

@[simp] theorem tracks_nil : Tracks current [] := by
  simp [Tracks]

@[simp] theorem tracks_opening : Tracks current (.opening tag :: ls) ↔ Tracks (some tag) ls := by
  simp [tracks_cons, Line.after]

@[simp] theorem tracks_closing : Tracks current (.closing tag :: ls) ↔ Tracks none ls := by
  simp [tracks_cons, Line.after]

@[simp] theorem tracks_block : Tracks current (.block b :: ls) ↔
    (b.kind = .list → ∃ tag, b.listTag = some tag ∧ current = some tag) ∧ Tracks current ls := by
  simp [tracks_cons, Line.after]

@[simp] theorem knownLists_nil : KnownLists [] := by
  simp [KnownLists]

@[simp] theorem knownLists_opening : KnownLists (.opening tag :: ls) ↔ tag ∈ listTags ∧ KnownLists ls := by
  simp [KnownLists]

@[simp] theorem knownLists_closing : KnownLists (.closing tag :: ls) ↔ KnownLists ls := by
  simp [KnownLists]

@[simp] theorem knownLists_block : KnownLists (.block b :: ls) ↔ KnownLists ls := by
  simp [KnownLists]

end Lines

/-! ## What the lines of blocks track -/

/-- Whether the list that is open can be that of the first block. -/
def Continues (current : Option String) (bs : List Block) : Prop :=
  ∀ tag ∈ current, ∀ b ∈ bs.head?, b.kind = .list → b.listTag = some tag

section Blocks

variable {current : Option String} {tag : String} {b : Block} {bs : List Block}

theorem continues_none : Continues none bs := by
  simp [Continues]

theorem continues_some_cons : Continues (some tag) (b :: bs) ↔ (b.kind = .list → b.listTag = some tag) := by
  simp [Continues]

/-- The next block is like an item if the item's list can be that of the next block. -/
theorem forall_alike_iff (hk : b.kind = .list) (htag : b.listTag = some tag) :
    (∀ b' ∈ bs.head?, Alike b b') ↔ Continues (some tag) bs := by
  simp [Alike, Continues, hk, htag, eq_comm]

theorem opens?_of_mem (h : tag ∈ listTags) (htag : b.listTag = some tag) : opens? none b = some tag := by
  have hne : tag ≠ "" := fun he => absurd (he ▸ h) (by decide)
  simp [opens?, htag, hne]

theorem listTag_of_opens? (h : opens? none b = some tag) : b.listTag = some tag := by
  simp only [opens?, Option.isSome_none, Bool.false_eq_true, if_false, Option.bind_eq_some_iff] at h
  obtain ⟨tag', htag, h⟩ := h
  split at h
  · cases h
  · exact htag.trans h

theorem emitFrom_item (hk : b.kind = .list) (current : Option String) (bs : List Block) :
    emitFrom [] current (b :: bs) =
      (opens? current b).toList.map .opening ++ .block b :: emitFrom [] ((opens? current b).or current) bs :=
  if_pos (beq_iff_eq.mpr hk)

theorem emitFrom_other (hk : b.kind ≠ .list) (current : Option String) (bs : List Block) :
    emitFrom [] current (b :: bs) = closings current ++ .block b :: emitFrom [] none bs :=
  if_neg (mt beq_iff_eq.mp hk)

end Blocks

/-- The lines for blocks are in lists of their own, all of them `ul` or `ol`, if the blocks are uniform and go on with
the list that is open. -/
theorem tracks_emitFrom_iff (current : Option String) (hcurrent : ∀ tag ∈ current, tag ∈ listTags) (bs : List Block) :
    Tracks current (emitFrom [] current bs) ∧ KnownLists (emitFrom [] current bs) ↔
    Continues current bs ∧ Uniform bs := by
  induction bs generalizing current with
  | nil =>
    refine iff_of_true ?_ ⟨by simp [Continues], uniform_nil⟩
    cases current <;> simp [emitFrom, closings]
  | cons b bs ih =>
    by_cases hk : b.kind = .list
    · rw [emitFrom_item hk, uniform_cons]
      cases current with
      | some tag =>
        have hknown : tag ∈ listTags := hcurrent tag rfl
        have hrest := ih (some tag) hcurrent
        simp only [opens?, Option.isSome_some, if_true, Option.toList_none, List.map_nil, List.nil_append,
          Option.none_or, tracks_block, knownLists_block, continues_some_cons, hk, forall_const, Option.some.injEq]
        constructor
        · rintro ⟨⟨⟨_, htag, rfl⟩, htracks⟩, hlists⟩
          obtain ⟨hcont, huniform⟩ := hrest.mp ⟨htracks, hlists⟩
          exact ⟨htag, ⟨tag, hknown, htag⟩, (forall_alike_iff hk htag).mpr hcont, huniform⟩
        · rintro ⟨htag, -, halike, huniform⟩
          obtain ⟨htracks, hlists⟩ := hrest.mpr ⟨(forall_alike_iff hk htag).mp halike, huniform⟩
          exact ⟨⟨⟨tag, htag, rfl⟩, htracks⟩, hlists⟩
      | none =>
        cases hopen : opens? none b with
        | none =>
          -- The item opens no list, so it stands in none, and is from none that is known.
          refine iff_of_false ?_ ?_
          · simp [hk]
          · rintro ⟨-, hb, -⟩
            obtain ⟨tag, hknown, htag⟩ := hb hk
            rw [opens?_of_mem hknown htag] at hopen
            cases hopen
        | some tag =>
          have htag : b.listTag = some tag := listTag_of_opens? hopen
          simp only [Option.toList_some, List.map_cons, List.map_nil, List.cons_append, List.nil_append, Option.some_or,
            tracks_opening, knownLists_opening, tracks_block, knownLists_block, hk, forall_const, htag,
            Option.some.injEq, continues_none, true_and, forall_alike_iff hk htag]
          constructor
          · rintro ⟨⟨-, htracks⟩, hknown, hlists⟩
            obtain ⟨hcont, huniform⟩ := (ih (some tag) (by simpa using hknown)).mp ⟨htracks, hlists⟩
            exact ⟨⟨tag, hknown, rfl⟩, hcont, huniform⟩
          · rintro ⟨⟨_, hknown, rfl⟩, hcont, huniform⟩
            obtain ⟨htracks, hlists⟩ := (ih (some tag) (by simpa using hknown)).mpr ⟨hcont, huniform⟩
            exact ⟨⟨⟨tag, rfl, rfl⟩, htracks⟩, hknown, hlists⟩
    · rw [emitFrom_other hk, uniform_cons_of_ne hk]
      have hrest := ih none (by simp)
      cases current with
      | none => simpa [closings, hk, continues_none] using hrest
      | some tag => simpa [closings, hk, continues_none, continues_some_cons] using hrest

/-! ## Pages with lists -/

/-- **When items stand in their own lists.** In the lines of a body, every item stands in a list that has the tag of the
element around the item, and all lists are `ul` or `ol`, if and only if the blocks that the filters let through are
uniform: the items are from `ul` and `ol` elements, and items that follow one another are from elements of one name. -/
theorem ownLists_emitFrom_iff (calls : List (List Exclude × Node)) (filters : List Filter) :
    let bs := calls.foldl (fun bs c => collect c.1 bs c.2) []
    let ls := emitFrom filters none bs
    ls.map Line.text = linesFrom filters none bs ∧
      (∀ b ∈ bs, (b.listTag.isSome = true ↔ b.kind = .list) ∧
        ∀ tag, b.listTag = some tag → ∃ c ∈ calls, ∃ e ∈ c.2.elements, Holds e tag b.tag) ∧
      (OwnLists ls ∧ KnownLists ls ↔ Uniform (letThrough filters bs)) := by
  intro bs ls
  refine ⟨map_text_emitFrom filters none bs, fun b hb => ?_, ?_⟩
  · have hb : b ∈ (run calls).blocks := Builder.blocks_run calls ▸ hb
    exact ⟨(wellPlaced_run b hb).listTag, housed_run b hb⟩
  · have htracks := tracks_emitFrom_iff none (by simp) (letThrough filters bs)
    rw [← emitFrom_letThrough] at htracks
    rw [(wrapped_emitFrom filters none bs).ownLists_iff, htracks]
    exact and_iff_right continues_none

/-- Two lists with a paragraph between them; an item of the second one is skipped. -/
theorem ownLists_emitFrom_iff_apart :
    let item (t : String) : Node := .element "li" [] [.text .plain t.toList]
    let calls : List (List Exclude × Node) :=
      [([], .element "div" [] [.element "ul" [] [item "a", item "b"], .element "p" [] [.text .plain "c".toList],
        .element "ol" [] [item "Ads", item "d"]])]
    let filters : List Filter := [⟨"Ad.*", .body, false⟩]
    let bs := calls.foldl (fun bs c => collect c.1 bs c.2) []
    let ls := emitFrom filters none bs
    Uniform (letThrough filters bs) ∧ (OwnLists ls ∧ KnownLists ls) ∧
      Text.join ['\n'] (ls.map Line.text) =
        "<p><ul>\n<li>a\n<li>b\n</ul></p>\n<p>c</p>\n<p><ol>\n<li>d\n</ol></p>".toList := by
  intro item calls filters bs ls
  have huniform : Uniform (letThrough filters bs) := ⟨by decide, by decide⟩
  exact ⟨huniform, (ownLists_emitFrom_iff calls filters).2.2.mpr huniform, by decide⟩

/-- The item of an `ol` right behind a `ul` is written in the `ul`; an item by itself opens a list that has the name of
the element around it. -/
theorem not_ownLists_behind_ul :
    let item (t : String) : Node := .element "li" [] [.text .plain t.toList]
    let lines (n : Node) := emitFrom [] none (collect [] [] n)
    ¬ OwnLists (lines (.document [.element "ul" [] [item "a"], .element "ol" [] [item "b"]])) ∧
      ¬ KnownLists (lines (.element "div" [] [item "a"])) := by
  intro item lines
  constructor
  · intro h
    -- The lines open `ul`, and the second item is from `ol`.
    obtain ⟨tag, htag, hinside⟩ := h
      [.opening "ul", .block ⟨"li", .list, false, "a".toList, some "ul", .inlineBlock, false⟩]
      ⟨"li", .list, false, "b".toList, some "ol", .block, false⟩ [.closing "ul"] (by decide) rfl
    cases htag
    exact absurd (hinside.openAfter none) (by decide)
  · exact fun h => absurd (h "div" (by decide)) (by decide)

end Excerpt.Body
