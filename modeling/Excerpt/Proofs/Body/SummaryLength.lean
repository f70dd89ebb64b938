import Excerpt.Body.Summary
import Excerpt.Proofs.Text.Lines

/-!
# The length of a summary

A summary is made up of the texts of some blocks, with a blank between them. `usedFrom` says which blocks these are, and
`Filled` how a summary comes from them: a text is added to an earlier part only if the two have room, and then the blank
comes on top. So a summary of two texts or more is longer than it may be just if it has no room left before the last
blank, and then by one character (`length_summarize_le_iff`).
-/

namespace Excerpt.Body

/-! ## The blocks of a summary -/

/-- The text that a block adds to a summary. -/
def ownText (filters : List Filter) (b : Block) : Text :=
  match contribution filters b with
  | .text t => t
  | .pass | .finish => []

theorem ownText_eq {filters : List Filter} {b : Block} {t : Text} (h : contribution filters b = .text t) :
    ownText filters b = t := by
  rw [ownText, h]

/-- The blocks that add text to a summary after an earlier part of it. -/
def usedFrom (filters : List Filter) (least greatest : Int) (p : Progress) (summary : Text) : List Block → List Block
  | [] => []
  | b :: bs =>
    let p := p.after b.kind
    if p.admits b.kind then
      match contribution filters b with
      | .pass => usedFrom filters least greatest p summary bs
      | .finish => []
      | .text t =>
        if !summary.isEmpty && greatest < summary.length + t.length then []
        else
          let joined := joinSummary summary t
          let rest := if least < joined.length then [] else usedFrom filters least greatest p joined bs
          if t.isEmpty then rest else b :: rest
    else usedFrom filters least greatest p summary bs

/-- The blocks that a summary is made of. -/
def used (filters : List Filter) (least greatest : Int) (bs : List Block) : List Block :=
  usedFrom filters least greatest .start [] bs

/-- How an earlier part of a summary becomes the whole by the texts of blocks: blocks may be passed over, and one is
added only if it has text and there is room for it. -/
inductive Filled (filters : List Filter) (greatest : Int) : Text → List Block → List Block → Text → Prop
  | stop (summary : Text) (bs : List Block) : Filled filters greatest summary bs [] summary
  | pass (b : Block) {summary whole : Text} {bs us : List Block} :
    Filled filters greatest summary bs us whole → Filled filters greatest summary (b :: bs) us whole
  | add {b : Block} {summary whole t : Text} {bs us : List Block} : contribution filters b = .text t → t ≠ [] →
    (summary ≠ [] → (summary.length + t.length : Int) ≤ greatest) →
      Filled filters greatest (joinSummary summary t) bs us whole →
    Filled filters greatest summary (b :: bs) (b :: us) whole

theorem joinSummary_nil (summary : Text) : joinSummary summary [] = summary := by
  simp [joinSummary]

/-- A summary is filled with its blocks. -/
theorem filled_usedFrom (filters : List Filter) (least greatest : Int) (p : Progress) (summary : Text)
    (bs : List Block) :
    Filled filters greatest summary bs (usedFrom filters least greatest p summary bs)
      (summaryFrom filters least greatest p summary bs) := by
  induction bs generalizing p summary with
  | nil => exact .stop summary []
  | cons b bs ih =>
    rw [usedFrom, summaryFrom]
    dsimp only
    split
    · cases hc : contribution filters b with
      | pass => exact .pass b (ih _ _)
      | finish => exact .stop summary _
      | text t =>
        dsimp only
        split
        · exact .stop summary _
        · rename_i hroom
          have hroom : summary ≠ [] → (summary.length + t.length : Int) ≤ greatest := by simpa using hroom
          -- The texts end here or go on; both ways the block has been added, if it has text.
          have hrest : Filled filters greatest (joinSummary summary t) bs
              (if least < (joinSummary summary t).length then [] else
                usedFrom filters least greatest (p.after b.kind) (joinSummary summary t) bs)
              (if least < (joinSummary summary t).length then joinSummary summary t else
                summaryFrom filters least greatest (p.after b.kind) (joinSummary summary t) bs) := by
            split
            · exact .stop _ bs
            · exact ih _ _
          split
          · rename_i ht
            rw [List.isEmpty_iff.mp ht, joinSummary_nil] at hrest ⊢
            exact .pass b hrest
          · rename_i ht
            exact .add hc (mt List.isEmpty_iff.mpr ht) hroom hrest
    · exact .pass b (ih _ _)

namespace Filled

variable {filters : List Filter} {greatest : Int} {summary whole : Text} {bs us : List Block} {ts : List Text}

theorem sublist (h : Filled filters greatest summary bs us whole) : us.Sublist bs := by
  induction h with
  | stop => exact List.nil_sublist _
  | pass _ _ ih => exact ih.cons _
  | add _ _ _ _ ih => exact ih.cons_cons _

theorem contribution_eq (h : Filled filters greatest summary bs us whole) :
    ∀ b ∈ us, contribution filters b = .text (ownText filters b) ∧ ownText filters b ≠ [] := by
  induction h with
  | stop => simp
  | pass _ _ ih => exact ih
  | add hc ht _ _ ih =>
    have hown := ownText_eq hc
    exact List.forall_mem_cons.mpr ⟨⟨hown ▸ hc, hown ▸ ht⟩, ih⟩

theorem join_ne_nil (hts : ∀ t ∈ ts, t ≠ []) (hne : ts ≠ []) : Text.join [' '] ts ≠ [] := by
  obtain ⟨t, ts, rfl⟩ := List.exists_cons_of_ne_nil hne
  cases ts with
  | nil => exact hts t List.mem_cons_self
  | cons u ts =>
    rw [Text.join_cons_cons]
    simp

/-- Texts are joined with a blank between them. -/
theorem joinSummary_join (hts : ∀ t ∈ ts, t ≠ []) {t : Text} (ht : t ≠ []) :
    joinSummary (Text.join [' '] ts) t = Text.join [' '] (ts ++ [t]) := by
  by_cases hne : ts = []
  · subst hne
    rfl
  · rw [Text.join_append [' '] (List.cons_ne_nil t []) hne, joinSummary, if_neg (by simp [join_ne_nil hts hne, ht])]
    simp [Text.join]

theorem whole_eq (h : Filled filters greatest summary bs us whole) (hts : ∀ t ∈ ts, t ≠ [])
    (hsummary : summary = Text.join [' '] ts) : whole = Text.join [' '] (ts ++ us.map (ownText filters)) := by
  induction h generalizing ts with
  | stop => simpa using hsummary
  | pass _ _ ih => exact ih hts hsummary
  | @add b _ _ t _ us hc ht _ _ ih =>
    have hmore : ∀ u ∈ ts ++ [t], u ≠ [] := List.forall_mem_append.mpr ⟨hts, by simpa using ht⟩
    have hjoined := ih hmore (by rw [hsummary, joinSummary_join hts ht])
    rw [hjoined, List.map_cons, ownText_eq hc, List.append_assoc, List.singleton_append]

/-- Each text but the first has had room behind those in front of it, the blank not counted. -/
theorem room (h : Filled filters greatest summary bs us whole) (hts : ∀ t ∈ ts, t ≠ [])
    (hsummary : summary = Text.join [' '] ts) {front after : List Block} {b : Block} (hus : us = front ++ b :: after)
    (hne : ts ++ front.map (ownText filters) ≠ []) :
    ((Text.join [' '] (ts ++ front.map (ownText filters))).length + (ownText filters b).length : Int) ≤ greatest := by
  induction h generalizing ts front with
  | stop => simp at hus
  | pass _ _ ih => exact ih hts hsummary hus hne
  | @add c _ _ t _ us hc ht hroom _ ih =>
    cases front with
    | nil =>
      obtain ⟨rfl, -⟩ := List.cons.inj hus
      rw [List.map_nil, List.append_nil] at hne ⊢
      rw [ownText_eq hc, ← hsummary]
      exact hroom (hsummary ▸ join_ne_nil hts hne)
    | cons d front =>
      obtain ⟨rfl, hrest⟩ := List.cons.inj hus
      have hmore : ∀ u ∈ ts ++ [t], u ≠ [] := List.forall_mem_append.mpr ⟨hts, by simpa using ht⟩
      have hsofar : ts ++ (c :: front).map (ownText filters) = (ts ++ [t]) ++ front.map (ownText filters) := by
        rw [List.map_cons, ownText_eq hc, List.append_assoc, List.singleton_append]
      rw [hsofar] at hne ⊢
      exact ih hmore (by rw [hsummary, joinSummary_join hts ht]) hrest hne

end Filled

/-! ## The length -/

theorem length_endSentence (t : Text) : (endSentence t).length = t.length := by
  rw [endSentence]
  split
  · rename_i h
    have hne : t ≠ [] := by
      rintro rfl
      cases h
    have hpos : 0 < t.length := List.length_pos_of_ne_nil hne
    rw [List.length_append, List.length_dropLast, List.length_singleton]
    omega
  · rfl

section Summaries

variable (filters : List Filter) (least greatest : Int) (bs : List Block)

theorem filled_used : Filled filters greatest [] bs (used filters least greatest bs)
    (summaryFrom filters least greatest .start [] bs) :=
  filled_usedFrom filters least greatest .start [] bs

theorem summarize_eq : summarize filters least greatest bs =
    endSentence (Text.join [' '] ((used filters least greatest bs).map (ownText filters))) := by
  rw [summarize, (filled_used filters least greatest bs).whole_eq (List.forall_mem_nil _) rfl, List.nil_append]

/-- The length of a summary of several texts: they are behind one another, each but the first with a blank in front. -/
theorem length_summarize {front : List Block} {last : Block} (hused : used filters least greatest bs = front ++ [last])
    (hne : front ≠ []) : (summarize filters least greatest bs).length =
      (Text.join [' '] (front.map (ownText filters))).length + 1 + (ownText filters last).length := by
  have hmap : front.map (ownText filters) ≠ [] := mt List.map_eq_nil_iff.mp hne
  rw [summarize_eq, length_endSentence, hused, List.map_append, List.map_singleton,
    Text.join_append [' '] (List.cons_ne_nil _ []) hmap, List.length_append, List.length_append]
  rfl

/-- **How long a summary is.** It is made up of the texts of some blocks, in their order, with blanks between them, less
that a colon at its end becomes a full stop. If there are two texts or more, the last one has had room behind the
others, the blank between them not counted: so the summary is longer than it may be if and only if these fill all of the
room, and then by one. -/
theorem length_summarize_le_iff :
    (used filters least greatest bs).Sublist bs ∧
      (∀ b ∈ used filters least greatest bs,
        contribution filters b = .text (ownText filters b) ∧ ownText filters b ≠ []) ∧
      summarize filters least greatest bs =
        endSentence (Text.join [' '] ((used filters least greatest bs).map (ownText filters))) ∧
      ∀ front last, used filters least greatest bs = front ++ [last] → front ≠ [] →
        let filled : Int := (Text.join [' '] (front.map (ownText filters))).length + (ownText filters last).length
        filled ≤ greatest ∧ (summarize filters least greatest bs).length = filled + 1 ∧
          ((summarize filters least greatest bs).length ≤ greatest ↔ filled ≠ greatest) := by
  have hfilled := filled_used filters least greatest bs
  refine ⟨hfilled.sublist, hfilled.contribution_eq, summarize_eq filters least greatest bs, ?_⟩
  intro front last hused hne filled
  have hroom : filled ≤ greatest := by
    have hmap : [] ++ front.map (ownText filters) ≠ [] := mt List.map_eq_nil_iff.mp hne
    exact hfilled.room (by simp) rfl hused hmap
  have hlength : ((summarize filters least greatest bs).length : Int) = filled + 1 := by
    rw [length_summarize filters least greatest bs hused hne]
    push_cast
    omega
  exact ⟨hroom, hlength, by omega⟩

end Summaries

/-- Two paragraphs with room for a third character between them. -/
theorem length_summarize_le_iff_room :
    let paragraph (t : String) : Block := ⟨"p", .text, false, t.toList, none, .block, false⟩
    let a := paragraph "One:"
    let b := paragraph "two:"
    used [] 100 9 [a, b] = [a] ++ [b] ∧ [a] ≠ [] ∧ ((summarize [] 100 9 [a, b]).length : Int) ≤ 9 ∧
      summarize [] 100 9 [a, b] = "One: two.".toList := by
  intro paragraph a b
  have hused : used [] 100 9 [a, b] = [a] ++ [b] := by decide
  obtain ⟨-, -, -, hlength⟩ := length_summarize_le_iff [] 100 9 [a, b]
  obtain ⟨-, -, hle⟩ := hlength [a] b hused (by decide)
  exact ⟨hused, by decide, hle.mpr (by decide), by decide⟩

/-- Nine characters of text in a summary of nine leave no room for the blank. -/
theorem length_summarize_over :
    ¬ ∀ (filters : List Filter) (least greatest : Int) (bs : List Block), 2 ≤ (used filters least greatest bs).length →
      ((summarize filters least greatest bs).length : Int) ≤ greatest := by
  intro h
  let paragraph (t : String) : Block := ⟨"p", .text, false, t.toList, none, .block, false⟩
  exact absurd (h [] 100 9 [paragraph "aaaa", paragraph "bbbbb"] (by decide)) (by decide)

end Excerpt.Body
