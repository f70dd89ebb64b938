import Excerpt.Proofs.Body.SummaryEnd

/-!
# Skipped texts in a summary

A text that a filter skips adds nothing to a summary. But the summary has seen some text then, and so the next title,
which it would have passed over, can end it (`EndsEarly`). As long as there is no text in the summary each block is
passed over or ends it, but for the first text that is not skipped (`passes_or_ends`); behind that text the skipped ones
make no difference (`summaryFrom_texts_unskipped`).

So the summary is the same without the skipped texts, unless a title ends it early; then it is empty
(`summarize_unskipped_iff`). An advertisement in front of the first heading is enough: `summarize_behind_advertisement`.
-/

namespace Excerpt.Body

section Skips

variable (filters : List Filter)

/-- Whether the filters skip a text. -/
def isSkipped (b : Block) : Bool :=
  b.kind == .text && Filter.applyAll filters (plainText b) .summary == .skip

/-- The blocks without the texts that the filters skip. -/
def unskipped (bs : List Block) : List Block :=
  bs.filter (!isSkipped filters ·)

/-- Whether a title ends a summary that has no text yet: the summary has seen some text, at first or in front of the
title, but the filters skip all text that is there. -/
def EndsEarly (p : Progress) (bs : List Block) : Prop :=
  ∃ front title after, bs = front ++ title :: after ∧ (p = .texts ∨ ∃ b ∈ front, b.kind = .text) ∧
    (∀ b ∈ front, b.kind = .text → isSkipped filters b = true) ∧
    title.kind = .title ∧ contribution filters title = .finish

variable {filters} {least greatest : Int} {p q : Progress} {b : Block}

/-! ## One block -/

theorem isSkipped_iff : isSkipped filters b = true ↔
    b.kind = .text ∧ Filter.applyAll filters (plainText b) .summary = .skip := by
  rw [isSkipped, Bool.and_eq_true, beq_iff_eq, beq_iff_eq]

theorem contribution_of_isSkipped (h : isSkipped filters b = true) : contribution filters b = .pass := by
  rw [contribution, (isSkipped_iff.mp h).2]

/-- A title adds no text. -/
theorem contribution_title (h : b.kind = .title) :
    contribution filters b = .pass ∨ contribution filters b = .finish := by
  cases hf : Filter.applyAll filters (plainText b) .summary with
  | skip => exact .inl (by rw [contribution, hf])
  | stop => exact .inr (by rw [contribution, hf])
  | none =>
    rw [contribution_none hf, h]
    split
    · exact .inl rfl
    · exact .inr rfl

theorem unskipped_cons (b : Block) (bs : List Block) :
    unskipped filters (b :: bs) = if isSkipped filters b then unskipped filters bs else b :: unskipped filters bs := by
  rw [unskipped, List.filter_cons]
  cases isSkipped filters b <;> rfl

/-- A block that does not count or has nothing to add is passed over. -/
theorem summaryFrom_pass {summary : Text} (h : (p.after b.kind).admits b.kind = true → contribution filters b = .pass)
    (bs : List Block) : summaryFrom filters least greatest p summary (b :: bs) =
      summaryFrom filters least greatest (p.after b.kind) summary bs := by
  rw [summaryFrom]
  dsimp only
  split
  · rename_i hadmits
    rw [h hadmits]
  · rfl

theorem summaryFrom_finish {summary : Text} (hadmits : (p.after b.kind).admits b.kind = true)
    (h : contribution filters b = .finish) (bs : List Block) :
    summaryFrom filters least greatest p summary (b :: bs) = summary := by
  rw [summaryFrom]
  dsimp only
  rw [if_pos hadmits, h]

/-- Blocks with the same first one give the same summary if the others do behind it. -/
theorem summaryFrom_cons_congr {summary : Text} {bs bs' : List Block} (hp : p.after b.kind = q.after b.kind)
    (h : ∀ summary, summaryFrom filters least greatest (p.after b.kind) summary bs =
      summaryFrom filters least greatest (p.after b.kind) summary bs') :
    summaryFrom filters least greatest p summary (b :: bs) =
        summaryFrom filters least greatest q summary (b :: bs') := by
  rw [summaryFrom, summaryFrom, ← hp]
  simp only [h]

/-- Up to the first text that is not skipped, a block is passed over or ends the summary. -/
theorem passes_or_ends (hb : b.kind = .text → isSkipped filters b = true) (summary : Text) (bs : List Block) :
    summaryFrom filters least greatest p summary (b :: bs) =
        summaryFrom filters least greatest (p.after b.kind) summary bs ∨
      summaryFrom filters least greatest p summary (b :: bs) = summary := by
  by_cases hadmits : (p.after b.kind).admits b.kind = true
  · rcases (admits_after_iff p b.kind).mp hadmits with htext | ⟨htitle, -⟩
    · exact .inl (summaryFrom_pass (fun _ => contribution_of_isSkipped (hb htext)) bs)
    · exact (contribution_title htitle).imp (fun hc => summaryFrom_pass (fun _ => hc) bs)
        fun hc => summaryFrom_finish hadmits hc bs
  · exact .inl (summaryFrom_pass (absurd · hadmits) bs)

/-! ## All blocks -/

/-- Behind some text, skipped texts make no difference. -/
theorem summaryFrom_texts_unskipped (summary : Text) (bs : List Block) :
    summaryFrom filters least greatest .texts summary (unskipped filters bs) =
      summaryFrom filters least greatest .texts summary bs := by
  induction bs generalizing summary with
  | nil => rfl
  | cons b bs ih =>
    have hafter : Progress.texts.after b.kind = .texts := (after_eq_texts_iff _ _).mpr (.inl rfl)
    rw [unskipped_cons]
    split
    · rename_i hs
      rw [summaryFrom_pass (fun _ => contribution_of_isSkipped hs), hafter]
      exact ih summary
    · exact summaryFrom_cons_congr rfl (hafter.symm ▸ ih)

/-- A summary that ends early stays as it is. -/
theorem summaryFrom_of_endsEarly {bs : List Block} (h : EndsEarly filters p bs) (summary : Text) :
    summaryFrom filters least greatest p summary bs = summary := by
  obtain ⟨front, title, after, rfl, hseen, hskipped, htitle, hfinish⟩ := h
  induction front generalizing p with
  | nil =>
    have hp : p = .texts := hseen.resolve_right (by simp)
    exact summaryFrom_finish ((admits_after_iff _ _).mpr (.inr ⟨htitle, hp⟩)) hfinish after
  | cons b front ih =>
    rw [List.forall_mem_cons] at hskipped
    rcases passes_or_ends (p := p) hskipped.1 summary (front ++ title :: after) with hpass | hends
    · rw [List.cons_append, hpass]
      refine ih ?_ hskipped.2
      rw [after_eq_texts_iff]
      rcases hseen with hp | ⟨a, ha, hk⟩
      · exact .inl (.inl hp)
      · rcases List.mem_cons.mp ha with rfl | ha
        · exact .inl (.inr hk)
        · exact .inr ⟨a, ha, hk⟩
    · exact hends

/-- What does not end early behind a block does not end early with it. -/
theorem EndsEarly.cons (hb : b.kind = .text → isSkipped filters b = true) {bs : List Block}
    (h : EndsEarly filters (p.after b.kind) bs) : EndsEarly filters p (b :: bs) := by
  obtain ⟨front, title, after, rfl, hseen, hskipped, hends⟩ := h
  refine ⟨b :: front, title, after, rfl, ?_, List.forall_mem_cons.mpr ⟨hb, hskipped⟩, hends⟩
  rw [after_eq_texts_iff, or_assoc] at hseen
  refine hseen.imp_right fun h => ?_
  rcases h with hk | ⟨a, ha, hk⟩
  · exact ⟨b, List.mem_cons_self, hk⟩
  · exact ⟨a, List.mem_cons_of_mem _ ha, hk⟩

/-- **Skipped texts count for nothing if no title ends the summary early.** The two summaries have the same progress,
until one of them sees a skipped text that the other does not have. -/
theorem summaryFrom_unskipped {bs : List Block} (hp : p ≠ .texts) (hq : q = p ∨ q = .texts)
    (h : ¬ EndsEarly filters q bs) : summaryFrom filters least greatest p [] (unskipped filters bs) =
      summaryFrom filters least greatest q [] bs := by
  induction bs generalizing p q with
  | nil => rfl
  | cons b bs ih =>
    rw [unskipped_cons]
    split
    · rename_i hs
      have hk := (isSkipped_iff.mp hs).1
      have hafter : q.after b.kind = .texts := (after_eq_texts_iff _ _).mpr (.inr hk)
      rw [summaryFrom_pass (fun _ => contribution_of_isSkipped hs)]
      exact ih hp (.inr hafter) fun he => h (he.cons fun _ => hs)
    · rename_i hs
      by_cases hk : b.kind = .text
      · -- Here the summary has its first text, and both have seen some text behind it.
        have hafter : ∀ p : Progress, p.after b.kind = .texts := fun p => (after_eq_texts_iff _ _).mpr (.inr hk)
        exact summaryFrom_cons_congr ((hafter p).trans (hafter q).symm) (hafter p ▸ summaryFrom_texts_unskipped · bs)
      · have hpass : (q.after b.kind).admits b.kind = true → contribution filters b = .pass := by
          intro hadmits
          obtain ⟨htitle, hq⟩ := ((admits_after_iff _ _).mp hadmits).resolve_left hk
          refine (contribution_title htitle).resolve_right fun hfinish => h ?_
          exact ⟨[], b, bs, rfl, .inl hq, List.forall_mem_nil _, htitle, hfinish⟩
        have hover : ¬ (p.after b.kind).admits b.kind = true := fun hadmits =>
          ((admits_after_iff _ _).mp hadmits).elim hk fun htitle => hp htitle.2
        have hafter : p.after b.kind ≠ .texts := fun hafter => ((after_eq_texts_iff _ _).mp hafter).elim hp hk
        rw [summaryFrom_pass (absurd · hover), summaryFrom_pass hpass]
        refine ih hafter ?_ fun he => h (he.cons fun hk' => absurd hk' hk)
        rcases hq with rfl | hq
        · exact .inl rfl
        · exact .inr ((after_eq_texts_iff _ _).mpr (.inl hq))

end Skips

/-! ## The summary -/

/-- **What skipped texts do to a summary.** The summary is the same without the texts that the filters skip, unless a
title stands behind such a text and in front of the first text that is not skipped, and the title is neither skipped nor
a mere link. That title ends the summary and leaves it empty, so it is the same just if it is empty without the skipped
texts too. -/
theorem summarize_unskipped_iff (filters : List Filter) (least greatest : Int) (bs : List Block) :
    (summarize filters least greatest (unskipped filters bs) = summarize filters least greatest bs ↔
      (EndsEarly filters .start bs → summarize filters least greatest (unskipped filters bs) = [])) ∧
    (EndsEarly filters .start bs → summarize filters least greatest bs = []) := by
  have hempty : EndsEarly filters .start bs → summarize filters least greatest bs = [] := fun h => by
    rw [summarize, summaryFrom_of_endsEarly h]
    rfl
  refine ⟨⟨fun h he => h.trans (hempty he), fun h => ?_⟩, hempty⟩
  by_cases he : EndsEarly filters .start bs
  · rw [h he, hempty he]
  · rw [summarize, summarize, summaryFrom_unskipped (by decide) (.inl rfl) he]

/-- An advertisement in front of the first heading. -/
theorem summarize_unskipped_iff_heading :
    let filters : List Filter := [⟨"Ad", .summary, false⟩]
    let bs : List Block := [⟨"p", .text, false, "Ad".toList, none, .block, false⟩,
      ⟨"h2", .title, false, "Title".toList, none, .block, false⟩,
      ⟨"p", .text, false, "Text.".toList, none, .block, false⟩]
    EndsEarly filters .start bs ∧ summarize filters 100 400 bs = [] ∧
      summarize filters 100 400 (unskipped filters bs) = "Text.".toList ∧
      summarize filters 100 400 (unskipped filters bs) ≠ summarize filters 100 400 bs := by
  intro filters bs
  have hearly : EndsEarly filters .start bs := by
    refine ⟨[bs[0]], bs[1], [bs[2]], rfl, .inr ⟨bs[0], List.mem_singleton.mpr rfl, rfl⟩, ?_, rfl, by decide⟩
    exact List.forall_mem_singleton.mpr fun _ => by decide
  have hwithout : summarize filters 100 400 (unskipped filters bs) = "Text.".toList := by decide
  obtain ⟨hiff, hempty⟩ := summarize_unskipped_iff filters 100 400 bs
  refine ⟨hearly, hempty hearly, hwithout, fun h => ?_⟩
  have hnil := hiff.mp h hearly
  rw [hwithout] at hnil
  cases hnil

/-- A skipped advertisement makes the first heading the end of the summary. -/
theorem summarize_behind_advertisement :
    ¬ ∀ (filters : List Filter) (least greatest : Int) (bs : List Block),
      summarize filters least greatest (unskipped filters bs) = summarize filters least greatest bs := by
  intro h
  let bs : List Block := [⟨"p", .text, false, "Ad".toList, none, .block, false⟩,
    ⟨"h2", .title, false, "Title".toList, none, .block, false⟩,
    ⟨"p", .text, false, "Text.".toList, none, .block, false⟩]
  exact absurd (h [⟨"Ad", .summary, false⟩] 100 400 bs) (by decide)

end Excerpt.Body
