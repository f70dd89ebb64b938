import Excerpt.Proofs.Body.SummaryLength

/-!
# Where a summary ends

A summary goes through the blocks until one of them ends it. `Walked` says through which blocks it has gone and what
text it has then, and `Ended` how it ends behind them: no block is left, a filter stops it, a title comes behind some
text, the next text has no room, or the text with it is long enough. One block either is gone through or ends the
summary (`walked_or_ended`), so every summary is a walk and an end (`exists_ended`). The progress of the summary counts
for no more than whether some text has been seen (`progressOf_eq_texts_iff`).

Hence a summary does not go on once it is long enough, and what is not long enough has ended for one of the other four
reasons: `summarize_ends`.
-/

namespace Excerpt.Body

/-! ## Which blocks count -/

/-- The progress of a summary behind the blocks that it has seen. -/
def progressOf (seen : List Block) : Progress :=
  seen.foldl (fun p b => p.after b.kind) .start

/-- Whether a block counts behind the blocks that have been seen: it is a text, or a title behind some text. -/
def Counts (seen : List Block) (b : Block) : Prop :=
  b.kind = .text ∨ b.kind = .title ∧ ∃ a ∈ seen, a.kind = .text

theorem progressOf_concat (seen : List Block) (b : Block) :
    progressOf (seen ++ [b]) = (progressOf seen).after b.kind := by
  rw [progressOf, List.foldl_append]
  rfl

theorem after_eq_texts_iff (p : Progress) (k : BlockKind) : p.after k = .texts ↔ p = .texts ∨ k = .text := by
  cases p <;> cases k <;> decide

theorem progressOf_eq_texts_iff (seen : List Block) : progressOf seen = .texts ↔ ∃ a ∈ seen, a.kind = .text := by
  induction seen using List.reverseRecOn with
  | nil => simp [progressOf]
  | append_singleton seen b ih => simp [progressOf_concat, after_eq_texts_iff, ih, or_and_right, exists_or]

theorem admits_after_iff (p : Progress) (k : BlockKind) :
    (p.after k).admits k = true ↔ k = .text ∨ k = .title ∧ p = .texts := by
  cases p <;> cases k <;> decide

/-- The blocks that the progress admits are those that count. -/
theorem admits_progressOf_iff (seen : List Block) (b : Block) :
    ((progressOf seen).after b.kind).admits b.kind = true ↔ Counts seen b := by
  rw [admits_after_iff, progressOf_eq_texts_iff, Counts]

/-! ## Walks and their ends -/

section Walks

variable (filters : List Filter) (least greatest : Int)

/-- Whether a text has room behind an earlier part of a summary; the first one always has. -/
def Fits (summary t : Text) : Prop :=
  summary ≠ [] → (summary.length + t.length : Int) ≤ greatest

/-- The blocks that a summary has gone through without an end, and the text that it has then. -/
inductive Walked : List Block → Text → Prop
  | start : Walked [] []
  | pass {seen : List Block} {summary : Text} {b : Block} : Walked seen summary →
      (Counts seen b → contribution filters b = .pass) → Walked (seen ++ [b]) summary
  | add {seen : List Block} {summary t : Text} {b : Block} : Walked seen summary → Counts seen b →
      contribution filters b = .text t → Fits greatest summary t → ((joinSummary summary t).length : Int) ≤ least →
      Walked (seen ++ [b]) (joinSummary summary t)

/-- Whether a summary breaks off in front of the blocks that are left, behind those that it has gone through: there are
none, a filter stops it at the first of them, that is a title behind some text, or its text has no room. -/
def BreaksOff (seen : List Block) (summary : Text) : List Block → Prop
  | [] => True
  | b :: _ =>
    Counts seen b ∧ Filter.applyAll filters (plainText b) .summary = .stop ∨
      b.kind = .title ∧ (∃ a ∈ seen, a.kind = .text) ∨
      Counts seen b ∧ ∃ t, contribution filters b = .text t ∧ ¬ Fits greatest summary t

/-- How a summary ends behind the blocks that it has gone through: it breaks off in front of those that are left, or the
text of the first of them makes it long enough. -/
inductive Ended (seen : List Block) (summary : Text) : List Block → Text → Prop
  | short {rest : List Block} : BreaksOff filters greatest seen summary rest → Ended seen summary rest summary
  | long {b : Block} {after : List Block} {t : Text} : Counts seen b → contribution filters b = .text t →
      Fits greatest summary t → least < ((joinSummary summary t).length : Int) →
      Ended seen summary (b :: after) (joinSummary summary t)

variable {filters least greatest} {seen : List Block} {summary : Text}

/-- The text that a block has to offer: its plain text, without the links if there are any. -/
def offeredText (b : Block) : Text :=
  if hasLink (plainText b) then eraseLinks (plainText b) else plainText b

theorem contribution_none {b : Block} (h : Filter.applyAll filters (plainText b) .summary = .none) :
    contribution filters b =
      if hasLink (plainText b) && (offeredText b).isEmpty then .pass
      else if b.kind == .title then .finish
      else if isDecoration (offeredText b) then .pass
      else .text (offeredText b) := by
  rw [contribution, h]
  rfl

theorem contribution_eq_finish {b : Block} (h : contribution filters b = .finish) :
    Filter.applyAll filters (plainText b) .summary = .stop ∨ b.kind = .title := by
  cases hf : Filter.applyAll filters (plainText b) .summary with
  | skip =>
    rw [contribution, hf] at h
    cases h
  | stop => exact .inl rfl
  | none =>
    rw [contribution_none hf] at h
    split at h
    · cases h
    · split at h
      · rename_i hk
        exact .inr (beq_iff_eq.mp hk)
      · split at h <;> cases h

/-- **One block more.** The summary goes through the block, or it ends there. -/
theorem walked_or_ended (h : Walked filters least greatest seen summary) (b : Block) (after : List Block) :
    (∃ summary', Walked filters least greatest (seen ++ [b]) summary' ∧
      summaryFrom filters least greatest (progressOf seen) summary (b :: after) =
        summaryFrom filters least greatest (progressOf (seen ++ [b])) summary' after) ∨
      Ended filters least greatest seen summary (b :: after)
        (summaryFrom filters least greatest (progressOf seen) summary (b :: after)) := by
  rw [summaryFrom, progressOf_concat]
  dsimp only
  split
  · rename_i hadmits
    have hcounts := (admits_progressOf_iff seen b).mp hadmits
    cases hc : contribution filters b with
    | pass => exact .inl ⟨summary, h.pass fun _ => hc, rfl⟩
    | finish =>
      right
      rcases contribution_eq_finish hc with hstop | htitle
      · exact .short (.inl ⟨hcounts, hstop⟩)
      · have htext := hcounts.resolve_left fun hk => by cases htitle.symm.trans hk
        exact .short (.inr (.inl ⟨htitle, htext.2⟩))
    | text t =>
      dsimp only
      split
      · rename_i hroom
        have hfits : ¬ Fits greatest summary t := by simpa [Fits] using hroom
        exact .inr (.short (.inr (.inr ⟨hcounts, t, hc, hfits⟩)))
      · rename_i hroom
        have hfits : Fits greatest summary t := by simpa [Fits] using hroom
        split
        · rename_i hlong
          exact .inr (.long hcounts hc hfits hlong)
        · rename_i hlong
          exact .inl ⟨_, h.add hcounts hc hfits (Int.not_lt.mp hlong), rfl⟩
  · rename_i hadmits
    exact .inl ⟨summary, h.pass fun hcounts => absurd ((admits_progressOf_iff seen b).mpr hcounts) hadmits, rfl⟩

/-- From where it is, a summary walks on through some blocks, and then it ends. -/
theorem exists_ended_of_walked : ∀ (bs : List Block) {seen : List Block} {summary : Text},
    Walked filters least greatest seen summary → ∃ seen' summary' rest, seen ++ bs = seen' ++ rest ∧
      Walked filters least greatest seen' summary' ∧ Ended filters least greatest seen' summary' rest
        (summaryFrom filters least greatest (progressOf seen) summary bs)
  | [], seen, summary, h => ⟨seen, summary, [], rfl, h, .short trivial⟩
  | b :: bs, seen, summary, h => by
    rcases walked_or_ended h b bs with ⟨summary', hwalked, heq⟩ | hended
    · obtain ⟨seen'', summary'', rest, hseen, hwalked, hended⟩ := exists_ended_of_walked bs hwalked
      exact ⟨seen'', summary'', rest, by rw [← hseen, List.append_assoc]; rfl, hwalked, heq ▸ hended⟩
    · exact ⟨seen, summary, b :: bs, rfl, h, hended⟩

variable (filters least greatest) in
/-- **Every summary is a walk and an end.** -/
theorem exists_ended (bs : List Block) : ∃ seen summary rest, bs = seen ++ rest ∧
    Walked filters least greatest seen summary ∧
    Ended filters least greatest seen summary rest (summaryFrom filters least greatest .start [] bs) :=
  exists_ended_of_walked bs .start

/-- A summary that is not long enough has broken off. -/
theorem Ended.breaksOff_of_le {rest : List Block} {whole : Text}
    (h : Ended filters least greatest seen summary rest whole)
    (hle : (whole.length : Int) ≤ least) : summary = whole ∧ BreaksOff filters greatest seen summary rest := by
  cases h with
  | short hbreaks => exact ⟨rfl, hbreaks⟩
  | long _ _ _ hlong => exact absurd hle (Int.not_le.mpr hlong)

end Walks

/-! ## A summary goes on only while it is short -/

section Summaries

variable {filters : List Filter} {least greatest : Int}

/-- If a further block is used, the text in front of it is not long enough. -/
theorem length_le_of_usedFrom {p : Progress} {summary : Text} {ts : List Text} {bs front after : List Block} {b : Block}
    (hts : ∀ t ∈ ts, t ≠ []) (hsummary : summary = Text.join [' '] ts)
    (hshort : ts ≠ [] → (summary.length : Int) ≤ least)
    (hused : usedFrom filters least greatest p summary bs = front ++ b :: after)
    (hne : ts ++ front.map (ownText filters) ≠ []) :
    ((Text.join [' '] (ts ++ front.map (ownText filters))).length : Int) ≤ least := by
  induction bs generalizing p summary ts front with
  | nil => simp [usedFrom] at hused
  | cons c bs ih =>
    rw [usedFrom] at hused
    dsimp only at hused
    split at hused
    · cases hc : contribution filters c with
      | pass =>
        rw [hc] at hused
        exact ih hts hsummary hshort hused hne
      | finish =>
        rw [hc] at hused
        simp at hused
      | text t =>
        simp only [hc] at hused
        split at hused
        · simp at hused
        · by_cases ht : t = []
          · -- A block without text leaves the summary as it is.
            subst ht
            rw [joinSummary_nil, List.isEmpty_nil, if_pos rfl] at hused
            split at hused
            · simp at hused
            · exact ih hts hsummary hshort hused hne
          · rw [if_neg (mt List.isEmpty_iff.mp ht)] at hused
            cases front with
            | nil =>
              rw [List.map_nil, List.append_nil] at hne ⊢
              exact hsummary ▸ hshort hne
            | cons d front =>
              obtain ⟨rfl, hrest⟩ := List.cons.inj hused
              split at hrest
              · simp at hrest
              · rename_i hlong
                have hmore : ∀ u ∈ ts ++ [t], u ≠ [] := List.forall_mem_append.mpr ⟨hts, by simpa using ht⟩
                have hsofar : ts ++ (c :: front).map (ownText filters) =
                    (ts ++ [t]) ++ front.map (ownText filters) := by
                  rw [List.map_cons, ownText_eq hc, List.append_assoc, List.singleton_append]
                rw [hsofar] at hne ⊢
                exact ih hmore (by rw [hsummary, Filled.joinSummary_join hts ht])
                  (fun _ => Int.not_lt.mp hlong) hrest hne
    · exact ih hts hsummary hshort hused hne

/-- The texts in front of the last one are together not long enough; no text is not long enough for any length but a
negative one. -/
theorem length_le_of_used {bs front after : List Block} (hused : used filters least greatest bs = front ++ after)
    (hfront : front ≠ [] ∨ 0 ≤ least) (hafter : after ≠ []) :
    ((Text.join [' '] (front.map (ownText filters))).length : Int) ≤ least := by
  obtain ⟨b, after, rfl⟩ := List.exists_cons_of_ne_nil hafter
  by_cases hnil : front = []
  · subst hnil
    exact hfront.resolve_left (absurd rfl)
  · exact length_le_of_usedFrom (List.forall_mem_nil _) rfl (absurd rfl) hused (mt List.map_eq_nil_iff.mp hnil)

variable (filters least greatest) (bs : List Block)

/-- The texts that a summary is made of, with blanks between them. -/
def usedText : Text :=
  Text.join [' '] ((used filters least greatest bs).map (ownText filters))

/-- **Where a summary ends.** It is made up of the texts of the blocks that it uses. It goes on with a further text only
if those in front of it are together not longer than the least length. And it goes through the blocks, none of which
ends it, up to its end: if it is not longer than the least length there, then no block is left, or a filter stops it at
the next block, or that is a title behind some text, or a block whose text has no room. -/
theorem summarize_ends :
    (used filters least greatest bs).Sublist bs ∧
      (∀ b ∈ used filters least greatest bs,
        contribution filters b = .text (ownText filters b) ∧ ownText filters b ≠ []) ∧
      summarize filters least greatest bs = endSentence (usedText filters least greatest bs) ∧
      (∀ front after, used filters least greatest bs = front ++ after → front ≠ [] ∨ 0 ≤ least → after ≠ [] →
        ((Text.join [' '] (front.map (ownText filters))).length : Int) ≤ least) ∧
      ∃ seen summary rest, bs = seen ++ rest ∧ Walked filters least greatest seen summary ∧
        Ended filters least greatest seen summary rest (usedText filters least greatest bs) ∧
        (((summarize filters least greatest bs).length : Int) ≤ least →
          summary = usedText filters least greatest bs ∧ BreaksOff filters greatest seen summary rest) := by
  have hfilled := filled_used filters least greatest bs
  have hwhole : summaryFrom filters least greatest .start [] bs = usedText filters least greatest bs :=
    hfilled.whole_eq (List.forall_mem_nil _) rfl
  have hsummarize : summarize filters least greatest bs = endSentence (usedText filters least greatest bs) :=
    summarize_eq filters least greatest bs
  obtain ⟨seen, summary, rest, hseen, hwalked, hended⟩ := exists_ended filters least greatest bs
  rw [hwhole] at hended
  refine ⟨hfilled.sublist, hfilled.contribution_eq, hsummarize, fun _ _ => length_le_of_used,
    seen, summary, rest, hseen, hwalked, hended, fun hle => ?_⟩
  rw [hsummarize, length_endSentence] at hle
  exact hended.breaksOff_of_le hle

end Summaries

/-- Two paragraphs behind a title that is passed over, and in front of one that ends the summary. -/
theorem summarize_ends_title :
    let block (tag : String) (kind : BlockKind) (t : String) : Block :=
      ⟨tag, kind, false, t.toList, none, .block, false⟩
    let one := block "p" .text "One:"
    let two := block "p" .text "two:"
    let bs := [block "h2" .title "Intro", one, two, block "h2" .title "Next", block "p" .text "More."]
    used [] 10 99 bs = [one] ++ [two] ∧ ([one] ≠ [] ∨ (0 : Int) ≤ 10) ∧ [two] ≠ [] ∧
      ((Text.join [' '] ([one].map (ownText []))).length : Int) ≤ 10 ∧
      summarize [] 10 99 bs = "One: two.".toList ∧ ((summarize [] 10 99 bs).length : Int) ≤ 10 ∧
      ∃ seen rest, bs = seen ++ rest ∧ Walked [] 10 99 seen "One: two:".toList ∧
        BreaksOff [] 99 seen "One: two:".toList rest := by
  intro block one two bs
  have hused : used [] 10 99 bs = [one] ++ [two] := by decide
  have hlength : ((summarize [] 10 99 bs).length : Int) ≤ 10 := by decide
  have hwhole : usedText [] 10 99 bs = "One: two:".toList := by decide
  obtain ⟨-, -, -, hshort, seen, summary, rest, hseen, hwalked, -, hends⟩ := summarize_ends [] 10 99 bs
  obtain ⟨hsummary, hbreaks⟩ := hends hlength
  rw [hsummary, hwhole] at hwalked hbreaks
  exact ⟨hused, .inl (by decide), by decide, hshort [one] [two] hused (.inl (by decide)) (by decide), by decide,
    hlength, seen, rest, hseen, hwalked, hbreaks⟩

end Excerpt.Body
