import Excerpt.Body.Markup

/-!
# The lines of a body

A line of a body opens a list, closes one, or is written for a block. `emitFrom` gives the lines for blocks by what they
are written for; their texts are the lines of the markup (`map_text_emitFrom`).

Filters look at single blocks, and a block that they take out leaves the open list as it is. So they can be applied
first: `render_letThrough`.
-/

namespace Excerpt.Body

/-! ## Lines -/

/-- A line of a body, by what it is written for. -/
inductive Line where
  | opening (tag : String)
  | closing (tag : String)
  | block (b : Block)
deriving DecidableEq, Repr

namespace Line

/-- The text of a line. -/
def text : Line → Text
  | opening tag => openLine tag
  | closing tag => "</".toList ++ tag.toList ++ "></p>".toList
  | block b => if b.kind == .list then '<' :: b.tag.toList ++ '>' :: b.text else blockLine b

/-- Whether the line opens or closes a list. -/
def isWrapper : Line → Bool
  | opening _ | closing _ => true
  | block _ => false

/-- The block that the line is written for. -/
def block? : Line → Option Block
  | block b => some b
  | opening _ | closing _ => none

end Line

/-- The line that closes a list, if one is open. -/
def closings (current : Option String) : List Line :=
  current.toList.map .closing

/-- The lines for blocks, `current` being the tag of the list that is open. -/
def emitFrom (filters : List Filter) (current : Option String) : List Block → List Line
  | [] => closings current
  | b :: bs =>
    match Filter.applyAll filters b.text .body with
    | .skip => emitFrom filters current bs
    | .stop => closings current
    | .none =>
      if b.kind == .list then
        let opened := opens? current b
        opened.toList.map .opening ++ .block b :: emitFrom filters (opened.or current) bs
      else closings current ++ .block b :: emitFrom filters none bs

theorem map_text_closings (current : Option String) : (closings current).map Line.text = closeLines current := by
  cases current <;> rfl

/-- The texts of the lines are the lines of the markup. -/
theorem map_text_emitFrom (filters : List Filter) (current : Option String) (bs : List Block) :
    (emitFrom filters current bs).map Line.text = linesFrom filters current bs := by
  induction bs generalizing current with
  | nil => exact map_text_closings current
  | cons b bs ih =>
    rw [emitFrom, linesFrom]
    cases Filter.applyAll filters b.text .body with
    | skip => exact ih current
    | stop => exact map_text_closings current
    | none =>
      dsimp only
      split
      · rename_i hk
        rw [List.map_append, List.map_cons, ih, Line.text, if_pos hk]
        cases opens? current b <;> rfl
      · rename_i hk
        rw [List.map_append, List.map_cons, ih, Line.text, if_neg hk, map_text_closings]

/-! ## Filters -/

section Passing

variable {α : Type} (filters : List Filter) (text : α → Text)

/-- What filters let through of a list of things with a text: those before the first one that stops the body, without
the skipped ones. -/
def passing (as : List α) : List α :=
  (as.takeWhile fun a => Filter.applyAll filters (text a) .body != .stop).filter fun a =>
    Filter.applyAll filters (text a) .body != .skip

theorem passing_cons (a : α) (as : List α) :
    passing filters text (a :: as) =
      match Filter.applyAll filters (text a) .body with
      | .skip => passing filters text as
      | .stop => []
      | .none => a :: passing filters text as := by
  cases h : Filter.applyAll filters (text a) .body <;> simp [passing, h]

theorem passing_sublist (as : List α) : (passing filters text as).Sublist as :=
  List.filter_sublist.trans (List.takeWhile_sublist _)

/-- What is let through depends on the texts only. -/
theorem map_passing {β : Type} (f : β → α) (bs : List β) :
    (passing filters (text ∘ f) bs).map f = passing filters text (bs.map f) := by
  induction bs with
  | nil => rfl
  | cons b bs ih =>
    rw [List.map_cons, passing_cons, passing_cons, Function.comp_apply]
    cases Filter.applyAll filters (text (f b)) .body with
    | skip => exact ih
    | stop => rfl
    | none => exact congrArg (f b :: ·) ih

end Passing

/-- The blocks that filters let through. -/
def letThrough (filters : List Filter) (bs : List Block) : List Block :=
  passing filters Block.text bs

section LetThrough

variable {filters : List Filter} {b : Block} {front after : List Block}

theorem letThrough_cons (filters : List Filter) (b : Block) (bs : List Block) :
    letThrough filters (b :: bs) =
      match Filter.applyAll filters b.text .body with
      | .skip => letThrough filters bs
      | .stop => []
      | .none => b :: letThrough filters bs :=
  passing_cons filters Block.text b bs

theorem letThrough_sublist (filters : List Filter) (bs : List Block) : (letThrough filters bs).Sublist bs :=
  passing_sublist filters Block.text bs

/-- A skipped block leaves no trace. -/
theorem letThrough_skipped (h : Filter.applyAll filters b.text .body = .skip) :
    letThrough filters (front ++ b :: after) = letThrough filters (front ++ after) := by
  induction front with
  | nil => simp only [List.nil_append, letThrough_cons, h]
  | cons c front ih =>
    rw [List.cons_append, List.cons_append, letThrough_cons, letThrough_cons, ih]

/-- Nothing comes through from a block on that stops the body. -/
theorem letThrough_stopped (h : Filter.applyAll filters b.text .body = .stop) :
    letThrough filters (front ++ b :: after) = letThrough filters front := by
  induction front with
  | nil =>
    rw [List.nil_append, letThrough_cons, h]
    rfl
  | cons c front ih => rw [List.cons_append, letThrough_cons, letThrough_cons, ih]

/-- The lines for blocks are those for the blocks that the filters let through. -/
theorem emitFrom_letThrough (filters : List Filter) (current : Option String) (bs : List Block) :
    emitFrom filters current bs = emitFrom [] current (letThrough filters bs) := by
  induction bs generalizing current with
  | nil => rfl
  | cons b bs ih =>
    rw [emitFrom, letThrough_cons]
    cases Filter.applyAll filters b.text .body with
    | skip => exact ih current
    | stop => rfl
    | none =>
      simp only [ih]
      rfl

theorem linesFrom_letThrough (filters : List Filter) (current : Option String) (bs : List Block) :
    linesFrom filters current bs = linesFrom [] current (letThrough filters bs) := by
  rw [← map_text_emitFrom, emitFrom_letThrough, map_text_emitFrom]

end LetThrough

/-- **Filters first, then markup.** A body is written with filters as the blocks that they let through are without:
those before the first one that stops the body, less the skipped ones. So no line comes from a skipped block, nor from
one that stops the body or stands behind it, and the lists of the other blocks are opened and closed as if it had not
been there. -/
theorem render_letThrough (filters : List Filter) (bs : List Block) :
    render filters bs = render [] (letThrough filters bs) ∧
      linesFrom filters none bs = linesFrom [] none (letThrough filters bs) ∧
      (∀ front b after, bs = front ++ b :: after → Filter.applyAll filters b.text .body = .skip →
        linesFrom filters none bs = linesFrom filters none (front ++ after)) ∧
      (∀ front b after, bs = front ++ b :: after → Filter.applyAll filters b.text .body = .stop →
        linesFrom filters none bs = linesFrom filters none front) := by
  have hlines := linesFrom_letThrough filters none
  refine ⟨by rw [render, hlines]; rfl, hlines bs, ?_, ?_⟩
  · rintro front b after rfl hskip
    rw [hlines, hlines, letThrough_skipped hskip]
  · rintro front b after rfl hstop
    rw [hlines, hlines, letThrough_stopped hstop]

/-- A list with an item that is skipped; it is closed at a title that stops the body. -/
theorem render_letThrough_item :
    let item (t : String) : Block := ⟨"li", .list, false, t.toList, some "ul", .inlineBlock, false⟩
    let title : Block := ⟨"h3", .title, false, "More".toList, none, .inlineBlock, false⟩
    let filters : List Filter := [⟨"Ad.*", .body, false⟩, ⟨"More", .all, true⟩]
    let bs := [item "a", item "Ads", item "b", title, item "c"]
    Filter.applyAll filters "Ads".toList .body = .skip ∧ Filter.applyAll filters "More".toList .body = .stop ∧
      linesFrom filters none bs = linesFrom filters none [item "a", item "b", title, item "c"] ∧
      linesFrom filters none bs = linesFrom filters none [item "a", item "Ads", item "b"] ∧
      render filters bs = "<p><ul>\n<li>a\n<li>b\n</ul></p>".toList := by
  intro item title filters bs
  have hskip : Filter.applyAll filters "Ads".toList .body = .skip := by decide
  have hstop : Filter.applyAll filters "More".toList .body = .stop := by decide
  obtain ⟨-, -, hskipped, hstopped⟩ := render_letThrough filters bs
  exact ⟨hskip, hstop, hskipped [item "a"] (item "Ads") [item "b", title, item "c"] rfl hskip,
    hstopped [item "a", item "Ads", item "b"] title [item "c"] rfl hstop, by decide⟩

end Excerpt.Body
