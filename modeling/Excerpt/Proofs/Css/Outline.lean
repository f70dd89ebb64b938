import Excerpt.Proofs.Css.States

/-!
# Selectors see outlines

A selector sees the tags and attributes of a page, its shape, and which of its texts are blank, unless it asks for
texts: a test without such a question holds at a place exactly if it does in its outline (`Css.holds_outline`). Of a
selector that sees no more than the outline (`Css.SeesOutline`), the places that it finds in an outline are the outlines
of those that it finds (`Css.select_outline`), and it finds the same below places that differ in the texts around them
(`Css.framed_select`).
-/

namespace Excerpt.Css

open Place (outline framed)

/-! ## Around an element -/

/-- Texts beside an element count only if they are not blank. -/
theorem standsAlone_outline (p : Place) : standsAlone p.outline = standsAlone p := by
  rw [standsAlone, standsAlone, Place.outline_earlier, Place.outline_later, ← List.map_append, List.all_map]
  congr 1
  funext q
  obtain ⟨n, fs⟩ := q
  cases n with
  | text kind s => exact isBlank_outline s
  | _ => rfl

/-- Elements are counted among their siblings, those of one tag or all. -/
theorem countedWith_outline (p : Place) (c : Counting) : countedWith p.outline c = (countedWith p c).map outline := by
  have hsiblings : onlyElements (if c.fromBack then p.outline.later else p.outline.earlier) =
      (onlyElements (if c.fromBack then p.later else p.earlier)).map outline := by
    rw [Place.outline_earlier, Place.outline_later]
    split <;> exact onlyElements_outline _
  have htag : ∀ q : Place,
      hasTag q.outline.node (p.outline.node.tag?.getD "") = hasTag q.node (p.node.tag?.getD "") := by
    intro q
    rw [outline, outline, hasTag_outline, Node.tag?_outline]
  simp only [countedWith, hsiblings, List.filter_map, Function.comp_def, htag]
  split <;> rfl

/-- The places from which a combinator leads here. -/
theorem back_outline (p : Place) : ∀ c : Combinator, c.back p.outline = (c.back p).map outline
  | .descendant => p.outline_ancestors
  | .child => by
    rw [Combinator.back, Combinator.back, Place.outline_parent?]
    cases p.parent? <;> rfl
  | .adjacent => by
    rw [Combinator.back, Combinator.back, Place.outline_earlier, onlyElements_outline, List.map_take]
  | .sibling => by rw [Combinator.back, Combinator.back, Place.outline_earlier, onlyElements_outline]

/-- The places to which a combinator leads from here. -/
theorem ahead_outline (p : Place) : ∀ c : Combinator, c.ahead p.outline = (c.ahead p).map outline
  | .descendant => by rw [Combinator.ahead, Combinator.ahead, Place.outline_descendants, onlyElements_outline]
  | .child => by rw [Combinator.ahead, Combinator.ahead, Place.outline_children, onlyElements_outline]
  | .adjacent => by
    rw [Combinator.ahead, Combinator.ahead, Place.outline_later, onlyElements_outline, List.map_take]
  | .sibling => by rw [Combinator.ahead, Combinator.ahead, Place.outline_later, onlyElements_outline]

/-! ## Questions about texts -/

mutual

/-- Whether a test asks for what texts are: for words in them, or for the direction that they are written in. -/
def Test.asksTexts : Test → Bool
  | .mentions .. | .direction _ => true
  | .nth _ _ cs | .oneOf cs | .noneOf cs => anyAsksTexts cs
  | .having ls => anyAheadAsksTexts ls
  | _ => false

/-- Whether one of several tests asks for texts. -/
def someAsksTexts : List Test → Bool
  | [] => false
  | t :: ts => t.asksTexts || someAsksTexts ts

/-- Whether a chain asks for texts. -/
def Chain.asksTexts : Chain → Bool
  | .only ts => someAsksTexts ts
  | .join earlier _ ts => earlier.asksTexts || someAsksTexts ts

/-- Whether one of several chains asks for texts. -/
def anyAsksTexts : List Chain → Bool
  | [] => false
  | c :: cs => c.asksTexts || anyAsksTexts cs

/-- Whether a chain that leads away asks for texts. -/
def Lookahead.asksTexts : Lookahead → Bool
  | .only _ ts => someAsksTexts ts
  | .join _ ts later => someAsksTexts ts || later.asksTexts

/-- Whether one of several chains that lead away asks for texts. -/
def anyAheadAsksTexts : List Lookahead → Bool
  | [] => false
  | l :: ls => l.asksTexts || anyAheadAsksTexts ls

end

/-- Whether chains depend on no more of a page than its outline. -/
def SeesOutline (cs : List Chain) : Prop :=
  ∀ (env : Setting) (p : Place), anyHolds env p.outline cs = anyHolds env p cs

/-! ## Matching -/

mutual

/-- A test that asks for no texts holds in outline exactly if it holds. -/
theorem holds_outline (env : Setting) : ∀ {t : Test}, t.asksTexts = false → ∀ p : Place,
    t.holds env p.outline = t.holds env p
  | .tag name, _, p => by
    rw [Test.holds, Test.holds]
    exact hasTag_outline p.node name
  | .anyTag, _, _ | .noNamespace, _, _ | .never, _, _ => by rw [Test.holds, Test.holds]
  | .id name, _, p => by
    rw [Test.holds, Test.holds]
    exact hasId_outline p.node name
  | .cls name, _, p => by rw [Test.holds, Test.holds, node_outline, classes_outline]
  | .attr a, _, p => by rw [Test.holds, Test.holds, node_outline, attribute?_outline]
  | .root, _, p => by rw [Test.holds, Test.holds, p.path_outline, standsAlone_outline]
  | .scope, _, p => by rw [Test.holds, Test.holds, p.path_outline]
  | .empty, _, p => by
    rw [Test.holds, Test.holds]
    exact isEmptyElement_outline p.node
  | .defined, _, p => by rw [Test.holds, Test.holds, node_outline, isDefined_outline]
  | .firstSubmit, _, p => by rw [Test.holds, Test.holds, isFirstSubmit_outline]
  | .unchosen, _, p => by rw [Test.holds, Test.holds, isUnchosen_outline]
  | .unfilled, _, p => by rw [Test.holds, Test.holds, node_outline, isUnfilled_outline]
  | .bounded inside, _, p => by rw [Test.holds, Test.holds, node_outline, isOutside?_outline]
  | .language ranges, _, p => by rw [Test.holds, Test.holds, speaks_outline]
  | .nth series counting [], _, p => by
    rw [Test.holds, Test.holds, countedWith_outline, List.length_map]
  | .nth series counting (c :: cs), h, p => by
    obtain ⟨hfirst, hrest⟩ := Bool.or_eq_false_iff.mp h
    have hc : ∀ q : Place, c.holds env q.outline = c.holds env q := chainHolds_outline env hfirst
    have hcs : ∀ q : Place, anyHolds env q.outline cs = anyHolds env q cs := anyHolds_outline env hrest
    rw [Test.holds, Test.holds, countedWith_outline, List.filter_map, List.length_map]
    simp only [hc, hcs, Function.comp_def]
  | .oneOf cs, h, p => by rw [Test.holds, Test.holds, anyHolds_outline env h p]
  | .noneOf cs, h, p => by rw [Test.holds, Test.holds, anyHolds_outline env h p]
  | .having ls, h, p => by rw [Test.holds, Test.holds, anyAhead_outline env h p]

/-- Tests and the lists, chains and selectors made of them go through one another, so this and the next four are one
induction. -/
theorem allHold_outline (env : Setting) : ∀ {ts : List Test}, someAsksTexts ts = false → ∀ p : Place,
    allHold env p.outline ts = allHold env p ts
  | [], _, _ => by rw [allHold, allHold]
  | t :: ts, h, p => by
    obtain ⟨hfirst, hrest⟩ := Bool.or_eq_false_iff.mp h
    rw [allHold, allHold, holds_outline env hfirst p, allHold_outline env hrest p]

theorem chainHolds_outline (env : Setting) : ∀ {c : Chain}, c.asksTexts = false → ∀ p : Place,
    c.holds env p.outline = c.holds env p
  | .only ts, h, p => by rw [Chain.holds, Chain.holds, allHold_outline env h p]
  | .join earlier c ts, h, p => by
    obtain ⟨hfirst, hrest⟩ := Bool.or_eq_false_iff.mp h
    have hearlier : ∀ q : Place, earlier.holds env q.outline = earlier.holds env q := chainHolds_outline env hfirst
    rw [Chain.holds, Chain.holds, allHold_outline env hrest p, back_outline, List.any_map]
    simp only [hearlier, Function.comp_def]

theorem anyHolds_outline (env : Setting) : ∀ {cs : List Chain}, anyAsksTexts cs = false → ∀ p : Place,
    anyHolds env p.outline cs = anyHolds env p cs
  | [], _, _ => by rw [anyHolds, anyHolds]
  | c :: cs, h, p => by
    obtain ⟨hfirst, hrest⟩ := Bool.or_eq_false_iff.mp h
    rw [anyHolds, anyHolds, chainHolds_outline env hfirst p, anyHolds_outline env hrest p]

theorem aheadHolds_outline (env : Setting) : ∀ {l : Lookahead}, l.asksTexts = false → ∀ p : Place,
    l.holds env p.outline = l.holds env p
  | .only c ts, h, p => by
    have hts : ∀ q : Place, allHold env q.outline ts = allHold env q ts := allHold_outline env h
    rw [Lookahead.holds, Lookahead.holds, ahead_outline, List.any_map]
    simp only [hts, Function.comp_def]
  | .join c ts later, h, p => by
    obtain ⟨hfirst, hrest⟩ := Bool.or_eq_false_iff.mp h
    have hts : ∀ q : Place, allHold env q.outline ts = allHold env q ts := allHold_outline env hfirst
    have hlater : ∀ q : Place, later.holds env q.outline = later.holds env q := aheadHolds_outline env hrest
    rw [Lookahead.holds, Lookahead.holds, ahead_outline, List.any_map]
    simp only [hts, hlater, Function.comp_def]

theorem anyAhead_outline (env : Setting) : ∀ {ls : List Lookahead}, anyAheadAsksTexts ls = false → ∀ p : Place,
    anyAhead env p.outline ls = anyAhead env p ls
  | [], _, _ => by rw [anyAhead, anyAhead]
  | l :: ls, h, p => by
    obtain ⟨hfirst, hrest⟩ := Bool.or_eq_false_iff.mp h
    rw [anyAhead, anyAhead, aheadHolds_outline env hfirst p, anyAhead_outline env hrest p]

end

/-- **Chains that ask for no texts see no more than the outline.** -/
theorem seesOutline_of_asksTexts {cs : List Chain} (h : anyAsksTexts cs = false) : SeesOutline cs :=
  fun env p => anyHolds_outline env h p

/-! ## Selection -/

/-- The root element is the first element of the document. -/
theorem rootPath_outline (document : Node) : rootPath document.outline = rootPath document := by
  rw [rootPath, rootPath, Node.children_outline, List.findIdx?_map]
  congr 2
  funext n
  exact n.isElement_outline

/-- A selection is set by the root element and by the path of the place that it is below. -/
theorem setting_outline (p : Place) : Setting.of p.outline = Setting.of p := by
  have hempty : p.outline.trail.isEmpty = p.trail.isEmpty := List.isEmpty_map ..
  rw [Setting.of, Setting.of, p.root_outline, rootPath_outline, p.path_outline, hempty]

/-- What is found in an outline are the outlines of what is found. -/
theorem select_outline {cs : List Chain} (h : SeesOutline cs) (p : Place) :
    select cs p.outline = (select cs p).map outline := by
  rw [select, select, Place.outline_descendants, List.filter_map, setting_outline]
  congr 2
  funext q
  rw [Function.comp_apply, h, outline, Node.isElement_outline]

/-- Whether a place, its surroundings being in outline, is an element that matches one of the chains. -/
def framedHolds (env : Setting) (cs : List Chain) (q : Place) : Bool :=
  q.node.outline.isElement && anyHolds env ⟨q.node.outline, q.trail⟩ cs

/-- On the places of a tree, a selector that sees no more than the outline holds in the outline of the surroundings as
in the page. -/
theorem framedHolds_framed {cs : List Chain} (h : SeesOutline cs) (env : Setting) (q : Place) :
    framedHolds env cs q.framed = (q.node.isElement && anyHolds env q cs) := by
  rw [← h, ← q.node.isElement_outline]
  rfl

/-- The places below one that match are found alike if only what the texts around it say is different. -/
theorem framed_select {cs : List Chain} (hcs : SeesOutline cs) {p p' : Place} (h : p'.framed = p.framed) :
    (select cs p').map framed = (select cs p).map framed := by
  have hsetting : Setting.of p' = Setting.of p := by
    rw [← setting_outline, Place.outline_eq_of_framed h, setting_outline]
  have hframed : ∀ q : Place, select cs q =
      q.descendants.filter (framedHolds (Setting.of q) cs ∘ framed) := by
    intro q
    simp only [Function.comp_def, framedHolds_framed hcs]
    rfl
  rw [hframed, hframed, hsetting, ← List.filter_map, ← List.filter_map, Place.framed_descendants h]

end Excerpt.Css
