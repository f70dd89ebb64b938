import Excerpt.Extract.Select
import Excerpt.Proofs.Page.Values
import Excerpt.Proofs.Text.Lines

/-!
# Contents of meta elements

A `meta` element for a key offers its content if that is not blank (`Node.offered?`). The content that is looked up is
the first one that is not empty, so that a content of blanks hides the ones behind it (`Node.hides`,
`Node.metaContent?_eq_findSome?`). Hence the main statement `Node.metaContent?_eq_offered_iff`: the first content that
is offered is found exactly if no element in front of it hides it.
-/

namespace Excerpt

theorem Text.toLower_eq_nil_iff {t : Text} : toLower t = [] ↔ t = [] := by
  cases t with
  | nil => exact iff_of_true rfl rfl
  | cons c t =>
    refine iff_of_false (fun h => ?_) (List.cons_ne_nil c t)
    rw [toLower, lowerAfter, List.append_eq_nil_iff] at h
    obtain ⟨hc, -⟩ := h
    -- No character is left out in lower case.
    split at hc
    · cases hc
    · split at hc <;> cases hc

theorem AttrValue.text_of_isEmpty {v : AttrValue} (h : v.isEmpty = true) : v.text = [] := by
  cases v with
  | one s => rw [AttrValue.text, beq_iff_eq.mp h]; rfl
  | many ss => rw [AttrValue.text, List.isEmpty_iff.mp h]; rfl

namespace Node

/-! ## Elements for a key -/

/-- Whether a node is a `meta` element and one of its key attributes equals the key, without regard to case. -/
def isMetaFor (key : Text) (n : Node) : Bool :=
  n.hasTag "meta" && metaKeys.any fun name =>
    (n.lowerAttr? name).any fun v => Text.toLower v.text == Text.toLower key

/-- The trimmed content of a `meta` element for the key, unless it is blank. -/
def offered? (key : Text) (n : Node) : Option Text :=
  if n.isMetaFor key then
    (n.attr? "content").bind fun v => if Text.isBlank v.text then none else some (Text.trim v.text)
  else none

/-- Whether a node is a `meta` element for the key whose content is blank, but not empty. -/
def hides (key : Text) (n : Node) : Bool :=
  n.isMetaFor key && (n.attr? "content").any fun v => !v.isEmpty && Text.isBlank v.text

section Elements

variable {key : Text} {n : Node} {t : Text}

theorem offered?_eq_some_iff : n.offered? key = some t ↔
    n.isMetaFor key = true ∧ ∃ v, n.attr? "content" = some v ∧ Text.isBlank v.text = false ∧ Text.trim v.text = t := by
  rw [offered?, Option.ite_none_right_eq_some, Option.bind_eq_some_iff]
  simp only [Option.ite_none_left_eq_some, Option.some.injEq, Bool.not_eq_true]

theorem offered?_ne_nil (h : n.offered? key = some t) : t ≠ [] := by
  obtain ⟨-, v, -, hblank, rfl⟩ := offered?_eq_some_iff.mp h
  rw [Ne, Text.trim_eq_nil_iff, hblank]
  exact Bool.false_ne_true

/-- What offers its content does not hide others. -/
theorem hides_eq_false_of_offered? (h : n.offered? key = some t) : n.hides key = false := by
  obtain ⟨-, v, hv, hblank, -⟩ := offered?_eq_some_iff.mp h
  rw [hides, hv, Option.any_some, hblank, Bool.and_false, Bool.and_false]

/-- An attribute that equals the key counts only if it is not empty. -/
theorem hasMetaKey_iff : n.hasMetaKey key = true ↔ ∃ name ∈ metaKeys, ∃ v, n.lowerAttr? name = some v ∧
    v.isEmpty = false ∧ Text.toLower v.text = Text.toLower key := by
  rw [hasMetaKey, List.any_eq_true]
  refine exists_congr fun name => and_congr_right fun _ => ?_
  cases n.lowerAttr? name <;> simp

theorem isMetaFor_iff : n.isMetaFor key = true ↔ n.hasTag "meta" = true ∧ ∃ name ∈ metaKeys, ∃ v,
    n.lowerAttr? name = some v ∧ Text.toLower v.text = Text.toLower key := by
  rw [isMetaFor, Bool.and_eq_true, List.any_eq_true]
  refine and_congr_right fun _ => exists_congr fun name => and_congr_right fun _ => ?_
  cases n.lowerAttr? name <;> simp

theorem isMetaFor_of_hasMetaKey (h : (n.hasTag "meta" && n.hasMetaKey key) = true) : n.isMetaFor key = true := by
  obtain ⟨htag, hkey⟩ := Bool.and_eq_true_iff.mp h
  obtain ⟨name, hname, v, hv, -, hlower⟩ := hasMetaKey_iff.mp hkey
  exact isMetaFor_iff.mpr ⟨htag, name, hname, v, hv, hlower⟩

/-- What equals a key is not empty, unless the key is. -/
theorem hasMetaKey_of_isMetaFor (hkey : key ≠ []) (h : n.isMetaFor key = true) :
    (n.hasTag "meta" && n.hasMetaKey key) = true := by
  obtain ⟨htag, name, hname, v, hv, hlower⟩ := isMetaFor_iff.mp h
  refine Bool.and_eq_true_iff.mpr ⟨htag, hasMetaKey_iff.mpr ⟨name, hname, v, hv, ?_, hlower⟩⟩
  refine Bool.eq_false_iff.mpr fun hempty => hkey ?_
  rw [AttrValue.text_of_isEmpty hempty] at hlower
  exact Text.toLower_eq_nil_iff.mp hlower.symm

end Elements

/-! ## Looking a content up -/

section Lookup

variable {key : Text} {document : Node} {t : Text}

/-- The content that is looked up is blank if an element hides the others, or else the first one that is offered. -/
theorem metaContent?_eq_findSome? (hkey : key ≠ []) (document : Node) : document.metaContent? key =
    document.descendants.findSome? fun n => if n.hides key then some [] else n.offered? key := by
  rw [metaContent?]
  congr 1
  funext n
  cases hmeta : n.isMetaFor key with
  | false =>
    have hno : (n.hasTag "meta" && n.hasMetaKey key) = false :=
      Bool.eq_false_iff.mpr fun h => by simp [isMetaFor_of_hasMetaKey h] at hmeta
    simp [hno, hides, offered?, hmeta]
  | true =>
    rw [hasMetaKey_of_isMetaFor hkey hmeta, hides, offered?, hmeta, if_pos rfl, if_pos rfl, Bool.true_and]
    cases n.attr? "content" with
    | none => rfl
    | some v =>
      cases hempty : v.isEmpty with
      | true =>
        have hblank : Text.isBlank v.text = true := by rw [AttrValue.text_of_isEmpty hempty]; rfl
        simp [hempty, hblank]
      | false =>
        cases hblank : Text.isBlank v.text with
        | true => simp [hempty, hblank, Text.trim_eq_nil_iff.mpr hblank]
        | false => simp [hempty, hblank]

theorem findSome?_hides_iff : ∀ {ns : List Node}, ns.findSome? (offered? key) = some t →
    ((ns.findSome? fun n => if n.hides key then some [] else n.offered? key) = some t ↔
      ∀ n ∈ ns.takeWhile (fun n => (n.offered? key).isNone), n.hides key = false)
  | n :: ns, h => by
    cases hn : n.offered? key with
    | some u =>
      rw [List.findSome?_cons, hn] at h
      rw [List.findSome?_cons, hides_eq_false_of_offered? hn, hn, List.takeWhile_cons_of_neg (by simp [hn])]
      exact iff_of_true h fun m hm => (List.not_mem_nil hm).elim
    | none =>
      rw [List.findSome?_cons, hn] at h
      rw [List.findSome?_cons, List.takeWhile_cons_of_pos (by simp [hn]), List.forall_mem_cons]
      cases hhides : n.hides key with
      | true =>
        obtain ⟨m, -, hm⟩ := List.exists_of_findSome?_eq_some h
        exact iff_of_false (fun he => offered?_ne_nil hm (Option.some.inj he).symm) fun hall => Bool.noConfusion hall.1
      | false =>
        rw [if_neg Bool.false_ne_true, hn, and_iff_right rfl]
        exact findSome?_hides_iff h

/-- A content that is looked up is offered, or blank. -/
theorem eq_nil_of_metaContent? (hnone : document.descendants.findSome? (offered? key) = none)
    (h : document.metaContent? key = some t) : t = [] := by
  rw [metaContent?] at h
  obtain ⟨n, hn, hcontent⟩ := List.exists_of_findSome?_eq_some h
  rw [Option.ite_none_right_eq_some] at hcontent
  obtain ⟨hmeta, hcontent⟩ := hcontent
  split at hcontent
  · rename_i v hv
    obtain ⟨-, he⟩ := Option.ite_none_left_eq_some.mp hcontent
    by_contra hne
    have hblank : Text.isBlank v.text = false := by
      rw [← Bool.not_eq_true, ← Text.trim_eq_nil_iff, Option.some.inj he]
      exact hne
    have hoffered := offered?_eq_some_iff.mpr ⟨isMetaFor_of_hasMetaKey hmeta, v, hv, hblank, Option.some.inj he⟩
    rw [List.findSome?_eq_none_iff.mp hnone n hn] at hoffered
    cases hoffered
  · cases hcontent

/-- In a page, no attribute that is not empty equals the empty key. -/
theorem metaContent?_nil (hpage : ∀ n ∈ document.descendants, n.FromPage) : document.metaContent? [] = none := by
  have hno : ∀ n ∈ document.descendants, n.hasMetaKey [] = false := by
    intro n hn
    refine Bool.eq_false_iff.mpr fun h => ?_
    obtain ⟨name, hname, v, hv, hempty, hlower⟩ := hasMetaKey_iff.mp h
    obtain ⟨a, ha, rfl⟩ := Option.map_eq_some_iff.mp hv
    have hmem : a ∈ n.attrs := List.mem_reverse.mp (List.mem_of_find?_eq_some ha)
    have hspelled : lowerName a.1 ∈ metaKeys := by
      have hsame := List.find?_some ha
      rwa [beq_iff_eq.mp hsame]
    have hnone : ∀ names ∈ AttrValue.listNames :: AttrValue.tagListNames.map (·.2), ∀ name ∈ names,
        lowerName name ∉ metaKeys := by decide +kernel
    obtain ⟨s, hs⟩ := (hpage n hn).one_eq hmem (fun h => hnone _ List.mem_cons_self _ h hspelled)
      fun e he h => hnone _ (List.mem_cons_of_mem _ (List.mem_map_of_mem he)) _ h hspelled
    rw [hs] at hempty hlower
    have hnil : s.toList = [] := Text.toLower_eq_nil_iff.mp hlower
    rw [String.toList_eq_nil_iff.mp hnil] at hempty
    cases hempty
  rw [metaContent?, List.findSome?_eq_none_iff]
  intro n hn
  rw [hno n hn, Bool.and_false, if_neg Bool.false_ne_true]

end Lookup

/-- **When the first content that is not blank is found**: exactly if no `meta` element for the key in front of it has a
content that is blank, but not empty. If there is no such content, selectors for the key select nothing. For the empty
key, nothing is found in a page at all. -/
theorem metaContent?_eq_offered_iff (document : Node) (key : Text) :
    (∀ t, document.descendants.findSome? (offered? key) = some t → key ≠ [] →
      (document.metaContent? key = some t ↔
        ∀ n ∈ document.descendants.takeWhile (fun n => (n.offered? key).isNone), n.hides key = false)) ∧
    (document.descendants.findSome? (offered? key) = none → ∀ s : Selector, s.source = .metadata → s.expr.toList = key →
      ∀ (multiple image : Bool) (p : Place), s.select multiple image document p = []) ∧
    (key = [] → (∀ n ∈ document.descendants, n.FromPage) → document.metaContent? key = none) := by
  refine ⟨fun t ht hkey => ?_, fun hnone s hsource hexpr multiple image p => ?_, fun hkey hpage => ?_⟩
  · rw [metaContent?_eq_findSome? hkey]
    exact findSome?_hides_iff ht
  · rw [Selector.select, hsource, hexpr]
    cases hcontent : document.metaContent? key with
    | none => rfl
    | some t => rw [eq_nil_of_metaContent? hnone hcontent]; rfl
  · rw [hkey]
    exact metaContent?_nil hpage

/-- A `meta` element with a name and a content. -/
def named (name content : String) : Node :=
  ofTree "meta" [("name", name.toList), ("content", content.toList)] []

/-- Behind an empty content, and one of another key, the content is found; alone, a blank one is not selected, and the
empty key is not looked up. -/
theorem metaContent?_eq_offered_iff_title :
    let page := document [named "Title" "", named "author" " ", named "title" " News "]
    let blank := document [named "title" " "]
    let key := "TITLE".toList
    let s : Selector := ⟨"TITLE", .metadata, .text, none, none, none, [], none, false⟩
    (page.descendants.findSome? (offered? key) = some "News".toList ∧ key ≠ [] ∧
        blank.descendants.findSome? (offered? key) = none ∧ s.source = .metadata ∧ s.expr.toList = key ∧
        ∀ n ∈ page.descendants, n.FromPage) ∧
      page.metaContent? key = some "News".toList ∧ s.select false false blank (.top blank) = [] ∧
        page.metaContent? [] = none := by
  intro page blank key s
  have hoffered : page.descendants.findSome? (offered? key) = some "News".toList := by decide +kernel
  have hkey : key ≠ [] := by decide
  have hblank : blank.descendants.findSome? (offered? key) = none := by decide +kernel
  have hfree : ∀ n ∈ page.descendants.takeWhile (fun n => (n.offered? key).isNone), n.hides key = false := by
    decide +kernel
  have hpage : ∀ n ∈ page.descendants, n.FromPage := by
    have hthree : page.descendants = [named "Title" "", named "author" " ", named "title" " News "] := rfl
    rw [hthree]
    simp only [List.forall_mem_cons, named, fromPage_ofTree, List.not_mem_nil, false_implies, implies_true, and_self]
  have hpaged := metaContent?_eq_offered_iff page key
  exact ⟨⟨hoffered, hkey, hblank, rfl, rfl, hpage⟩, (hpaged.1 _ hoffered hkey).mpr hfree,
    (metaContent?_eq_offered_iff blank key).2.1 hblank s rfl rfl false false (.top blank),
    (metaContent?_eq_offered_iff page []).2.2 rfl hpage⟩

/-- A blank content hides one that is not blank. -/
theorem metaContent?_hidden : ¬ ∀ (document : Node) (key t : Text), key ≠ [] →
    document.descendants.findSome? (offered? key) = some t → document.metaContent? key = some t := by
  intro h
  have hfound := h (document [named "title" " ", named "title" "News"]) "title".toList "News".toList (by decide)
    (by decide +kernel)
  have hhidden : (document [named "title" " ", named "title" "News"]).metaContent? "title".toList = some [] := by
    decide +kernel
  rw [hhidden] at hfound
  cases hfound

end Node

end Excerpt
