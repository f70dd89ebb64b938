import Excerpt.Proofs.Css.Compound
import Excerpt.Proofs.Page.Stripped
import Excerpt.Proofs.Page.Values
import Excerpt.Proofs.Text.Bare

/-!
# Excludes as selectors

The expression of an exclude is a compound of a tag and a class, or of a tag and an id (`Css.Compound.IsExclude`). As an
exclude it is split at its sign (`Exclude.parse_text`), as a selector it is read test by test (`Css.parse_compound`).

Both see the same in an element whose name is in lower case and whose class and id stand under these names
(`Css.Compound.Spelled`): `Exclude.holds_eq_anyHolds`. The places in a tree are the ends of its lineages
(`Node.getLast?_lineages`), so that stripping leaves no place with a matched element
(`Exclude.of_mem_descendants_strip`), and hence nothing that the selector finds: `Exclude.holds_iff_css`.
-/

namespace Excerpt

namespace Css

/-! ## Tests of a compound -/

namespace Compound

/-- Whether a compound is the expression of an exclude: `tag`, `.class`, `#id`, `tag.class` or `tag#id` with a tag in
lower case. -/
structure IsExclude (p : Compound) : Prop extends Written p where
  one : p.cls = [] ∨ p.id = []
  small : smallName (String.ofList p.tag) = String.ofList p.tag

/-- Whether what a compound asks for is spelled in a node of a page as it stands in the compound: the tag in lower case,
the class and the id under these very names, and not behind one that has a capital letter in it. -/
structure Spelled (p : Compound) (n : Node) : Prop where
  fromPage : n.FromPage
  tag : p.tag ≠ [] → ∀ tag, n.tag? = some tag → smallName tag = tag
  cls : p.cls ≠ [] → attribute? n "class" = n.attr? "class"
  id : p.id ≠ [] → attribute? n "id" = n.attr? "id"

end Compound

open Compound

section Tests

variable {p : Compound} (env : Setting) (q : Place)

theorem allHold_append (ts us : List Test) : allHold env q (ts ++ us) = (allHold env q ts && allHold env q us) := by
  induction ts with
  | nil => rfl
  | cons t ts ih => rw [List.cons_append, allHold, allHold, ih, Bool.and_assoc]

theorem allHold_testsOf (test : String → Test) (part : Text) :
    allHold env q (testsOf test part) = (part.isEmpty || (test (String.ofList part)).holds env q) := by
  cases part with
  | nil => rfl
  | cons c r => exact Bool.and_true _

/-- A compound holds if each of its parts is missing or holds. -/
theorem anyHolds_tests : anyHolds env q [.only p.tests] =
    ((p.tag.isEmpty || hasTag q.node (String.ofList p.tag)) &&
      (p.cls.isEmpty || (classes q.node).contains (String.ofList p.cls)) &&
      (p.id.isEmpty || hasId q.node (String.ofList p.id))) := by
  rw [anyHolds, anyHolds, Bool.or_false, Chain.holds, tests, allHold_append, allHold_append, allHold_testsOf,
    allHold_testsOf, allHold_testsOf, Test.holds, Test.holds, Test.holds]

end Tests

end Css

namespace Exclude

open Css Css.Compound

/-! ## One expression in two readings -/

section Reading

variable {p : Compound}

/-- The exclude whose expression is a compound. -/
def ofCompound (p : Compound) : Exclude :=
  ⟨String.ofList p.text⟩

/-- **An expression is split into the parts that it was written from.** -/
theorem parse_text (hp : p.IsExclude) : Parts.parse p.text = ⟨p.tag, p.cls, p.id⟩ := by
  have hpoint : ∀ {t : Text}, t = [] ∨ IsIdentifier t → '.' ∉ t := by
    rintro t (rfl | ht)
    · exact List.not_mem_nil
    · exact ht.not_mem (by decide)
  have hhash : '#' ∉ p.tag := by
    rcases hp.tag with h | h
    · rw [h]; exact List.not_mem_nil
    · exact h.not_mem (by decide)
  rw [Parts.parse, Compound.text]
  rcases hp.cls with hcls | hcls
  · have hno : '.' ∉ p.tag ++ signed '#' p.id := by
      rw [List.mem_append, not_or]
      refine ⟨hpoint hp.tag, ?_⟩
      rcases hp.id with hid | hid
      · rw [hid]; exact List.not_mem_nil
      · rw [signed_of_identifier hid, List.mem_cons, not_or]
        exact ⟨by decide, hpoint (.inr hid)⟩
    rw [hcls, show signed '.' [] = [] from rfl, List.nil_append, Text.cut?_of_not_mem hno]
    rcases hp.id with hid | hid
    · rw [hid, show signed '#' [] = [] from rfl, List.append_nil, Text.cut?_of_not_mem hhash]
    · rw [signed_of_identifier hid, Text.cut?_append_cons _ hhash]
  · have hid : p.id = [] := hp.one.resolve_left hcls.ne_nil
    rw [hid, show signed '#' [] = [] from rfl, List.append_nil, signed_of_identifier hcls,
      Text.cut?_append_cons _ (hpoint hp.tag)]

theorem holds_ofCompound (hp : p.IsExclude) (tag : String) (as : Attrs) (ns : List Node) :
    (ofCompound p).holds (.element tag as ns) =
      ((p.tag.isEmpty || String.ofList p.tag == tag) &&
        (p.cls.isEmpty || ((as.lookup "class").map (·.holds p.cls)).getD false) &&
        (p.id.isEmpty || as.lookup "id" == some (.one (String.ofList p.id)))) := by
  have hparts : (ofCompound p).parts = ⟨p.tag, p.cls, p.id⟩ := by
    rw [parts, ofCompound, String.toList_ofList, parse_text hp]
  have hexpr : (ofCompound p).hasExpr = true := by
    have hne : String.ofList p.text ≠ "" := fun h => hp.nonempty (by simpa using congrArg String.toList h)
    simpa [hasExpr, ofCompound] using hne
  rw [holds, hparts, hexpr, Bool.true_and]
  rfl

end Reading

/-! ## One element in two readings -/

section Element

variable {p : Compound} {tag : String} {as : Attrs} {ns : List Node}

theorem hasTag_spelled (hp : p.IsExclude) (h : p.Spelled (.element tag as ns)) (htag : p.tag ≠ []) :
    hasTag (.element tag as ns) (String.ofList p.tag) = (String.ofList p.tag == tag) := by
  have hsmall : smallName tag = tag := h.tag htag tag rfl
  change (smallName tag == smallName (String.ofList p.tag)) = _
  rw [hp.small, hsmall, Bool.beq_comm]

theorem classes_spelled (h : p.Spelled (.element tag as ns)) (hcls : p.cls ≠ []) :
    (classes (.element tag as ns)).contains (String.ofList p.cls) =
      ((as.lookup "class").map (·.holds p.cls)).getD false := by
  rw [classes, h.cls hcls, Node.attr?, Node.attrs]
  cases hv : as.lookup "class" with
  | none => rfl
  | some v =>
    obtain ⟨ws, rfl⟩ := h.fromPage.class_eq hv
    rfl

theorem hasId_spelled (h : p.Spelled (.element tag as ns)) (hid : p.id ≠ []) :
    hasId (.element tag as ns) (String.ofList p.id) = (as.lookup "id" == some (.one (String.ofList p.id))) := by
  rw [hasId, h.id hid, Node.attr?, Node.attrs]
  cases hv : as.lookup "id" with
  | none =>
    have hne : "" ≠ String.ofList p.id := fun he => hid (by simpa using (congrArg String.toList he).symm)
    simpa using hne
  | some v =>
    obtain ⟨s, rfl⟩ := h.fromPage.one_eq (Node.mem_of_attr? hv) (by decide) (by decide +kernel)
    rw [Option.map_some, Option.getD_some, AttrValue.text, String.ofList_toList, Bool.eq_iff_iff,
      beq_iff_eq, beq_iff_eq, Option.some.injEq, AttrValue.one.injEq]

/-- **An exclude and its expression as a selector hold of the same elements.** -/
theorem holds_eq_anyHolds (hp : p.IsExclude) (env : Setting) {q : Place} (h : p.Spelled q.node) :
    (ofCompound p).holds q.node = (q.node.isElement && Css.anyHolds env q [.only p.tests]) := by
  obtain ⟨n, trail⟩ := q
  cases n with
  | element tag as ns =>
    have htag : (p.tag.isEmpty || String.ofList p.tag == tag) =
        (p.tag.isEmpty || hasTag (.element tag as ns) (String.ofList p.tag)) := by
      cases hempty : p.tag.isEmpty with
      | true => rfl
      | false => rw [hasTag_spelled hp h (by simpa using hempty)]
    have hcls : (p.cls.isEmpty || ((as.lookup "class").map (·.holds p.cls)).getD false) =
        (p.cls.isEmpty || (classes (.element tag as ns)).contains (String.ofList p.cls)) := by
      cases hempty : p.cls.isEmpty with
      | true => rfl
      | false => rw [classes_spelled h (by simpa using hempty)]
    have hid : (p.id.isEmpty || as.lookup "id" == some (.one (String.ofList p.id))) =
        (p.id.isEmpty || hasId (.element tag as ns) (String.ofList p.id)) := by
      cases hempty : p.id.isEmpty with
      | true => rfl
      | false => rw [hasId_spelled h (by simpa using hempty)]
    rw [holds_ofCompound hp, anyHolds_tests, htag, hcls, hid]
    rfl
  | _ => rfl

end Element

end Exclude

/-! ## Stripped trees -/

namespace Node

mutual

/-- The places in a tree are the ends of its lineages. -/
theorem getLast?_lineages : ∀ (fs : List Frame) (n : Node),
    n.lineages.map List.getLast? = (Place.within fs n).map fun q => some q.node.shell
  | _, .text .. | _, .comment _ | _, .instruction _ | _, .doctype _ => rfl
  | fs, .element tag as ns => by
    have hrow := getLast?_lineagesIn tag as fs [] ns
    have hends : (lineagesIn ns).map (fun line => (Node.element tag as [] :: line).getLast?) =
        (lineagesIn ns).map List.getLast? := by
      refine List.map_congr_left fun line hline => ?_
      obtain ⟨m, rest, rfl⟩ := List.exists_cons_of_ne_nil (ne_nil_of_mem_lineagesIn hline)
      rw [List.getLast?_cons_cons]
    rw [lineages, Place.within, List.map_cons, List.map_cons, List.map_map, ← hrow, ← hends]
    rfl

theorem getLast?_lineagesIn : ∀ (tag : String) (as : Attrs) (fs : List Frame) (before ns : List Node),
    (lineagesIn ns).map List.getLast? = (Place.withinRow tag as fs before ns).map fun q => some q.node.shell
  | _, _, _, _, [] => rfl
  | tag, as, fs, before, n :: ns => by
    rw [lineagesIn, Place.withinRow, List.map_append, List.map_append,
      getLast?_lineages (⟨tag, as, before, ns⟩ :: fs) n, getLast?_lineagesIn tag as fs (n :: before) ns]

end

theorem getLast?_lineagesBelow (n : Node) :
    n.lineagesBelow.map List.getLast? = (Place.top n).descendants.map fun q => some q.node.shell := by
  cases n with
  | element tag as ns => exact getLast?_lineagesIn tag as [] [] ns
  | _ => rfl

end Node

namespace Exclude

open Css Css.Compound

/-- Nothing below a node matters to how it is spelled. -/
theorem spelled_shell_iff (p : Compound) (n : Node) : p.Spelled n.shell ↔ p.Spelled n := by
  cases n with
  | element tag as ns => exact ⟨fun h => ⟨h.fromPage, h.tag, h.cls, h.id⟩, fun h => ⟨h.fromPage, h.tag, h.cls, h.id⟩⟩
  | _ => exact .rfl

/-- A place in a stripped tree is not matched, and its node stands in the tree itself. -/
theorem of_mem_descendants_strip {xs : List Exclude} {n : Node} {q : Place}
    (h : q ∈ (Place.top (strip xs n)).descendants) :
    Exclude.anyHolds xs q.node = false ∧ ∃ q' ∈ (Place.top n).descendants, q'.node.shell = q.node.shell := by
  have hend : some q.node.shell ∈ (strip xs n).lineagesBelow.map List.getLast? := by
    rw [Node.getLast?_lineagesBelow]
    exact List.mem_map_of_mem h
  obtain ⟨line, hline, hlast⟩ := List.mem_map.mp hend
  rw [lineagesBelow_strip] at hline
  obtain ⟨hline, hfree⟩ := List.mem_filter.mp hline
  constructor
  · rw [free, List.all_eq_true] at hfree
    have hshell := hfree _ (List.mem_of_getLast? hlast)
    rwa [anyHolds_shell, Bool.not_eq_true'] at hshell
  · have hplace : some q.node.shell ∈ (Place.top n).descendants.map fun q => some q.node.shell := by
      rw [← Node.getLast?_lineagesBelow]
      exact List.mem_map.mpr ⟨line, hline, hlast⟩
    obtain ⟨q', hq', hshell⟩ := List.mem_map.mp hplace
    exact ⟨q', hq', Option.some.inj hshell⟩

/-- **An exclude holds of what its expression selects.** The expression is read both as an exclude and as a selector.
The exclude holds of a node just if this is an element and the selector matches it, in whatever setting. Hence the
selector finds only what is spelled in another way in a tree that was stripped of what the exclude holds of, and nothing
if nothing below the top of the tree is. -/
theorem holds_iff_css {p : Compound} (hp : p.IsExclude) :
    ∃ x cs, Exclude.ofDoc (.str (String.ofList p.text)) = .ok x ∧ parse p.text = .ok cs ∧
      (∀ env q, p.Spelled q.node → (x.holds q.node = true ↔ q.node.isElement = true ∧ Css.anyHolds env q cs = true)) ∧
      ∀ n, (∀ q ∈ select cs (.top (strip [x] n)), ¬p.Spelled q.node) ∧
        ((∀ q ∈ (Place.top n).descendants, p.Spelled q.node) → select cs (.top (strip [x] n)) = []) := by
  have hsame : ∀ env (q : Place), p.Spelled q.node → ((ofCompound p).holds q.node = true ↔
      q.node.isElement = true ∧ Css.anyHolds env q [.only p.tests] = true) := fun env q h => by
    rw [holds_eq_anyHolds hp env h, Bool.and_eq_true]
  have hfound : ∀ n, ∀ q ∈ select [.only p.tests] (.top (strip [ofCompound p] n)), ¬p.Spelled q.node := by
    intro n q hq hspelled
    obtain ⟨hbelow, hmatch⟩ := List.mem_filter.mp hq
    have hholds := (hsame _ q hspelled).mpr (Bool.and_eq_true _ _ ▸ hmatch)
    have hfree := (of_mem_descendants_strip hbelow).1
    rw [Exclude.anyHolds, List.any_cons, hholds] at hfree
    cases hfree
  refine ⟨ofCompound p, [.only p.tests], rfl, parse_compound hp.toWritten, hsame, fun n => ⟨hfound n, fun hn => ?_⟩⟩
  rw [List.eq_nil_iff_forall_not_mem]
  intro q hq
  obtain ⟨-, q', hq', hshell⟩ := of_mem_descendants_strip (List.mem_filter.mp hq).1
  refine hfound n q hq ?_
  rw [← spelled_shell_iff, ← hshell, spelled_shell_iff]
  exact hn q' hq'

/-- A tag and a class in a tree with one element of both, one of the tag and one of the class. -/
theorem holds_iff_css_advert :
    let p : Compound := ⟨"div".toList, "ad".toList, []⟩
    let n : Node := .ofTree "body" [] [.ofTree "div" [("class", "big ad".toList)] [], .ofTree "div" [] [],
      .ofTree "p" [("class", "ad".toList)] []]
    p.IsExclude ∧ (∀ q ∈ (Place.top n).descendants, p.Spelled q.node) ∧
      ∃ x cs, Exclude.ofDoc (.str "div.ad") = .ok x ∧ parse "div.ad".toList = .ok cs ∧
        (Place.top n).descendants.map (fun q => x.holds q.node) = [true, false, false] ∧
        (select cs (.top n)).length = 1 ∧ select cs (.top (strip [x] n)) = [] := by
  intro p n
  have hdiv : IsIdentifier "div".toList := ⟨⟨'d', "iv".toList, rfl, rfl⟩, List.all_eq_true.mp rfl⟩
  have had : IsIdentifier "ad".toList := ⟨⟨'a', "d".toList, rfl, rfl⟩, List.all_eq_true.mp rfl⟩
  have hp : p.IsExclude := ⟨⟨.inr hdiv, .inr had, .inl rfl, by decide⟩, .inr rfl, by decide⟩
  have hspelled : ∀ (tag : String) (as : List (String × Text)), smallName tag = tag →
      attribute? (.ofTree tag as []) "class" = (Node.ofTree tag as []).attr? "class" → p.Spelled (.ofTree tag as []) :=
    fun tag as hsmall hcls => ⟨Node.fromPage_ofTree tag as [], fun _ _ h => Option.some.inj h ▸ hsmall, fun _ => hcls,
      fun hid => (hid rfl).elim⟩
  have hn : ∀ q ∈ (Place.top n).descendants, p.Spelled q.node := by
    intro q hq
    have hmem : q.node ∈ (Place.top n).descendants.map (·.node) := List.mem_map_of_mem hq
    have hnodes : (Place.top n).descendants.map (·.node) = [.ofTree "div" [("class", "big ad".toList)] [],
      .ofTree "div" [] [], .ofTree "p" [("class", "ad".toList)] []] := rfl
    simp only [hnodes, List.mem_cons, List.not_mem_nil, or_false] at hmem
    rcases hmem with h | h | h <;> rw [h] <;> exact hspelled _ _ (by decide) (by decide)
  obtain ⟨x, cs, hx, hcs, -, hstrip⟩ := holds_iff_css hp
  obtain rfl : ⟨"div.ad"⟩ = x := Decoded.ok.inj hx
  obtain rfl : [.only p.tests] = cs := by
    rw [parse_compound hp.toWritten] at hcs
    exact Except.ok.inj hcs
  exact ⟨hp, hn, _, _, hx, hcs, by decide, by decide, (hstrip n).2 hn⟩

/-- A class under a name in capitals: the selector finds it, the exclude does not see it. -/
theorem holds_ne_css_capitals :
    let p : Compound := ⟨[], "ad".toList, []⟩
    let n : Node := .ofTree "p" [("CLASS", "ad".toList)] []
    let doc : Node := .ofTree "[document]" [] [n]
    p.IsExclude ∧ n.FromPage ∧ smallName "p" = "p" ∧
      ∃ x cs, Exclude.ofDoc (.str ".ad") = .ok x ∧ parse ".ad".toList = .ok cs ∧
        x.holds n = false ∧ (∀ env trail, Css.anyHolds env ⟨n, trail⟩ cs = true) ∧
        (select cs (.top (strip [x] doc))).length = 1 := by
  intro p n doc
  have had : IsIdentifier "ad".toList := ⟨⟨'a', "d".toList, rfl, rfl⟩, List.all_eq_true.mp rfl⟩
  have hp : p.IsExclude := ⟨⟨.inl rfl, .inr had, .inl rfl, by decide⟩, .inr rfl, by decide⟩
  refine ⟨hp, Node.fromPage_ofTree _ _ _, by decide, ofCompound p, [.only p.tests], rfl, parse_compound hp.toWritten,
    by decide, fun env trail => ?_, by decide⟩
  rw [anyHolds_tests]
  rfl

end Exclude

end Excerpt
