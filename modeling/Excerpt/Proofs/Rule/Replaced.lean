import Excerpt.Proofs.Doc.Update
import Excerpt.Proofs.Rule.Lawful
import Mathlib.Data.List.Nodup

/-!
# Deriving a rule set replaces its members

The members of a rule set are its root and its slots. A mapping is read as a rule set exactly if each member is read
from what the mapping gives for it, nothing counting as the empty value (`RuleSet.ofDoc_map_eq_ok`). What the derivation
reads gives a changed member its change, and any other member its written form (`RuleSet.given_changed`).

So a derivation comes down to the rule sets of the single changes (`RuleSet.derive_replaces`): it succeeds if each of
them can be built, and puts the members of these in the place of the old ones.
-/

namespace Excerpt

open Doc (Entries)

theorem Decoded.eq_none_of_isNull {α : Type} (read : Doc → Decoded α) {d : Doc} {a? : Option α} (hd : d.isNull = true)
    (h : optional read d = .ok a?) : a? = none := by
  rw [optional, if_pos hd] at h
  exact (Decoded.ok.inj h).symm

namespace RuleSet

/-! ## Members -/

/-- A member of a rule set. -/
inductive Member where
  | root
  | slot (s : Slot)
deriving DecidableEq

namespace Member

/-- All members, in the order of the written form. -/
def all : List Member :=
  .root :: Slot.all.map .slot

/-- What a member holds, if it is there. -/
def Value : Member → Type
  | .root => Selector
  | .slot _ => FieldRule

/-- The snake-case key of a member. -/
def key : Member → String
  | .root => "root"
  | .slot s => s.snakeKey

/-- The reader of a member. -/
def read : (m : Member) → Doc → Decoded (Option m.Value)
  | .root => Decoded.optional Selector.ofDoc
  | .slot s => Decoded.optional fun d => FieldRule.ofDoc (named s d)

/-- The writer of a member. -/
def write : (m : Member) → Option m.Value → Doc
  | .root => fun s => (s.map Selector.toDoc).getD .null
  | .slot _ => fun f => (f.map (FieldRule.toDoc .snake)).getD .null

/-- The member of a rule set. -/
def get (r : RuleSet) : (m : Member) → Option m.Value
  | .root => r.root
  | .slot s => r.field s

/-- What a mapping gives for a member, the empty value if nothing. -/
def given (es : Entries) (m : Member) : Doc :=
  ((es.attr? m.key).map Prod.snd).getD .null

theorem mem_all : ∀ m : Member, m ∈ all
  | .root => List.mem_cons_self
  | .slot s => List.mem_cons_of_mem _ (List.mem_map_of_mem (mem_slots s))

theorem map_key_all : all.map key = "root" :: Slot.all.map fun s => KeyStyle.snake.spell s.snakeKey := by
  rw [all, List.map_cons, List.map_map]
  rfl

theorem key_injective : Function.Injective key := by
  have hnodup : (all.map key).Nodup := map_key_all ▸ nodup_keys .snake
  exact fun m n h => List.inj_on_of_nodup_map hnodup m.mem_all n.mem_all h

/-- The key of a member in either style stands for the member in changes. -/
theorem changeKey_spell (style : KeyStyle) (m : Member) : changeKey (style.spell m.key) = m.key := by
  have hkebab : ∀ m ∈ all, changeKey (KeyStyle.kebab.spell m.key) = m.key := by decide +kernel
  have hsnake : ∀ m ∈ all, changeKey m.key = m.key := by decide +kernel
  cases style with
  | kebab => exact hkebab m m.mem_all
  | snake => exact hsnake m m.mem_all

theorem eq_of_spell {style style' : KeyStyle} {m n : Member} (h : style.spell m.key = style'.spell n.key) : m = n := by
  refine key_injective ?_
  rw [← changeKey_spell style m, h, changeKey_spell]

theorem read_null : ∀ m : Member, m.read .null = .ok none
  | .root => rfl
  | .slot _ => rfl

theorem eq_none_of_isNull {m : Member} {d : Doc} {v : Option m.Value} (hd : d.isNull = true) (h : m.read d = .ok v) :
    v = none := by
  cases m with
  | root => exact Decoded.eq_none_of_isNull Selector.ofDoc hd h
  | slot s => exact Decoded.eq_none_of_isNull (fun d => FieldRule.ofDoc (named s d)) hd h

/-- A member is read from what is given for it. -/
theorem attrOr_eq_ok {es : Entries} {m : Member} {v : Option m.Value} :
    es.attrOr m.key none m.read = .ok v ↔ m.read (m.given es) = .ok v := by
  rw [given]
  cases hattr : es.attr? m.key with
  | none =>
    rw [Entries.attrOr, hattr, Option.map_none, Option.getD_none, read_null]
  | some e => exact Entries.attrOr_of_attr? hattr

end Member

theorem ofDoc_map_eq_ok {es : Entries} {r : RuleSet} :
    ofDoc (.map es) = .ok r ↔ ∀ m : Member, m.read (m.given es) = .ok (m.get r) := by
  rw [ofDoc, ofEntries_eq_ok]
  simp only [← Member.attrOr_eq_ok]
  constructor
  · rintro ⟨hroot, hfield⟩ (_ | s)
    · exact hroot
    · exact hfield s
  · exact fun h => ⟨h .root, fun s => h (.slot s)⟩

/-- A mapping can be read as a rule set if each member can be read from it. -/
theorem exists_ofDoc_map {es : Entries} :
    (∃ r, ofDoc (.map es) = .ok r) ↔ ∀ m : Member, ∃ v, m.read (m.given es) = .ok v := by
  constructor
  · rintro ⟨r, h⟩ m
    exact ⟨_, ofDoc_map_eq_ok.mp h m⟩
  · intro h
    choose v hv using h
    refine ⟨⟨v .root, fun s => v (.slot s)⟩, ofDoc_map_eq_ok.mpr ?_⟩
    rintro (_ | s)
    · exact hv .root
    · exact hv (.slot s)

theorem Sound.read_write {r : RuleSet} (h : r.Sound) : ∀ m : Member, m.read (m.write (m.get r)) = .ok (m.get r)
  | .root => h.read_root
  | .slot s => by
    have hread := (ofEntries_eq_ok.mp (h.ofDoc_toDoc .snake)).2 s
    exact (Entries.attrOr_of_attr? (attr?_written .snake r s)).mp hread

/-! ## Changes -/

/-- A change to a member: what is given for it, under its key in a style. -/
structure Change where
  member : Member
  style : KeyStyle
  value : Given

/-- A change as an entry of a mapping. -/
def Change.entry (c : Change) : Scalar × Given :=
  (.str (c.style.spell c.member.key), c.value)

/-- The mapping of a single change gives nothing for another member. -/
theorem Change.given_entry (c : Change) (m : Member) :
    m.given (Given.entries [c.entry]) = if c.member = m then c.value.toDoc else .null := by
  have hget : ∀ k : String, (Given.entries [c.entry]).get? k =
      if c.style.spell c.member.key = k then some c.value.toDoc else none := by
    intro k
    change Entries.get? [(.str (c.style.spell c.member.key), c.value.toDoc)] k = _
    rw [Entries.get?_cons]
    simp only [Scalar.str.injEq]
    rfl
  rw [Member.given, Entries.attr?_map_snd, hget, hget]
  by_cases hm : c.member = m
  · subst hm
    rw [if_pos rfl]
    cases hstyle : c.style with
    | kebab => rw [if_pos rfl, Option.some_or, Option.getD_some]
    | snake =>
      rw [if_pos (c := KeyStyle.snake.spell c.member.key = c.member.key) rfl]
      split <;> rfl
  · have hne : ∀ style : KeyStyle, c.style.spell c.member.key ≠ style.spell m.key :=
      fun style h => hm (Member.eq_of_spell h)
    rw [if_neg hm, if_neg (hne .kebab), if_neg (c := _ = m.key) (hne .snake)]
    rfl

theorem Change.exists_read_entry (c : Change) : (∃ one, schema.read (.map (Given.entries [c.entry])) = .ok one) ↔
    ∃ v, c.member.read c.value.toDoc = .ok v := by
  simp only [Schema.read_eq_ok]
  refine exists_ofDoc_map.trans ⟨fun h => ?_, fun h m => ?_⟩
  · have hmember := h c.member
    rwa [c.given_entry, if_pos rfl] at hmember
  · rw [c.given_entry]
    split
    · rename_i hm
      subst hm
      exact h
    · exact ⟨none, m.read_null⟩

theorem Change.read_entry {c : Change} {one : RuleSet} (h : schema.read (.map (Given.entries [c.entry])) = .ok one) :
    c.member.read c.value.toDoc = .ok (c.member.get one) := by
  have hread := ofDoc_map_eq_ok.mp (Schema.read_eq_ok.mp h) c.member
  rwa [c.given_entry, if_pos rfl] at hread

/-! ## Derivations -/

/-- The changes by the snake-case keys of their members. -/
def keyed (cs : List Change) : List (String × Doc) :=
  cs.map fun c => (c.member.key, c.value.toDoc)

/-- The mapping that a derivation by changes reads. -/
def changed (r : RuleSet) (cs : List Change) : Entries :=
  (Entries.ofStrings (r.toEntries .snake)).update (Entries.ofStrings (keyed cs))

theorem derive_eq (r : RuleSet) (cs : List Change) :
    schema.derive r (Given.entries (cs.map Change.entry)) = schema.read (.map (r.changed cs)) := by
  have hentries : Given.entries (cs.map Change.entry) =
      Entries.ofStrings (cs.map fun c => (c.style.spell c.member.key, c.value.toDoc)) := by
    simp only [Given.entries, Entries.ofStrings, List.map_map]
    rfl
  have hkeyed :
      ((cs.map fun c => (c.style.spell c.member.key, c.value.toDoc)).map fun p => (schema.changeKey p.1, p.2)) =
      keyed cs := by
    rw [List.map_map]
    exact List.map_congr_left fun c _ => congrArg (·, c.value.toDoc) (Member.changeKey_spell c.style c.member)
  rw [Schema.derive, hentries, Schema.changed_ofStrings, hkeyed]
  rfl

theorem map_fst_keyed (cs : List Change) : (keyed cs).map Prod.fst = (cs.map Change.member).map Member.key := by
  rw [keyed, List.map_map, List.map_map]
  rfl

theorem get?_written (r : RuleSet) (m : Member) :
    (Entries.ofStrings (r.toEntries .snake)).get? m.key = some (m.write (m.get r)) := by
  cases m with
  | root => rfl
  | slot s => cases s <;> rfl

variable {r : RuleSet} {cs : List Change}

/-- What the derivation reads has snake-case keys only, so a member is given what stands under its own key. -/
theorem given_changed (hd : (cs.map Change.member).Nodup) (m : Member) : m.given (r.changed cs) =
    ((Entries.ofStrings (keyed cs)).get? m.key).getD (m.write (m.get r)) := by
  have hdistinct : (Entries.ofStrings (keyed cs)).Distinct := ⟨_, map_fst_keyed cs ▸ hd.map Member.key_injective, rfl⟩
  -- a hyphenated key is the key of no member, so nothing stands under it
  have hkebab : KeyStyle.kebab.spell m.key ≠ m.key → (r.changed cs).get? (KeyStyle.kebab.spell m.key) = none := by
    intro hne
    have hno : ∀ n : Member, n.key ≠ KeyStyle.kebab.spell m.key := by
      intro n hn
      have hspell : KeyStyle.snake.spell n.key = KeyStyle.kebab.spell m.key := hn
      exact hne (Member.eq_of_spell hspell ▸ hn.symm)
    rw [changed, Entries.get?_update hdistinct, Entries.get?_ofStrings_eq_none, Entries.get?_ofStrings_eq_none]
    · rfl
    · rw [map_fst_toEntries, ← Member.map_key_all]
      exact fun h => (List.mem_map.mp h).elim fun n hn => hno n hn.2
    · rw [map_fst_keyed]
      exact fun h => (List.mem_map.mp h).elim fun n hn => hno n hn.2
  have hattr : ((r.changed cs).attr? m.key).map Prod.snd = (r.changed cs).get? m.key := by
    rw [Entries.attr?_map_snd]
    by_cases hkey : KeyStyle.kebab.spell m.key = m.key
    · rw [hkey, Option.or_self]
    · rw [hkebab hkey, Option.none_or]
  rw [Member.given, hattr, changed, Entries.get?_update hdistinct, get?_written]
  cases (Entries.ofStrings (keyed cs)).get? m.key <;> rfl

/-- A changed member is read from its change. -/
theorem given_changed_of_mem (hd : (cs.map Change.member).Nodup) {c : Change} (hc : c ∈ cs) :
    c.member.given (r.changed cs) = c.value.toDoc := by
  have hget : (Entries.ofStrings (keyed cs)).get? c.member.key = some c.value.toDoc :=
    Entries.get?_ofStrings_of_mem (map_fst_keyed cs ▸ hd.map Member.key_injective)
      (List.mem_map_of_mem (f := fun c : Change => (c.member.key, c.value.toDoc)) hc)
  rw [given_changed hd, hget, Option.getD_some]

/-- A member without a change is read from its written form. -/
theorem given_changed_of_not_mem (hd : (cs.map Change.member).Nodup) {m : Member} (hm : m ∉ cs.map Change.member) :
    m.given (r.changed cs) = m.write (m.get r) := by
  have hnone : (Entries.ofStrings (keyed cs)).get? m.key = none := by
    refine Entries.get?_ofStrings_eq_none ?_
    rw [map_fst_keyed]
    exact mt (List.mem_map_of_injective Member.key_injective).mp hm
  rw [given_changed hd, hnone, Option.getD_none]

/-- **A derivation replaces exactly what it names.** Let changes name distinct members of a rule set. The derivation by
them succeeds if and only if each of them alone can be read as a rule set. Each member that they name is then the one of
the rule set of its change, which is nothing for the empty value, and all other members stay. -/
theorem derive_replaces (hr : r.Obtained) (hd : (cs.map Change.member).Nodup) :
    ((∃ r', schema.derive r (Given.entries (cs.map Change.entry)) = .ok r') ↔
      ∀ c ∈ cs, ∃ one, schema.read (.map (Given.entries [c.entry])) = .ok one) ∧
    ∀ r', schema.derive r (Given.entries (cs.map Change.entry)) = .ok r' →
      (∀ c ∈ cs, ∃ one, schema.read (.map (Given.entries [c.entry])) = .ok one ∧
        c.member.get r' = c.member.get one ∧ (c.value.toDoc.isNull = true → c.member.get r' = none)) ∧
      ∀ m, m ∉ cs.map Change.member → m.get r' = m.get r := by
  have hsound := hr.built.sound
  rw [derive_eq]
  have hexists : (∃ r', schema.read (.map (r.changed cs)) = .ok r') ↔
      ∀ c ∈ cs, ∃ one, schema.read (.map (Given.entries [c.entry])) = .ok one := by
    simp only [Change.exists_read_entry]
    simp only [Schema.read_eq_ok]
    refine exists_ofDoc_map.trans ⟨fun h c hc => ?_, fun h m => ?_⟩
    · exact given_changed_of_mem hd hc ▸ h c.member
    · by_cases hm : m ∈ cs.map Change.member
      · obtain ⟨c, hc, rfl⟩ := List.mem_map.mp hm
        rw [given_changed_of_mem hd hc]
        exact h c hc
      · rw [given_changed_of_not_mem hd hm]
        exact ⟨_, hsound.read_write m⟩
  refine ⟨hexists, fun r' hr' => ?_⟩
  have hread := ofDoc_map_eq_ok.mp (Schema.read_eq_ok.mp hr')
  refine ⟨fun c hc => ?_, fun m hm => ?_⟩
  · have hmember := hread c.member
    rw [given_changed_of_mem hd hc] at hmember
    obtain ⟨one, hone⟩ := hexists.mp ⟨r', hr'⟩ c hc
    have hsame := Decoded.ok.inj (hmember.symm.trans (Change.read_entry hone))
    exact ⟨one, hone, hsame, fun hnull => Member.eq_none_of_isNull hnull hmember⟩
  · have hmember := hread m
    rw [given_changed_of_not_mem hd hm, hsound.read_write m] at hmember
    exact (Decoded.ok.inj hmember).symm

/-- The headline in the slot of the author link, and no root. -/
def rerooting : List Change :=
  [⟨.slot .authorLink, .kebab, .field headline⟩, ⟨.root, .snake, .doc .null⟩]

/-- A rule set with a root and a title loses the one, keeps the other and gets a link. -/
theorem derive_replaces_root : ∃ r r', r.Obtained ∧
    schema.derive r (Given.entries (rerooting.map Change.entry)) = .ok r' ∧
    (r.root ≠ none ∧ r'.root = none) ∧ (r.field .title ≠ none ∧ r'.field .title = r.field .title) ∧
    ∃ one, schema.read (.map (Given.entries [(.str "author-link", .field headline)])) = .ok one ∧
      r'.field .authorLink = one.field .authorLink := by
  let article : Except LoadError RuleSet := schema.read (.ofFields [("root", .str "article"), ("title", .str "h1")])
  have hread : article.toOption.map (fun r => (r.root.isSome, (r.field .title).isSome)) = some (true, true) := by
    decide +kernel
  obtain ⟨r, hr, hparts⟩ := exists_of_toOption hread
  obtain ⟨hroot, htitle⟩ := Prod.mk.inj hparts
  have hobtained : r.Obtained := .read hr
  have hnodup : (rerooting.map Change.member).Nodup := by decide
  obtain ⟨hexists, hreplaced⟩ := derive_replaces hobtained hnodup
  have hsingle : ∀ c ∈ rerooting,
      (schema.read (.map (Given.entries [c.entry]))).toOption.map (fun _ => ()) = some () := by decide +kernel
  obtain ⟨r', hr'⟩ := hexists.mpr fun c hc => (exists_of_toOption (hsingle c hc)).imp fun _ h => h.1
  obtain ⟨hchanged, hkept⟩ := hreplaced r' hr'
  obtain ⟨one, hone, hlink, -⟩ := hchanged ⟨.slot .authorLink, .kebab, .field headline⟩ List.mem_cons_self
  obtain ⟨-, -, -, hnone⟩ := hchanged ⟨.root, .snake, .doc .null⟩ (List.mem_cons_of_mem _ List.mem_cons_self)
  refine ⟨r, r', hobtained, hr', ⟨?_, hnone rfl⟩, ⟨?_, hkept (.slot .title) (by decide)⟩, one, hone, hlink⟩
  · exact Option.isSome_iff_ne_none.mp hroot
  · exact Option.isSome_iff_ne_none.mp htitle

end RuleSet

end Excerpt
