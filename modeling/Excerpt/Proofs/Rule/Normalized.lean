import Excerpt.Rule.Normal
import Excerpt.Proofs.Doc.Overlay
import Excerpt.Proofs.Rule.SlotRule
import Excerpt.Proofs.Text.KeyCase

/-!
# What the normal form of a rule document gives

The normal form folds keys to snake case and collects lists under their plural keys. It is built entry by entry:
`Normal.get?_addEntry` and `Normal.get?_addSlot` say what one entry does to an attribute and to a slot, and
`Normal.get?_addEntries` and `Normal.get?_addSlots` what all of them leave there.

A folded key has no hyphen, so that no attribute of a normal form stands under a second key (`Normal.Folded`). One entry
preserves this, and with it all of them do (`Normal.addEntries_preserves`, `Normal.addSlots_preserves`).
-/

namespace Excerpt

open Doc (Entries)

/-! ## Folded keys -/

theorem snakeKey_ne_of_hyphen {k : String} (hk : '-' ∈ k.toList) (t : String) : snakeKey t ≠ k := by
  rintro rfl
  rw [snakeKey, String.toList_ofList] at hk
  exact Text.hyphen_not_mem_snakeCase _ hk

/-! ## What a document writes -/

/-- The values that stand under the keys with a property, in written order. -/
def Doc.Entries.under (p : Scalar → Bool) (es : Entries) : List Doc :=
  (es.filter fun e => p e.1).map Prod.snd

theorem Doc.Entries.under_cons (p : Scalar → Bool) (e : Scalar × Doc) (es : Entries) :
    Entries.under p (e :: es) = if p e.1 then e.2 :: es.under p else es.under p := by
  rw [under, List.filter_cons]
  split <;> rfl

theorem Doc.Entries.under_ofStrings_map {α : Type} (p : Scalar → Bool) (key : α → String) (value : α → Doc)
    (as : List α) :
    (Entries.ofStrings (as.map fun a => (key a, value a))).under p =
        (as.filter fun a => p (.str (key a))).map value := by
  rw [under, ofStrings, List.map_map, List.filter_map, List.map_map]
  rfl

namespace FieldAttr

/-- Whether a key of a rule document stands for an attribute: folded, it is the key of the attribute, or for a list one
of its keys. -/
def accepts : FieldAttr → Scalar → Bool
  | .list a, .str k => a.keys.contains (snakeKey k)
  | a, .str k => snakeKey k == a.key
  | _, _ => false

/-- What stands under the key of an attribute after one more value for it. -/
def add : FieldAttr → Option Doc → Doc → Option Doc
  | .list _, old, d => some (.list ((old.map Doc.toItems).getD [] ++ d.toItems))
  | _, _, d => some d

theorem IsScalar.accepts_eq {a : FieldAttr} (h : a.IsScalar) (k : String) :
    a.accepts (.str k) = (snakeKey k == a.key) := by
  cases a with
  | list l => exact (h l rfl).elim
  | _ => rfl

theorem IsScalar.add_eq {a : FieldAttr} (h : a.IsScalar) (old : Option Doc) (d : Doc) : a.add old d = some d := by
  cases a with
  | list l => exact (h l rfl).elim
  | _ => rfl

theorem isScalar_or (a : FieldAttr) : a.IsScalar ∨ ∃ l, a = .list l := by
  cases a with
  | list l => exact .inr ⟨l, rfl⟩
  | _ => exact .inl fun l h => by cases h

/-- The second key of an attribute that holds no list has a hyphen. -/
theorem IsScalar.hyphen_mem {a : FieldAttr} (h : a.IsScalar) {k : String} (hk : k ∈ a.spellings) (hne : k ≠ a.key) :
    '-' ∈ k.toList := by
  revert k
  cases a with
  | list l => exact (h l rfl).elim
  | _ => decide

theorem IsScalar.not_mem_keys_of_mem {a : FieldAttr} (h : a.IsScalar) (l : ListAttr) :
    ∀ k ∈ a.spellings, k ∉ l.keys ∧ k ≠ l.key := by
  cases a with
  | list l => exact (h l rfl).elim
  | _ => cases l <;> decide

end FieldAttr

namespace ListAttr

theorem mem_keys_of_ofKey? {k : String} {l : ListAttr} (h : ofKey? k = some l) : k ∈ l.keys := by
  have hcontains : l.keys.contains k = true := List.find?_some (p := fun a : ListAttr => a.keys.contains k) h
  exact List.contains_iff_mem.mp hcontains

theorem ofKey?_eq_some {k : String} {l : ListAttr} : ofKey? k = some l ↔ k ∈ l.keys := by
  refine ⟨mem_keys_of_ofKey?, fun hk => ?_⟩
  cases h : ofKey? k with
  | none => exact absurd (List.contains_iff_mem.mpr hk) (List.find?_eq_none.mp h l l.mem_all)
  | some b =>
    by_contra hne
    exact (not_mem_keys (fun hb => hne (congrArg some hb)) k hk).1 (mem_keys_of_ofKey? h)

end ListAttr

/-- A key stands for one attribute at most. -/
theorem FieldAttr.eq_of_accepts {a b : FieldAttr} {k : String} (ha : a.accepts (.str k) = true)
    (hb : b.accepts (.str k) = true) : a = b := by
  have hkeys : ∀ a ∈ all, ∀ b ∈ all, a.key = b.key → a = b := by decide
  rcases a.isScalar_or with hsa | ⟨l, rfl⟩
  · rw [hsa.accepts_eq, beq_iff_eq] at ha
    rcases b.isScalar_or with hsb | ⟨m, rfl⟩
    · rw [hsb.accepts_eq, beq_iff_eq] at hb
      exact hkeys a a.mem_all b b.mem_all (ha.symm.trans hb)
    · exact absurd (List.contains_iff_mem.mp hb) (ha ▸ (hsa.not_mem_keys .snake m).1)
  · have hl : snakeKey k ∈ l.keys := List.contains_iff_mem.mp ha
    rcases b.isScalar_or with hsb | ⟨m, rfl⟩
    · rw [hsb.accepts_eq, beq_iff_eq] at hb
      exact absurd (hb ▸ hl) (hsb.not_mem_keys .snake l).1
    · by_contra hne
      have hlm : m ≠ l := fun h => hne (congrArg FieldAttr.list h.symm)
      exact (ListAttr.not_mem_keys hlm _ hl).1 (List.contains_iff_mem.mp hb)

namespace Normal

variable {es es' ps : Entries} {a : FieldAttr} {k : Scalar} {d : Doc}

theorem bind_eq_ok {ε α β : Type} {x : Except ε α} {f : α → Except ε β} {b : β} :
    (x >>= f) = .ok b ↔ ∃ a, x = .ok a ∧ f a = .ok b := by
  cases x <;> simp [bind, Except.bind]

/-! ## One entry of a field rule -/

theorem addEntry_eq_ok (h : addEntry es k d = .ok es') : ∃ t, k = .str t ∧
    ((∃ l : ListAttr, snakeKey t ∈ l.keys ∧ es' = es.set l.key (.list (itemsAt es l.key ++ d.toItems))) ∨
      ((∀ l : ListAttr, snakeKey t ∉ l.keys) ∧ es' = es.set (snakeKey t) d)) := by
  rw [addEntry.eq_def] at h
  split at h
  · rename_i t
    refine ⟨t, rfl, ?_⟩
    dsimp only at h
    split at h
    · rename_i l hl
      exact .inl ⟨l, ListAttr.ofKey?_eq_some.mp hl, (Except.ok.inj h).symm⟩
    · rename_i hnone
      refine .inr ⟨fun l hl => ?_, (Except.ok.inj h).symm⟩
      rw [ListAttr.ofKey?_eq_some.mpr hl] at hnone
      cases hnone
  · cases h

/-- One entry changes the attribute that its key stands for. -/
theorem get?_addEntry (h : addEntry es k d = .ok es') (a : FieldAttr) :
    es'.get? a.key = if a.accepts k then a.add (es.get? a.key) d else es.get? a.key := by
  obtain ⟨t, rfl, ⟨l, hl, rfl⟩ | ⟨hl, rfl⟩⟩ := addEntry_eq_ok h
  · rcases a.isScalar_or with ha | ⟨b, rfl⟩
    · obtain ⟨hkeys, hne⟩ := ha.not_mem_keys .snake l
      have haccepts : a.accepts (.str t) = false := by
        rw [ha.accepts_eq]
        exact beq_false_of_ne fun heq => hkeys (heq ▸ hl)
      rw [haccepts, if_neg Bool.false_ne_true]
      exact Entries.get?_set_of_ne hne es
    · change Entries.get? _ b.key = if b.keys.contains (snakeKey t) = true then _ else _
      by_cases hlb : b = l
      · subst hlb
        rw [if_pos (List.contains_iff_mem.mpr hl)]
        exact Entries.get?_set_self _ _ _
      · have hb := ListAttr.not_mem_keys hlb (snakeKey t) hl
        have hkey := ListAttr.not_mem_keys (Ne.symm hlb) b.key (b.spell_mem_keys .snake)
        rw [if_neg (mt List.contains_iff_mem.mp hb.1)]
        exact Entries.get?_set_of_ne hkey.2 es
  · rcases a.isScalar_or with ha | ⟨b, rfl⟩
    · rw [ha.accepts_eq, ha.add_eq]
      by_cases hkey : snakeKey t = a.key
      · rw [if_pos (beq_iff_eq.mpr hkey), hkey]
        exact Entries.get?_set_self _ _ _
      · rw [if_neg (mt beq_iff_eq.mp hkey)]
        exact Entries.get?_set_of_ne (Ne.symm hkey) es
    · change Entries.get? _ b.key = if b.keys.contains (snakeKey t) = true then _ else _
      rw [if_neg (mt List.contains_iff_mem.mp (hl b))]
      exact Entries.get?_set_of_ne (ne_of_mem_of_not_mem (b.spell_mem_keys .snake) (hl b)) es

/-! ## Folded mappings -/

/-- A mapping in which each attribute stands under its own key alone, and each list is a list. -/
structure Folded (es : Entries) : Prop where
  only : ∀ a : FieldAttr, ∀ k ∈ a.spellings, k ≠ a.key → es.get? k = none
  list : ∀ (l : ListAttr) (d : Doc), es.get? l.key = some d → ∃ ds, d = .list ds

theorem folded_nil : Folded [] :=
  ⟨fun _ _ _ _ => rfl, fun _ _ h => by cases h⟩

/-- What a folded mapping gives for an attribute stands under its key. -/
theorem Folded.given_eq (h : Folded es) (a : FieldAttr) : a.given es = es.get? a.key := by
  rcases a.isScalar_or with ha | ⟨l, rfl⟩
  · rw [ha.given_eq, Entries.attr?]
    split
    · rename_i d hd
      by_cases hkey : KeyStyle.kebab.spell a.key = a.key
      · rw [hkey] at hd
        exact hd.symm
      · rw [h.only a _ (a.spell_mem_spellings .kebab) hkey] at hd
        cases hd
    · cases es.get? a.key <;> rfl
  · change (es.merged? l.keys).map Doc.list = es.get? l.key
    cases hget : es.get? l.key with
    | none =>
      have hnone : ∀ k ∈ l.keys, es.get? k = none := by
        intro k hk
        by_cases hkey : k = l.key
        · rw [hkey, hget]
        · exact h.only (.list l) k hk hkey
      have hany : ¬ l.keys.any es.has = true := by
        rw [List.any_eq_true]
        rintro ⟨k, hk, hhas⟩
        rw [Entries.has, hnone k hk] at hhas
        cases hhas
      rw [Entries.merged?, if_neg hany]
      rfl
    | some d =>
      obtain ⟨ds, rfl⟩ := h.list l d hget
      rw [Entries.merged?_of_only l.nodup_keys (l.spell_mem_keys .snake) hget fun k hk => h.only (.list l) k hk]
      rfl

theorem Folded.addEntry (h : Folded es) (he : addEntry es k d = .ok es') : Folded es' := by
  refine ⟨?_, ?_⟩
  · intro a k hk hne
    have hold := h.only a k hk hne
    obtain ⟨t, -, ⟨l, hl, rfl⟩ | ⟨hl, rfl⟩⟩ := addEntry_eq_ok he
    · have hkl : k ≠ l.key := by
        rcases a.isScalar_or with ha | ⟨b, rfl⟩
        · exact (ha.not_mem_keys_of_mem l k hk).2
        · by_cases hlb : b = l
          · subst hlb
            exact hne
          · exact (ListAttr.not_mem_keys (Ne.symm hlb) k hk).2
      rwa [Entries.get?_set_of_ne hkl]
    · have hkt : k ≠ snakeKey t := by
        rcases a.isScalar_or with ha | ⟨b, rfl⟩
        · exact (snakeKey_ne_of_hyphen (ha.hyphen_mem hk hne) t).symm
        · exact ne_of_mem_of_not_mem hk (hl b)
      rwa [Entries.get?_set_of_ne hkt]
  · intro l d' hd'
    rw [show l.key = FieldAttr.key (.list l) from rfl, get?_addEntry he] at hd'
    split at hd'
    · exact ⟨_, (Option.some.inj hd').symm⟩
    · exact h.list l d' hd'

theorem distinct_addEntry (h : es.Distinct) (he : addEntry es k d = .ok es') : es'.Distinct := by
  obtain ⟨t, -, ⟨l, -, rfl⟩ | ⟨-, rfl⟩⟩ := addEntry_eq_ok he
  · exact h.set _ _
  · exact h.set _ _

/-! ## Field rules -/

/-- All entries leave under the key of an attribute what the entries for the attribute add up to. -/
theorem get?_addEntries : ∀ {ps es es' : Entries}, addEntries es ps = .ok es' → ∀ a : FieldAttr,
    es'.get? a.key = (ps.under a.accepts).foldl a.add (es.get? a.key)
  | [], _, _, h, a => by
    cases h
    rfl
  | (k, d) :: ps, es, es', h, a => by
    obtain ⟨es₁, h1, h2⟩ := bind_eq_ok.mp h
    rw [get?_addEntries h2 a, get?_addEntry h1 a, Entries.under_cons]
    split <;> rfl

/-- What one entry preserves, all of them do. -/
theorem addEntries_preserves {P : Entries → Prop}
    (hstep : ∀ {es es' : Entries} {k : Scalar} {d : Doc}, P es → addEntry es k d = .ok es' → P es') :
    ∀ {ps es es' : Entries}, P es → Normal.addEntries es ps = .ok es' → P es'
  | [], _, _, h, he => by
    cases he
    exact h
  | (k, d) :: ps, es, es', h, he => by
    obtain ⟨es₁, h1, h2⟩ := bind_eq_ok.mp he
    exact addEntries_preserves hstep (hstep h h1) h2

theorem Folded.addEntries (h : Folded es) (he : Normal.addEntries es ps = .ok es') : Folded es' :=
  addEntries_preserves Folded.addEntry h he

theorem distinct_addEntries (h : es.Distinct) (he : Normal.addEntries es ps = .ok es') : es'.Distinct :=
  addEntries_preserves distinct_addEntry h he

/-- What the normal form gives for an attribute: what the entries for the attribute add up to. -/
theorem given_addEntries (h : Normal.addEntries [] ps = .ok es') (a : FieldAttr) :
    a.given es' = (ps.under a.accepts).foldl a.add none := by
  rw [(folded_nil.addEntries h).given_eq, get?_addEntries h]
  rfl

theorem exists_addEntries : ∀ {ps : Entries}, (∀ e ∈ ps, ∃ t, e.1 = .str t) → ∀ es : Entries,
    ∃ es', Normal.addEntries es ps = .ok es'
  | [], _, es => ⟨es, rfl⟩
  | (k, d) :: ps, h, es => by
    obtain ⟨t, rfl⟩ : ∃ t, k = .str t := h _ List.mem_cons_self
    obtain ⟨es₁, h1⟩ : ∃ es₁, addEntry es (.str t) d = .ok es₁ := by
      rw [addEntry]
      split <;> exact ⟨_, rfl⟩
    obtain ⟨es', h2⟩ := exists_addEntries (fun e he => h e (List.mem_cons_of_mem _ he)) es₁
    exact ⟨es', bind_eq_ok.mpr ⟨es₁, h1, h2⟩⟩

/-- The mapping that a document of a slot stands for: a selector and a list of selectors are its selectors. -/
def mapping? : Doc → Option Entries
  | .map es => some es
  | .scalar (.str s) => some [(.str "selectors", .str s)]
  | .list ds => some [(.str "selectors", .list ds)]
  | _ => none

theorem field_of_mapping? {es : Entries} (h : mapping? d = some es) :
    field d = (Normal.addEntries [] es).map .map := by
  rw [mapping?.eq_def] at h
  split at h <;> cases h <;> rfl

theorem field_eq_ok_of_mapping? {es : Entries} {d' : Doc} (h : mapping? d = some es) (hd : field d = .ok d') :
    ∃ es', Normal.addEntries [] es = .ok es' ∧ d' = .map es' := by
  rw [field_of_mapping? h] at hd
  cases hes : Normal.addEntries [] es with
  | error e =>
    rw [hes] at hd
    cases hd
  | ok es' =>
    rw [hes] at hd
    exact ⟨es', rfl, (Except.ok.inj hd).symm⟩

theorem field_of_mapping?_eq_none (h : mapping? d = none) : field d = .ok d := by
  rw [mapping?.eq_def] at h
  split at h
  · cases h
  · cases h
  · cases h
  · rename_i h1 h2 h3
    rw [field.eq_def]
    split
    · exact (h2 _ rfl).elim
    · exact (h3 _ rfl).elim
    · exact (h1 _ rfl).elim
    · rfl

end Normal

/-! ## One slot of a rule document -/

namespace Slot

/-- Whether a key of a rule document stands for a slot. -/
def accepts (s : Slot) : Scalar → Bool
  | .str k => s.key == k || s.snakeKey == k
  | _ => false

theorem eq_of_accepts {s t : Slot} {k : String} (hs : s.accepts (.str k) = true) (ht : t.accepts (.str k) = true) :
    s = t := by
  have hkeys : ∀ s ∈ all, ∀ t ∈ all, s ≠ t → s.key ≠ t.key ∧ s.key ≠ t.snakeKey ∧ s.snakeKey ≠ t.snakeKey := by
    decide +kernel
  rw [accepts, Bool.or_eq_true, beq_iff_eq, beq_iff_eq] at hs ht
  by_contra hne
  obtain ⟨h1, h2, h3⟩ := hkeys s (RuleSet.mem_slots s) t (RuleSet.mem_slots t) hne
  obtain ⟨-, h4, -⟩ := hkeys t (RuleSet.mem_slots t) s (RuleSet.mem_slots s) (Ne.symm hne)
  rcases hs with rfl | rfl <;> rcases ht with ht | ht
  · exact h1 ht.symm
  · exact h2 ht.symm
  · exact h4 ht
  · exact h3 ht.symm

theorem accepts_of_ofKey? {s : Slot} {k : String} (h : ofKey? k = some s) : s.accepts (.str k) = true :=
  List.find?_some (p := fun t : Slot => t.key == k || t.snakeKey == k) h

theorem accepts_snakeKey (s : Slot) : s.accepts (.str s.snakeKey) = true := by
  rw [accepts, beq_self_eq_true, Bool.or_true]

/-- The kebab-case spelling of the snake-case key of a slot is its key. -/
theorem spell_snakeKey (s : Slot) : KeyStyle.kebab.spell s.snakeKey = s.key := by
  cases s <;> rfl

theorem accepts_key (s : Slot) : s.accepts (.str s.key) = true := by
  rw [accepts, beq_self_eq_true, Bool.true_or]

theorem accepts_root (s : Slot) : s.accepts (.str "root") = false := by
  cases s <;> decide

end Slot

namespace Normal

variable {es es' ps : Entries} {k : Scalar} {d : Doc} {s : Slot}

theorem addSlot_eq_ok (h : addSlot es k d = .ok es') : ∃ t, k = .str t ∧
    ((∃ s d', Slot.accepts s (.str t) = true ∧ field d = .ok d' ∧ es' = es.set s.snakeKey d') ∨
      ((∀ s : Slot, s.accepts (.str t) = false) ∧ es' = es.set t d)) := by
  rw [addSlot.eq_def] at h
  split at h
  · rename_i t
    refine ⟨t, rfl, ?_⟩
    split at h
    · rename_i s hs
      cases hd : field d with
      | error e =>
        rw [hd] at h
        cases h
      | ok d' =>
        rw [hd] at h
        exact .inl ⟨s, d', Slot.accepts_of_ofKey? hs, rfl, (Except.ok.inj h).symm⟩
    · rename_i hnone
      refine .inr ⟨fun s => ?_, (Except.ok.inj h).symm⟩
      exact Bool.not_eq_true _ ▸ List.find?_eq_none.mp hnone s (RuleSet.mem_slots s)
  · cases h

/-- One entry changes the slot that its key stands for. -/
theorem get?_addSlot (h : addSlot es k d = .ok es') (s : Slot) :
    (s.accepts k = true ∧ ∃ d', field d = .ok d' ∧ es'.get? s.snakeKey = some d') ∨
      (s.accepts k = false ∧ es'.get? s.snakeKey = es.get? s.snakeKey) := by
  obtain ⟨t, rfl, ⟨s', d', hs', hd', rfl⟩ | ⟨hnone, rfl⟩⟩ := addSlot_eq_ok h
  · by_cases hss : s = s'
    · subst hss
      exact .inl ⟨hs', d', hd', Entries.get?_set_self _ _ _⟩
    · refine .inr ⟨?_, Entries.get?_set_of_ne ?_ es⟩
      · exact Bool.not_eq_true _ ▸ fun hs => hss (Slot.eq_of_accepts hs hs')
      · intro hkey
        exact hss (Slot.eq_of_accepts s.accepts_snakeKey (hkey ▸ s'.accepts_snakeKey))
  · refine .inr ⟨hnone s, Entries.get?_set_of_ne ?_ es⟩
    intro hkey
    exact Bool.false_ne_true ((hnone s).symm.trans (hkey ▸ s.accepts_snakeKey))

/-- A mapping in which each slot stands under its snake-case key alone. -/
def SlotsFolded (es : Entries) : Prop :=
  ∀ s : Slot, s.key ≠ s.snakeKey → es.get? s.key = none

theorem slotsFolded_nil : SlotsFolded [] :=
  fun _ _ => rfl

theorem SlotsFolded.addSlot (h : SlotsFolded es) (he : addSlot es k d = .ok es') : SlotsFolded es' := by
  intro s hs
  have hold := h s hs
  obtain ⟨t, -, ⟨s', d', -, -, rfl⟩ | ⟨hnone, rfl⟩⟩ := addSlot_eq_ok he
  · have hne : s.key ≠ s'.snakeKey := by
      intro hkey
      have hss : s = s' := Slot.eq_of_accepts s.accepts_key (hkey ▸ s'.accepts_snakeKey)
      exact hs (hss ▸ hkey)
    rwa [Entries.get?_set_of_ne hne]
  · have hne : s.key ≠ t := by
      rintro rfl
      exact Bool.false_ne_true ((hnone s).symm.trans s.accepts_key)
    rwa [Entries.get?_set_of_ne hne]

theorem distinct_addSlot (h : es.Distinct) (he : addSlot es k d = .ok es') : es'.Distinct := by
  obtain ⟨t, -, ⟨s, d', -, -, rfl⟩ | ⟨-, rfl⟩⟩ := addSlot_eq_ok he
  · exact h.set _ _
  · exact h.set _ _

/-- One entry whose key stands for no slot is kept as it is. -/
theorem get?_addSlot_of_not_slot {t : String} (ht : ∀ s : Slot, s.accepts (.str t) = false)
    (h : addSlot es k d = .ok es') : es'.get? t = if k = .str t then some d else es.get? t := by
  obtain ⟨u, rfl, ⟨s, d', hs, -, rfl⟩ | ⟨-, rfl⟩⟩ := addSlot_eq_ok h
  · have hu : u ≠ t := by
      rintro rfl
      exact Bool.false_ne_true ((ht s).symm.trans hs)
    have hne : t ≠ s.snakeKey := by
      rintro rfl
      exact Bool.false_ne_true ((ht s).symm.trans s.accepts_snakeKey)
    rw [if_neg fun heq => hu (Scalar.str.inj heq), Entries.get?_set_of_ne hne]
  · by_cases hu : u = t
    · subst hu
      rw [if_pos rfl, Entries.get?_set_self]
    · rw [if_neg fun heq => hu (Scalar.str.inj heq), Entries.get?_set_of_ne (Ne.symm hu)]

/-! ## Rule documents -/

/-- What one entry preserves, all of them do. -/
theorem addSlots_preserves {P : Entries → Prop}
    (hstep : ∀ {es es' : Entries} {k : Scalar} {d : Doc}, P es → addSlot es k d = .ok es' → P es') :
    ∀ {ps es es' : Entries}, P es → Normal.addSlots es ps = .ok es' → P es'
  | [], _, _, h, he => by
    cases he
    exact h
  | (k, d) :: ps, es, es', h, he => by
    obtain ⟨es₁, h1, h2⟩ := bind_eq_ok.mp he
    exact addSlots_preserves hstep (hstep h h1) h2

theorem SlotsFolded.addSlots (h : SlotsFolded es) (he : Normal.addSlots es ps = .ok es') : SlotsFolded es' :=
  addSlots_preserves SlotsFolded.addSlot h he

theorem distinct_addSlots (h : es.Distinct) (he : Normal.addSlots es ps = .ok es') : es'.Distinct :=
  addSlots_preserves distinct_addSlot h he

theorem get?_addSlots_of_not_slot {t : String} (ht : ∀ s : Slot, s.accepts (.str t) = false) :
    ∀ {ps es es' : Entries}, Normal.addSlots es ps = .ok es' →
      es'.get? t = (ps.under fun k => k = .str t).getLast?.or (es.get? t)
  | [], _, _, h => by
    cases h
    rfl
  | (k, d) :: ps, es, es', h => by
    obtain ⟨es₁, h1, h2⟩ := bind_eq_ok.mp h
    rw [get?_addSlots_of_not_slot ht h2, get?_addSlot_of_not_slot ht h1, Entries.under_cons]
    by_cases hk : k = .str t
    · rw [if_pos hk, if_pos (decide_eq_true hk), List.getLast?_cons]
      cases List.getLast? (Entries.under (fun k => k = .str t) ps) <;> rfl
    · rw [if_neg hk, if_neg (mt of_decide_eq_true hk)]

/-- All entries leave under the key of a slot the normal form of the last entry for the slot. -/
theorem get?_addSlots : ∀ {ps es es' : Entries}, Normal.addSlots es ps = .ok es' → ∀ s : Slot,
    (∃ d d', (ps.under s.accepts).getLast? = some d ∧ field d = .ok d' ∧ es'.get? s.snakeKey = some d') ∨
      (ps.under s.accepts = [] ∧ es'.get? s.snakeKey = es.get? s.snakeKey)
  | [], _, _, h, s => by
    cases h
    exact .inr ⟨rfl, rfl⟩
  | (k, d) :: ps, es, es', h, s => by
    obtain ⟨es₁, h1, h2⟩ := bind_eq_ok.mp h
    rw [Entries.under_cons]
    rcases get?_addSlots h2 s with ⟨e, e', hlast, he, hget⟩ | ⟨hnil, hget⟩
    · refine .inl ⟨e, e', ?_, he, hget⟩
      split
      · rw [List.getLast?_cons, hlast]
        rfl
      · exact hlast
    · rcases get?_addSlot h1 s with ⟨hs, d', hd, hget'⟩ | ⟨hs, hget'⟩
      · rw [if_pos hs, hnil]
        exact .inl ⟨d, d', rfl, hd, hget.trans hget'⟩
      · rw [if_neg (Bool.eq_false_iff.mp hs)]
        exact .inr ⟨hnil, hget.trans hget'⟩

theorem exists_field (h : ∀ es, mapping? d = some es → ∀ e ∈ es, ∃ t, e.1 = .str t) : ∃ d', field d = .ok d' := by
  cases hd : mapping? d with
  | none => exact ⟨d, field_of_mapping?_eq_none hd⟩
  | some es =>
    obtain ⟨es', hes'⟩ := exists_addEntries (h es hd) []
    refine ⟨.map es', ?_⟩
    rw [field_of_mapping? hd, hes']
    rfl

/-- A rule document whose keys are strings has a normal form. -/
theorem exists_addSlots : ∀ {ps : Entries}, (∀ e ∈ ps, ∃ t, e.1 = .str t) →
    (∀ (s : Slot) (d : Doc), d ∈ ps.under s.accepts → ∀ inner, mapping? d = some inner →
      ∀ e ∈ inner, ∃ t, e.1 = .str t) →
    ∀ es : Entries, ∃ es', Normal.addSlots es ps = .ok es'
  | [], _, _, es => ⟨es, rfl⟩
  | (k, d) :: ps, hkeys, hinner, es => by
    obtain ⟨t, rfl⟩ : ∃ t, k = .str t := hkeys _ List.mem_cons_self
    obtain ⟨es₁, h1⟩ : ∃ es₁, addSlot es (.str t) d = .ok es₁ := by
      rw [addSlot]
      split
      · rename_i s hs
        have hd : d ∈ Entries.under s.accepts ((.str t, d) :: ps) := by
          rw [Entries.under_cons, if_pos (Slot.accepts_of_ofKey? hs)]
          exact List.mem_cons_self
        obtain ⟨d', hd'⟩ := exists_field (hinner s d hd)
        exact ⟨_, by rw [hd']; rfl⟩
      · exact ⟨_, rfl⟩
    have hrest : ∀ (s : Slot) (e : Doc), e ∈ Entries.under s.accepts ps →
        e ∈ Entries.under s.accepts ((.str t, d) :: ps) := by
      intro s e he
      rw [Entries.under_cons]
      split
      · exact List.mem_cons_of_mem d he
      · exact he
    obtain ⟨es', h2⟩ := exists_addSlots (fun e he => hkeys e (List.mem_cons_of_mem _ he))
      (fun s e he => hinner s e (hrest s e he)) es₁
    exact ⟨es', bind_eq_ok.mpr ⟨es₁, h1, h2⟩⟩

/-- A slot is read from what stands under its key. -/
theorem SlotsFolded.readSlot_eq_ok (h : SlotsFolded es) {f? : Option FieldRule} : RuleSet.readSlot es s = .ok f? ↔
    (es.get? s.snakeKey = none ∧ f? = none) ∨
      ∃ d, es.get? s.snakeKey = some d ∧
        Decoded.optional (fun d => FieldRule.ofDoc (RuleSet.named s d)) d = .ok f? := by
  have hattr : (es.attr? s.snakeKey).map Prod.snd = es.get? s.snakeKey := by
    rw [Entries.attr?_map_snd, s.spell_snakeKey]
    by_cases hkey : s.key = s.snakeKey
    · rw [hkey, Option.or_self]
    · rw [h s hkey, Option.none_or]
  rw [RuleSet.readSlot_eq_ok, hattr]

end Normal

end Excerpt
