import Excerpt.Proofs.Text.Lines
import Excerpt.Url.Srcset
import Mathlib.Data.List.DropRight
import Mathlib.Data.List.Nodup

/-!
# Source sets that are read back

A `Srcset.Source` is an address with a descriptor as they can be written in a source set: without white space in either,
and without commas at the ends of the address or in the descriptor. `Srcset.write` puts several of them together.

Commas inside an address cut it: what is read of a written source is the last piece of its address with the descriptor,
and the earlier pieces without one (`exists_entries_text`, `filter_entries_write`). Hence the main statement
`Srcset.pick?_write_iff`: an address is read back exactly if there is no comma in it.
-/

namespace Excerpt.Srcset

/-- An address and a descriptor that can be written as an entry of a source set. -/
structure Source extends Entry where
  url_ne_nil : url ≠ []
  url_char : ∀ c ∈ url, Text.isSpace c = false
  head_ne_comma : url.head? ≠ some ','
  last_ne_comma : url.getLast? ≠ some ','
  descriptor_ne_nil : descriptor ≠ []
  descriptor_char : ∀ c ∈ descriptor, Text.isSpace c = false ∧ c ≠ ','

/-- The source as it is written. -/
def Source.text (s : Source) : Text :=
  s.url ++ ' ' :: s.descriptor

/-- The sources as a source set. -/
def write (ss : List Source) : Text :=
  Text.join [',', ' '] (ss.map Source.text)

/-! ## Reading entry by entry -/

section Entries

variable {a b t : Text}

/-- At a comma, one entry ends and the next one begins. -/
theorem entries_append_comma (a b : Text) : entries (a ++ ',' :: b) = entries a ++ entries b := by
  rw [entries, Text.splitOn_append_cons, List.map_append, List.filter_append, List.map_append]
  rfl

/-- A blank behind a comma does not belong to the entry. -/
theorem entries_blank_cons (t : Text) : entries (' ' :: t) = entries t := by
  obtain ⟨w, ws, hw⟩ := List.exists_cons_of_ne_nil (Text.splitOn_ne_nil ',' t)
  have htrim : Text.trim (' ' :: w) = Text.trim w := Text.trimBy_cons_of_pos (by decide) w
  rw [entries, entries, Text.splitOn_cons_of_ne (by decide) hw, hw, List.map_cons, List.map_cons, htrim]

theorem trim_eq_self (h : ∀ c ∈ t, Text.isSpace c = false) : Text.trim t = t := by
  have hstart : t.dropWhile Text.isSpace = t := by
    cases t with
    | nil => rfl
    | cons c t => exact List.dropWhile_cons_of_neg (by simp [h c List.mem_cons_self])
  rw [Text.trim, Text.trimBy, Text.trimStart, hstart, Text.trimEnd_eq_self h]

theorem not_mem_of_not_space (h : ∀ c ∈ t, Text.isSpace c = false) : ' ' ∉ t := by
  intro hmem
  exact absurd (h ' ' hmem) (by decide)

theorem entries_of_trim_eq (ht : ',' ∉ t) (htrim : Text.trim t = t) (hne : t ≠ []) : entries t = [Entry.ofItem t] := by
  obtain ⟨c, r, rfl⟩ := List.exists_cons_of_ne_nil hne
  rw [entries, Text.splitOn_of_not_mem ht, List.map_singleton, htrim]
  rfl

/-- A text without commas and white space is an entry without a descriptor. -/
theorem entries_bare (ha : ∀ c ∈ a, Text.isSpace c = false) (hcomma : ',' ∉ a) (hne : a ≠ []) :
    entries a = [⟨a, []⟩] := by
  rw [entries_of_trim_eq hcomma (trim_eq_self ha) hne, Entry.ofItem, Text.cut?_of_not_mem (not_mem_of_not_space ha)]

/-- Nothing in a text without white space has a descriptor. -/
theorem descriptor_of_mem_entries (ha : ∀ c ∈ a, Text.isSpace c = false) {e : Entry} (he : e ∈ entries a) :
    e.descriptor = [] := by
  obtain ⟨item, hitem, rfl⟩ := List.mem_map.mp he
  obtain ⟨piece, hpiece, rfl⟩ := List.mem_map.mp (List.mem_filter.mp hitem).1
  have hbare : ∀ c ∈ Text.trim piece, Text.isSpace c = false := fun c hc =>
    ha c (Text.mem_of_mem_splitOn hpiece (Text.mem_of_mem_trim hc))
  rw [Entry.ofItem, Text.cut?_of_not_mem (not_mem_of_not_space hbare)]

/-- A text without commas and white space in front of a descriptor is an entry with it. -/
theorem entries_described (s : Source) (ha : ∀ c ∈ a, Text.isSpace c = false) (hcomma : ',' ∉ a) (hne : a ≠ []) :
    entries (a ++ ' ' :: s.descriptor) = [⟨a, s.descriptor⟩] := by
  have hdescriptor : Text.trim s.descriptor = s.descriptor := trim_eq_self fun c hc => (s.descriptor_char c hc).1
  have hend : Text.trimEnd Text.isSpace (' ' :: s.descriptor) = ' ' :: s.descriptor := by
    have hkept : Text.trimEnd Text.isSpace s.descriptor = s.descriptor :=
      Text.trimEnd_eq_self fun c hc => (s.descriptor_char c hc).1
    rw [Text.trimEnd_cons_of_ne_nil (by rw [hkept]; exact s.descriptor_ne_nil), hkept]
  have htrim : Text.trim (a ++ ' ' :: s.descriptor) = a ++ ' ' :: s.descriptor := by
    obtain ⟨c, a, rfl⟩ := List.exists_cons_of_ne_nil hne
    have hc : Text.isSpace c = false := ha c List.mem_cons_self
    rw [Text.trim, List.cons_append, Text.trimBy_cons_of_not hc,
      Text.trimEnd_append_of_ne_nil (by rw [hend]; exact List.cons_ne_nil _ _), hend]
  have hcommas : ',' ∉ a ++ ' ' :: s.descriptor := by
    rw [List.mem_append, List.mem_cons, not_or, not_or]
    exact ⟨hcomma, by decide, fun hmem => (s.descriptor_char ',' hmem).2 rfl⟩
  rw [entries_of_trim_eq hcommas htrim (List.append_ne_nil_of_left_ne_nil hne _), Entry.ofItem,
    Text.cut?_append_cons _ (not_mem_of_not_space ha)]
  dsimp only
  rw [hdescriptor]

end Entries

/-! ## Pieces of an address -/

section Pieces

variable {t : Text}

/-- A text with a comma is split at its last one. -/
theorem exists_last_comma : ∀ {t : Text}, ',' ∈ t → ∃ front piece, t = front ++ ',' :: piece ∧ ',' ∉ piece
  | c :: t, h => by
    by_cases ht : ',' ∈ t
    · obtain ⟨front, piece, rfl, hpiece⟩ := exists_last_comma ht
      exact ⟨c :: front, piece, rfl, hpiece⟩
    · obtain rfl : ',' = c := (List.mem_cons.mp h).resolve_right ht
      exact ⟨[], t, rfl, ht⟩

theorem forall_ne_comma : (∀ c ∈ t, (c != ',') = true) ↔ ',' ∉ t :=
  ⟨fun h hmem => by simpa using h ',' hmem, fun h c hc => bne_iff_ne.mpr fun he => h (he ▸ hc)⟩

theorem rtakeWhile_eq_self_iff : t.rtakeWhile (· != ',') = t ↔ ',' ∉ t :=
  List.rtakeWhile_eq_self_iff.trans forall_ne_comma

theorem takeWhile_eq_self_iff : t.takeWhile (· != ',') = t ↔ ',' ∉ t :=
  List.takeWhile_eq_self_iff.trans forall_ne_comma

theorem rtakeWhile_append_comma (front : Text) {piece : Text} (h : ',' ∉ piece) :
    (front ++ ',' :: piece).rtakeWhile (· != ',') = piece := by
  have hall : ∀ c ∈ piece.reverse, (c != ',') = true := forall_ne_comma.mpr (mt List.mem_reverse.mp h)
  rw [List.rtakeWhile, List.reverse_append, List.reverse_cons, List.append_assoc, List.takeWhile_append_of_pos hall,
    List.singleton_append, List.takeWhile_cons_of_neg (by decide), List.append_nil, List.reverse_reverse]

theorem takeWhile_append_comma {piece : Text} (h : ',' ∉ piece) (rest : Text) :
    (piece ++ ',' :: rest).takeWhile (· != ',') = piece := by
  rw [List.takeWhile_append_of_pos (forall_ne_comma.mpr h), List.takeWhile_cons_of_neg (by decide), List.append_nil]

end Pieces

/-! ## One source -/

namespace Source

/-- What is read of a source under its descriptor: the last piece of its address. -/
def cropped (s : Source) : Entry :=
  ⟨s.url.rtakeWhile (· != ','), s.descriptor⟩

variable (s : Source)

/-- The last piece of an address is read with the descriptor, and what is read of the text in front of it has none. -/
theorem exists_entries_text : ∃ front, (∀ c ∈ front, Text.isSpace c = false) ∧
    entries s.text = entries front ++ [s.cropped] := by
  by_cases hcomma : ',' ∈ s.url
  · obtain ⟨front, piece, hurl, hpiece⟩ := exists_last_comma hcomma
    have hchar : ∀ c ∈ front ++ ',' :: piece, Text.isSpace c = false := hurl ▸ s.url_char
    rw [List.forall_mem_append, List.forall_mem_cons] at hchar
    have hne : piece ≠ [] := by
      rintro rfl
      exact s.last_ne_comma (by rw [hurl, List.getLast?_concat])
    refine ⟨front, hchar.1, ?_⟩
    rw [text, cropped, hurl, List.append_assoc, List.cons_append, entries_append_comma,
      entries_described s hchar.2.2 hpiece hne, rtakeWhile_append_comma front hpiece]
  · refine ⟨[], fun c hc => (List.not_mem_nil hc).elim, ?_⟩
    rw [text, cropped, rtakeWhile_eq_self_iff.mpr hcomma, entries_described s s.url_char hcomma s.url_ne_nil]
    rfl

/-- The first piece of an address is what is read first. -/
theorem head?_entries_text : (entries s.text).head?.map Entry.url = some (s.url.takeWhile (· != ',')) := by
  by_cases hcomma : ',' ∈ s.url
  · obtain ⟨piece, rest, hurl, hpiece⟩ := List.eq_append_cons_of_mem hcomma
    have hchar : ∀ c ∈ piece ++ ',' :: rest, Text.isSpace c = false := hurl ▸ s.url_char
    have hne : piece ≠ [] := by
      rintro rfl
      exact s.head_ne_comma (by rw [hurl]; rfl)
    rw [text, hurl, takeWhile_append_comma hpiece, List.append_assoc, List.cons_append, entries_append_comma,
      entries_bare (List.forall_mem_append.mp hchar).1 hpiece hne]
    rfl
  · rw [text, takeWhile_eq_self_iff.mpr hcomma, entries_described s s.url_char hcomma s.url_ne_nil]
    rfl

/-- What is read of a source with a descriptor is its last piece. -/
theorem filter_entries_text : (entries s.text).filter (!·.descriptor.isEmpty) = [s.cropped] := by
  obtain ⟨front, hfront, hread⟩ := s.exists_entries_text
  have hnone : (entries front).filter (!·.descriptor.isEmpty) = [] :=
    List.filter_eq_nil_iff.mpr fun e he => by simp [descriptor_of_mem_entries hfront he]
  have hlast : (!s.cropped.descriptor.isEmpty) = true := by simpa [cropped] using s.descriptor_ne_nil
  rw [hread, List.filter_append, hnone, List.nil_append, List.filter_singleton, hlast, cond_true]

end Source

/-! ## Several sources -/

section Write

variable {ss : List Source}

theorem entries_write_cons (s : Source) (ss : List Source) :
    entries (write (s :: ss)) = entries s.text ++ entries (write ss) := by
  cases ss with
  | nil => exact (List.append_nil _).symm
  | cons s' ss =>
    have hwrite : write (s :: s' :: ss) = s.text ++ ',' :: ' ' :: write (s' :: ss) := by
      rw [write, List.map_cons, List.map_cons, Text.join_cons_cons, List.append_assoc]
      rfl
    rw [hwrite, entries_append_comma, entries_blank_cons]

/-- **What is read with a descriptor is the last piece of each address.** -/
theorem filter_entries_write : ∀ ss : List Source,
    (entries (write ss)).filter (!·.descriptor.isEmpty) = ss.map Source.cropped
  | [] => rfl
  | s :: ss => by
    rw [entries_write_cons, List.filter_append, s.filter_entries_text, filter_entries_write ss]
    rfl

theorem head?_entries_write (s : Source) (ss : List Source) :
    (entries (write (s :: ss))).head?.map Entry.url = some (s.url.takeWhile (· != ',')) := by
  obtain ⟨e, he, hurl⟩ := Option.map_eq_some_iff.mp s.head?_entries_text
  rw [entries_write_cons, List.head?_append, he, ← hurl]
  rfl

/-- The entry that is looked for by a descriptor is looked for among the last pieces. -/
theorem find?_entries_write {size : Text} (hsize : size ≠ []) (ss : List Source) :
    (entries (write ss)).reverse.find? (·.descriptor == size) =
    (ss.map Source.cropped).reverse.find? (·.descriptor == size) := by
  rw [← filter_entries_write, ← List.filter_reverse, List.find?_filter]
  congr 1
  funext e
  cases he : e.descriptor == size with
  | false => simp
  | true => simp [beq_iff_eq.mp he, hsize]

/-- A descriptor that only one source has is looked up there. -/
theorem pick?_of_mem (hdistinct : (ss.map (·.descriptor)).Nodup) {s : Source} (hs : s ∈ ss) :
    pick? (write ss) s.descriptor = some s.cropped.url := by
  have hfound : (ss.map Source.cropped).reverse.find? (·.descriptor == s.descriptor) = some s.cropped := by
    cases hfind : (ss.map Source.cropped).reverse.find? (·.descriptor == s.descriptor) with
    | none =>
      have hnot := List.find?_eq_none.mp hfind s.cropped (List.mem_reverse.mpr (List.mem_map_of_mem hs))
      exact (hnot (beq_self_eq_true s.descriptor)).elim
    | some e =>
      obtain ⟨s', hs', rfl⟩ := List.mem_map.mp (List.mem_reverse.mp (List.mem_of_find?_eq_some hfind))
      have hsome := List.find?_some hfind
      have hsame : s'.descriptor = s.descriptor := beq_iff_eq.mp hsome
      rw [List.inj_on_of_nodup_map hdistinct hs' hs hsame]
  have hempty : s.descriptor.isEmpty = false := by simpa using s.descriptor_ne_nil
  simp only [pick?, hempty, find?_entries_write s.descriptor_ne_nil, hfound]
  rfl

/-- Without a source that has the descriptor, the first piece of the first address is read. -/
theorem pick?_of_forall_ne {s : Source} {size : Text} (hsize : ∀ s' ∈ s :: ss, s'.descriptor ≠ size) :
    pick? (write (s :: ss)) size = some (s.url.takeWhile (· != ',')) := by
  have hnone :
      (if size.isEmpty then none else (entries (write (s :: ss))).reverse.find? (·.descriptor == size)) = none := by
    split
    · rfl
    · rename_i hne
      rw [find?_entries_write (by simpa using hne), List.find?_eq_none]
      intro e he
      obtain ⟨s', hs', rfl⟩ := List.mem_map.mp (List.mem_reverse.mp he)
      simpa [Source.cropped] using hsize s' hs'
  rw [pick?, hnone, ← head?_entries_write s ss]
  rfl

end Write

/-- **Which addresses are read back**: the one with a wanted descriptor, or the first one if no source has the
descriptor, is read up to a comma from behind or from the front. So it is read back exactly if there is no
comma in it. -/
theorem pick?_write_iff (s : Source) (ss : List Source) (hdistinct : ((s :: ss).map (·.descriptor)).Nodup) :
    (∀ s' ∈ s :: ss, pick? (write (s :: ss)) s'.descriptor = some (s'.url.rtakeWhile (· != ',')) ∧
      (pick? (write (s :: ss)) s'.descriptor = some s'.url ↔ ',' ∉ s'.url)) ∧
    ∀ size, (∀ s' ∈ s :: ss, s'.descriptor ≠ size) →
      pick? (write (s :: ss)) size = some (s.url.takeWhile (· != ',')) ∧
        (pick? (write (s :: ss)) size = some s.url ↔ ',' ∉ s.url) := by
  refine ⟨fun s' hs' => ?_, fun size hsize => ?_⟩
  · have hpick : pick? (write (s :: ss)) s'.descriptor = some (s'.url.rtakeWhile (· != ',')) :=
      pick?_of_mem hdistinct hs'
    rw [hpick]
    exact ⟨rfl, Option.some_inj.trans rtakeWhile_eq_self_iff⟩
  · rw [pick?_of_forall_ne hsize]
    exact ⟨rfl, Option.some_inj.trans takeWhile_eq_self_iff⟩

/-- A source whose address has a comma in it. -/
def scaledSource : Source where
  url := "/w_400,h_300/a.jpg".toList
  descriptor := "1x".toList
  url_ne_nil := by decide
  url_char := by simp [Text.isSpace]
  head_ne_comma := by decide
  last_ne_comma := by decide
  descriptor_ne_nil := by decide
  descriptor_char := by simp [Text.isSpace]

/-- A source whose address has none. -/
def largeSource : Source where
  url := "/large/a.jpg".toList
  descriptor := "2x".toList
  url_ne_nil := by decide
  url_char := by simp [Text.isSpace]
  head_ne_comma := by decide
  last_ne_comma := by decide
  descriptor_ne_nil := by decide
  descriptor_char := by simp [Text.isSpace]

/-- The address without a comma is read back, the other one is cut. -/
theorem pick?_write_iff_scaled :
    let ss := [scaledSource, largeSource]
    ((ss.map (·.descriptor)).Nodup ∧ ∀ s ∈ ss, s.descriptor ≠ "3x".toList) ∧
      pick? (write ss) "1x".toList ≠ some scaledSource.url ∧ pick? (write ss) "2x".toList = some largeSource.url ∧
        pick? (write ss) "3x".toList = some "/w_400".toList := by
  intro ss
  have hdistinct : (ss.map (·.descriptor)).Nodup := by decide
  have hother : ∀ s ∈ ss, s.descriptor ≠ "3x".toList := by decide
  obtain ⟨hmem, hfirst⟩ := pick?_write_iff scaledSource [largeSource] hdistinct
  have hscaled := (hmem scaledSource List.mem_cons_self).2
  have hlarge := (hmem largeSource (List.mem_cons_of_mem _ List.mem_cons_self)).2
  exact ⟨⟨hdistinct, hother⟩, mt hscaled.mp (by decide), hlarge.mpr (by decide), (hfirst _ hother).1⟩

/-- An address that is not read back under its descriptor. -/
theorem pick?_cuts_address : ¬ ∀ (s : Source) (ss : List Source), ((s :: ss).map (·.descriptor)).Nodup →
    ∀ s' ∈ s :: ss, pick? (write (s :: ss)) s'.descriptor = some s'.url := by
  intro h
  have hread := h scaledSource [] (by decide) scaledSource List.mem_cons_self
  have hcut : pick? (write [scaledSource]) scaledSource.descriptor = some "h_300/a.jpg".toList := by decide
  rw [hcut] at hread
  exact absurd hread (by decide)

end Excerpt.Srcset
