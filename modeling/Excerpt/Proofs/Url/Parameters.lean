import Excerpt.Proofs.Text.Lines
import Excerpt.Proofs.Url.Untouched

/-!
# Links whose parameters are cut off

A text is `Parameterless` if no query and no fragment begins in it. What is read of such a text has no query and no
fragment, and is written without them (`Url.Clear`); resolving and ending a path put none in. So the normal form of a
link whose parameters are removed is parameterless, if the base path is (`Link.parameterless_normalize?`).

A query or fragment behind a parameterless link does not reach what the link comes to (`Link.prepared_parameters`).
Hence `Link.normalize?_parameters`: whatever stands behind the link, its normal form is the same.
-/

namespace Excerpt

namespace Text

/-- A beginning is looked for in front of a character that it does not hold. -/
theorem dropPrefix?_append_cons {d : Char} (r : Text) : ∀ {p : Text} (t : Text), d ∉ p →
    dropPrefix? p (t ++ d :: r) = (dropPrefix? p t).map (· ++ d :: r)
  | [], _, _ => rfl
  | a :: p, [], h => by
    rw [List.mem_cons, not_or] at h
    simp [dropPrefix?, Ne.symm h.1]
  | a :: p, c :: t, h => by
    rw [List.mem_cons, not_or] at h
    rw [List.cons_append, dropPrefix?, dropPrefix?]
    split
    · exact dropPrefix?_append_cons r t h.2
    · rfl

/-- Trimming does not reach from one side of a character that is no white space to the other. -/
theorem trim_append_cons {d : Char} (hd : isSpace d = false) (t r : Text) :
    trim (t ++ d :: r) = trimStart isSpace t ++ d :: trimEnd isSpace r := by
  have hstart : (t ++ d :: r).dropWhile isSpace = t.dropWhile isSpace ++ d :: r :=
    (takeWhile_append_of_head (fun c hc => Option.some.inj hc ▸ hd) t).2
  have hend : trimEnd isSpace (d :: r) = d :: trimEnd isSpace r := trimEnd_cons_of_not hd r
  rw [trim, trimBy, trimStart, hstart, trimEnd_append_of_ne_nil (by rw [hend]; exact List.cons_ne_nil _ _),
    hend, trimStart]

end Text

namespace Url

/-! ## Texts without parameters -/

/-- A text with neither a question mark nor a number sign. -/
def Parameterless (t : Text) : Prop :=
  ∀ c ∈ t, c ≠ '?' ∧ c ≠ '#'

instance (t : Text) : Decidable (Parameterless t) :=
  List.decidableBAll (fun c => c ≠ '?' ∧ c ≠ '#') t

section Parameterless

variable {a b t : Text}

theorem parameterless_nil : Parameterless [] :=
  fun _ hc => (List.not_mem_nil hc).elim

theorem Parameterless.of_subset (h : Parameterless t) (hsub : ∀ c ∈ a, c ∈ t) : Parameterless a :=
  fun c hc => h c (hsub c hc)

theorem Parameterless.append (ha : Parameterless a) (hb : Parameterless b) : Parameterless (a ++ b) :=
  List.forall_mem_append.mpr ⟨ha, hb⟩

theorem parameterless_singleton {c : Char} (h : c ≠ '?' ∧ c ≠ '#') : Parameterless [c] :=
  List.forall_mem_singleton.mpr h

theorem Parameterless.of_append_left (h : Parameterless (a ++ b)) : Parameterless a :=
  h.of_subset fun _ => List.mem_append_left _

theorem Parameterless.of_append_right (h : Parameterless (a ++ b)) : Parameterless b :=
  h.of_subset fun _ => List.mem_append_right _

theorem Parameterless.delimited {d : Char} (hd : d ≠ '?' ∧ d ≠ '#') (h : Parameterless t) :
    Parameterless (delimited d t) := by
  intro c hc
  rcases mem_delimited hc with rfl | hc
  · exact hd
  · exact h c hc

theorem parameterless_withoutParameters (t : Text) : Parameterless (Link.withoutParameters t) := by
  intro c hc
  simpa using List.mem_takeWhile_imp hc

theorem schemeChar_parameterless : ∀ c, isSchemeChar c = true → c ≠ '?' ∧ c ≠ '#' :=
  forall_schemeChar (by decide)

theorem IsScheme.parameterless {s : Text} (hs : IsScheme s) : Parameterless s :=
  fun c hc => schemeChar_parameterless c (hs.2 c hc)

/-- A part behind a delimiter that does not occur is empty. -/
theorem Behind.eq_nil {d : Char} {part s : Text} (h : Behind d part s) (hd : d ∉ s) : part = [] := by
  rcases h with rfl | ⟨-, hpart⟩
  · exact (hd List.mem_cons_self).elim
  · exact hpart

end Parameterless

/-! ## URLs without parameters -/

/-- A URL that has neither a query nor a fragment, nor the signs of them in its other parts. -/
structure Clear (u : Url) : Prop where
  scheme : Parameterless u.scheme
  netloc : Parameterless u.netloc
  path : Parameterless u.path
  params : Parameterless u.params
  query_eq : u.query = []
  fragment_eq : u.fragment = []

section Clear

variable {scheme t : Text} {u : Url}

/-- **What is read of a parameterless text has no parameters.** -/
theorem clear_of_parseWith? (hscheme : Parameterless scheme) (ht : Parameterless t) (h : parseWith? scheme t = some u) :
    Clear u := by
  obtain ⟨found, rest, front, hfound, hclean, hfront⟩ := exists_splitScheme (clean t)
  obtain ⟨netloc, body, opening, hnetloc, rfl, -, hopening⟩ := exists_splitNetloc rest
  obtain ⟨before, fragment, hash, hfragment, rfl, hhash, -⟩ := exists_splitAtFirst '#' body
  obtain ⟨w, query, quest, hquery, rfl, hquest, -⟩ := exists_splitAtFirst '?' before
  have hkept : Parameterless (clean t) :=
    ht.of_subset (List.filter_sublist.trans (List.dropWhile_sublist _)).subset
  rw [hclean] at hkept
  have hbody := hkept.of_append_right.of_append_right
  have hw : Parameterless w := hbody.of_append_left.of_append_left
  have hhost : Parameterless netloc := by
    rcases hopening with ⟨rfl, -⟩ | ⟨-, rfl⟩
    · exact hkept.of_append_right.of_append_left.of_subset fun c hc =>
        List.mem_cons_of_mem _ (List.mem_cons_of_mem _ hc)
    · exact parameterless_nil
  have hname : Parameterless found := by
    rcases hfront with ⟨-, rfl⟩ | ⟨s, hs, -, rfl⟩
    · exact parameterless_nil
    · exact hs.toLower.parameterless
  have hused : Parameterless (if found.isEmpty then scheme else found) := by
    split
    · exact hscheme
    · exact hname
  obtain ⟨path, params, semi, hway, rfl, hsemi, -⟩ := exists_splitWay (if found.isEmpty then scheme else found) w
  have hsplit := hway
  rw [splitWay] at hsplit
  simp only [parseWith?, hfound, hnetloc, hfragment, hquery, hsplit, Option.ite_none_right_eq_some,
    Option.some.injEq] at h
  obtain ⟨-, rfl⟩ := h
  exact
    { scheme := hused
      netloc := hhost
      path := hw.of_append_left
      params := hw.of_append_right.of_subset hsemi.subset
      query_eq := hquest.eq_nil fun hm => (hbody.of_append_left.of_append_right _ hm).1 rfl
      fragment_eq := hhash.eq_nil fun hm => (hbody.of_append_right _ hm).2 rfl }

theorem clear_of_parse? (ht : Parameterless t) (h : parse? t = some u) : Clear u :=
  clear_of_parseWith? parameterless_nil ht h

theorem parameterless_renderPlace {netloc path : Text} (hnetloc : Parameterless netloc) (hpath : Parameterless path) :
    Parameterless (renderPlace scheme netloc path) := by
  intro c hc
  rcases mem_renderPlace hc with rfl | hc | hc
  · decide
  · exact hnetloc c hc
  · exact hpath c hc

/-- **A URL without parameters is written without them.** -/
theorem Clear.render (hu : Clear u) : Parameterless u.render := by
  have hway : Parameterless (u.path ++ Url.delimited ';' u.params) := hu.path.append (hu.params.delimited (by decide))
  have hplace : Parameterless u.place := parameterless_renderPlace hu.netloc hway
  rw [render_eq_body, body, hu.query_eq, hu.fragment_eq]
  refine Parameterless.append ?_ ((hplace.append parameterless_nil).append parameterless_nil)
  split
  · exact parameterless_nil
  · exact hu.scheme.append (parameterless_singleton (by decide))

end Clear

/-! ## Resolving -/

section Resolve

variable {base url joined : Text}

/-- Working off `.` and `..` leaves segments that were there before. -/
theorem mem_of_mem_walk {s : Text} : ∀ {segments done : List Text}, s ∈ walk done segments → s ∈ done ∨ s ∈ segments
  | [], done, h => .inl (List.mem_reverse.mp h)
  | r :: segments, done, h => by
    rw [walk] at h
    split at h
    · exact (mem_of_mem_walk h).imp List.mem_of_mem_tail (List.mem_cons_of_mem _)
    · split at h
      · exact (mem_of_mem_walk h).imp id (List.mem_cons_of_mem _)
      · rcases mem_of_mem_walk h with h | h
        · exact (List.mem_cons.mp h).elim (fun he => .inr (he ▸ List.mem_cons_self)) .inl
        · exact .inr (List.mem_cons_of_mem _ h)

theorem mem_of_mem_dropInnerEmpty {s : Text} : ∀ {segments : List Text}, s ∈ dropInnerEmpty segments → s ∈ segments
  | [], h => h
  | first :: rest, h => by
    rw [dropInnerEmpty] at h
    split at h
    · rw [List.mem_singleton.mp h]
      exact List.mem_cons_self
    · rename_i last hlast
      rw [List.mem_append, List.mem_cons, List.mem_singleton] at h
      rcases h with (rfl | h) | rfl
      · exact List.mem_cons_self
      · exact List.mem_cons_of_mem _ ((List.dropLast_subset _ (List.mem_filter.mp h).1))
      · exact List.mem_cons_of_mem _ (List.mem_of_getLast? hlast)

/-- The segments that a path and its base stand for are segments of one of them. -/
theorem mem_of_mem_joinedSegments {path s : Text} (h : s ∈ joinedSegments base path) :
    s ∈ Text.splitOn '/' base ∨ s ∈ Text.splitOn '/' path := by
  rw [joinedSegments] at h
  split at h
  · exact .inr h
  · rcases List.mem_append.mp (mem_of_mem_dropInnerEmpty h) with h | h
    · split at h
      · exact .inl h
      · exact .inl (List.dropLast_subset _ h)
    · exact .inr h

theorem parameterless_resolvePath {path : Text} (hbase : Parameterless base) (hpath : Parameterless path) :
    Parameterless (resolvePath base path) := by
  have hsegment : ∀ s ∈ joinedSegments base path, Parameterless s := by
    intro s hs
    rcases mem_of_mem_joinedSegments hs with hs | hs
    · exact hbase.of_subset fun c hc => Text.mem_of_mem_splitOn hs hc
    · exact hpath.of_subset fun c hc => Text.mem_of_mem_splitOn hs hc
  have hjoin : ∀ {segments : List Text}, (∀ s ∈ segments, Parameterless s) →
      Parameterless (Text.join ['/'] segments) := by
    intro segments hall c hc
    rcases Text.mem_of_mem_join hc with hc | ⟨s, hs, hc⟩
    · rw [List.mem_singleton.mp hc]
      decide
    · exact hall s hs c hc
  have hwalk : ∀ s ∈ walk [] (joinedSegments base path), Parameterless s := fun s hs =>
    hsegment s ((mem_of_mem_walk hs).resolve_left List.not_mem_nil)
  unfold resolvePath
  extract_lets segments endsInDots walked joined
  split
  · exact parameterless_singleton (c := '/') (by decide)
  · refine hjoin (List.forall_mem_append.mpr ⟨hwalk, fun s hs => ?_⟩)
    -- Behind the walk stands an empty segment, if anything.
    split at hs
    · rw [List.mem_singleton.mp hs]
      exact parameterless_nil
    · cases hs

/-- **A URL that is resolved gets its parameters from itself or from the base.** -/
theorem parameterless_resolve? (hbase : Parameterless base) (hurl : Parameterless url)
    (h : resolve? base url = some joined) : Parameterless joined := by
  rw [resolve?] at h
  split at h
  · cases h
    exact hurl
  split at h
  · cases h
    exact hbase
  obtain ⟨b, hb, h⟩ := Option.bind_eq_some_iff.mp h
  obtain ⟨u, hu, h⟩ := Option.bind_eq_some_iff.mp h
  have hbclear := clear_of_parse? hbase hb
  have huclear := clear_of_parseWith? hbclear.scheme hurl hu
  have hnetloc : Parameterless (if schemeIn hostSchemes u.scheme then b.netloc else u.netloc) := by
    split
    · exact hbclear.netloc
    · exact huclear.netloc
  split at h
  · cases h
    exact hurl
  split at h
  · cases h
    exact huclear.render
  dsimp only at h
  split at h
  · cases h
    refine Clear.render { huclear with
      netloc := hnetloc
      path := hbclear.path
      params := hbclear.params
      query_eq := ?_ }
    dsimp only
    rw [huclear.query_eq, hbclear.query_eq]
    rfl
  · cases h
    exact Clear.render { huclear with
      netloc := hnetloc
      path := parameterless_resolvePath hbclear.path huclear.path }

end Resolve

end Url

namespace Link

open Url

/-! ## Normal forms without parameters -/

section Normal

variable {url base link : Text} {trailingSlash : Bool}

theorem parameterless_schemed (h : Parameterless url) : Parameterless (schemed url) := by
  rw [schemed]
  split
  · exact Parameterless.append (by decide) h
  · exact h

theorem parameterless_rooted (h : Parameterless base) : Parameterless (rooted base) :=
  (h.of_subset fun _ hc => Text.mem_of_mem_trimEnd hc).append (parameterless_singleton (by decide))

theorem parameterless_absolute? (hbase : Parameterless base) (hurl : Parameterless url) {joined : Text}
    (h : absolute? base url = some joined) : Parameterless joined := by
  rw [absolute?_eq] at h
  split at h
  · cases h
    exact parameterless_schemed hurl
  · obtain ⟨relative, -, h⟩ := Option.bind_eq_some_iff.mp h
    split at h
    · exact parameterless_resolve? (parameterless_rooted hbase) hurl h
    · cases h
      exact parameterless_schemed hurl

theorem clear_finished {u : Url} (hu : Clear u) (trailingSlash : Bool) : Clear (finished trailingSlash u) :=
  { hu with
    path := fun c hc => by
      rcases mem_ended hc with rfl | hc
      · decide
      · exact hu.path c hc }

/-- **Without its parameters, a link has a normal form without parameters.** -/
theorem parameterless_normalize? (hbase : Parameterless base) (h : normalize? url base true trailingSlash = some link) :
    Parameterless link := by
  by_cases hne : url = []
  · subst hne
    cases h
    exact parameterless_nil
  rw [normalize?_eq hne] at h
  obtain ⟨u, hu, rfl⟩ := Option.map_eq_some_iff.mp h
  obtain ⟨joined, hjoined, hu⟩ := Option.bind_eq_some_iff.mp hu
  have hprepared : Parameterless (prepared true url) := parameterless_withoutParameters (tidy url)
  have hclear : Clear u := clear_of_parse? (parameterless_absolute? hbase hprepared hjoined) hu
  exact (clear_finished hclear trailingSlash).render

/-- What a link comes to without its parameters depends only on what stands in front of them. -/
theorem prepared_parameters {d : Char} (hd : d = '?' ∨ d = '#') (hurl : Parameterless url) (q : Text) :
    prepared true (url ++ d :: q) =
      levelled (Text.replaceChar ' ' "%20".toList (Text.trimStart Text.isSpace url)) := by
  have hspace : Text.isSpace d = false := by
    rcases hd with rfl | rfl <;> rfl
  have hstep : d ∉ "../".toList := by
    rcases hd with rfl | rfl <;> decide
  have hsign : (d != '?' && d != '#') = false := by
    rcases hd with rfl | rfl <;> rfl
  let front := Text.replaceChar ' ' "%20".toList (Text.trimStart Text.isSpace url)
  let behind := Text.replaceChar ' ' "%20".toList (Text.trimEnd Text.isSpace q)
  have hencoded : Text.replaceChar ' ' "%20".toList (Text.trim (url ++ d :: q)) = front ++ d :: behind := by
    have hne : d ≠ ' ' := by
      rcases hd with rfl | rfl <;> decide
    rw [Text.trim_append_cons hspace, Text.replaceChar, List.flatMap_append, List.flatMap_cons, if_neg hne]
    rfl
  have hlevelled : levelled (front ++ d :: behind) = levelled front ++ d :: behind := by
    rw [levelled, levelled, Text.startsWith, Text.startsWith, Text.dropPrefix?_append_cons _ _ hstep]
    cases hstarts : Text.dropPrefix? "../".toList front with
    | none => rfl
    | some r =>
      rw [Text.dropPrefix?_eq_some_iff.mp hstarts]
      rfl
  have hfront : Parameterless front := by
    intro c hc
    obtain ⟨e, he, hce⟩ := List.mem_flatMap.mp hc
    split at hce
    · have hescape : Parameterless "%20".toList := by decide
      exact hescape c hce
    · rw [List.mem_singleton.mp hce]
      exact hurl e ((List.dropWhile_sublist _).subset he)
  have hkept : ∀ c ∈ levelled front, (c != '?' && c != '#') = true := by
    intro c hc
    have hmem : c ∈ front := by
      rw [levelled] at hc
      split at hc
      · exact List.mem_of_mem_drop hc
      · exact hc
    simpa using hfront c hmem
  rw [prepared, if_pos rfl, tidy_eq, hencoded, hlevelled, withoutParameters, List.takeWhile_append_of_pos hkept,
    List.takeWhile_cons_of_neg (by rw [hsign]; decide), List.append_nil]

/-- **Removed parameters leave no trace.** Behind a link without parameters, and against a base path without them,
whatever stands behind the first question mark or number sign makes no difference to the normal form, nor to whether
there is one; and there is neither of these signs in it. -/
theorem normalize?_parameters (hurl : Parameterless url) (hbase : Parameterless base)
    (trailingSlash : Bool) {d d' : Char}
    (hd : d = '?' ∨ d = '#') (hd' : d' = '?' ∨ d' = '#') (q q' : Text) :
    normalize? (url ++ d :: q) base true trailingSlash = normalize? (url ++ d' :: q') base true trailingSlash ∧
      ∀ link, normalize? (url ++ d :: q) base true trailingSlash = some link → Parameterless link := by
  have hne : ∀ (d : Char) (q : Text), url ++ d :: q ≠ [] := fun d q =>
    List.append_ne_nil_of_right_ne_nil _ (List.cons_ne_nil d q)
  refine ⟨?_, fun link h => parameterless_normalize? hbase h⟩
  rw [normalize?_eq (hne d q), normalize?_eq (hne d' q'), prepared_parameters hd hurl, prepared_parameters hd' hurl]

/-- A link with blanks, a step up and parameters of its path, in front of a query and a fragment and in front of
nothing. -/
theorem normalize?_parameters_stepUp :
    let url := " ../a b/c;p".toList
    let base := "https://example.com/".toList
    (Parameterless url ∧ Parameterless base) ∧
      normalize? (url ++ "?x=1#y ".toList) base true false = some "https://example.com/a%20b/c;p".toList ∧
      normalize? (url ++ "#".toList) base true false = some "https://example.com/a%20b/c;p".toList := by
  intro url base
  have hurl : Parameterless url := by decide
  have hbase : Parameterless base := by decide
  have h := normalize?_parameters hurl hbase false (.inl rfl) (.inr rfl) "x=1#y ".toList []
  have hlast : normalize? (url ++ "#".toList) base true false = some "https://example.com/a%20b/c;p".toList := by
    decide +kernel
  exact ⟨⟨hurl, hbase⟩, h.1.trans hlast, hlast⟩

end Normal

end Link

end Excerpt
