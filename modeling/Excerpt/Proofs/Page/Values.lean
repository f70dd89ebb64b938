import Excerpt.Page.Node
import Mathlib.Data.List.Basic

/-!
# Values of attributes

The value of an attribute of a page is a list of words or one string, as its name settles (`Node.FromPage`). That holds
of every element that is built from written attributes (`Node.fromPage_ofTree`). So a class is a list
(`Node.FromPage.class_eq`), and what is a list on no element is a string (`Node.FromPage.one_eq`).
-/

namespace Excerpt.Node

/-- Whether the attributes of a node have values that can be written in a page. -/
def FromPage : Node → Prop
  | .element tag as _ => ∀ a ∈ as, ∃ t, a.2 = AttrValue.ofText tag a.1 t
  | _ => True

theorem fromPage_ofTree (tag : String) (as : List (String × Text)) (ns : List Node) : (ofTree tag as ns).FromPage := by
  intro a ha
  obtain ⟨b, -, rfl⟩ := List.mem_map.mp ha
  exact ⟨b.2, rfl⟩

section Values

variable {n : Node} {name : String} {v : AttrValue}

theorem mem_of_attr? (h : n.attr? name = some v) : (name, v) ∈ n.attrs := by
  obtain ⟨front, rest, hattrs, -⟩ := List.lookup_eq_some_iff.mp h
  rw [hattrs]
  exact List.mem_append_right _ List.mem_cons_self

theorem FromPage.exists_ofText (hn : n.FromPage) (h : (name, v) ∈ n.attrs) :
    ∃ tag t, v = AttrValue.ofText tag name t := by
  cases n with
  | element tag as ns =>
    obtain ⟨t, ht⟩ := hn _ h
    exact ⟨tag, t, ht⟩
  | _ => cases h

/-- A class is a list of words. -/
theorem FromPage.class_eq (hn : n.FromPage) (h : n.attr? "class" = some v) : ∃ ws, v = .many ws := by
  obtain ⟨tag, t, rfl⟩ := hn.exists_ofText (mem_of_attr? h)
  exact ⟨(Text.words t).map String.ofList, rfl⟩

/-- What is a list of words on no element is a string. -/
theorem FromPage.one_eq (hn : n.FromPage) (h : (name, v) ∈ n.attrs) (hall : name ∉ AttrValue.listNames)
    (htags : ∀ e ∈ AttrValue.tagListNames, name ∉ e.2) : ∃ s, v = .one s := by
  obtain ⟨tag, t, rfl⟩ := hn.exists_ofText h
  have hone : AttrValue.isList tag name = false := by
    rw [AttrValue.isList, Bool.or_eq_false_iff, ← Bool.not_eq_true, List.contains_iff_mem, List.any_eq_false]
    refine ⟨hall, fun e he => ?_⟩
    rw [Bool.and_eq_true, List.contains_iff_mem]
    exact fun h => htags e he h.1
  exact ⟨String.ofList t, by rw [AttrValue.ofText, hone]; rfl⟩

end Values

end Excerpt.Node
