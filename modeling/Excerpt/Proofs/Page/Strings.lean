import Excerpt.Page.Content
import Excerpt.Proofs.Text.Bare

/-!
# The strings of a page

`Node.strings` are the texts of a tree other than comments, in document order. The text of a block is made of them and
of line breaks (`mem_blockParts`), and holds them all (`bare_blockParts`).
-/

namespace Excerpt.Node

open Text (bare)

mutual

/-- The texts in a node that are no comments, in document order. -/
def strings : Node → List Text
  | .text _ s | .instruction s | .doctype s => [s]
  | .comment _ => []
  | .element _ _ ns => stringsIn ns

/-- The texts in several nodes that are no comments, in document order. -/
def stringsIn : List Node → List Text
  | [] => []
  | n :: ns => n.strings ++ stringsIn ns

end

/-- The texts below a node that are no comments, in document order. -/
def stringsBelow (n : Node) : List Text :=
  stringsIn n.children

mutual

theorem bare_blockPart : ∀ n : Node, bare n.blockPart = bare n.strings.flatten
  | .text _ s | .instruction s | .doctype s => by simp [blockPart, strings]
  | .comment _ => rfl
  | .element tag _ ns => by
    have hbr : bare (if tag = "br" then ['\n'] else []) = [] := by split <;> rfl
    rw [blockPart, strings, Text.bare_append, hbr, List.nil_append, bare_blockParts ns]

/-- Without white space, the text of a block is the strings in it. -/
theorem bare_blockParts : ∀ ns : List Node, bare (blockParts ns) = bare (stringsIn ns).flatten
  | [] => rfl
  | n :: ns => by
    rw [blockParts, stringsIn, Text.bare_append, bare_blockPart n, bare_blockParts ns, List.flatten_append,
      Text.bare_append]

end

/-- A character that is a line break or stands in one of several strings. -/
def StemsFrom (c : Char) (ss : List Text) : Prop :=
  c = '\n' ∨ ∃ s ∈ ss, c ∈ s

theorem StemsFrom.append_left {c : Char} {ss : List Text} (h : StemsFrom c ss) (ts : List Text) :
    StemsFrom c (ss ++ ts) := by
  rcases h with h | ⟨s, hs, hc⟩
  · exact Or.inl h
  · exact Or.inr ⟨s, List.mem_append_left _ hs, hc⟩

theorem StemsFrom.append_right {c : Char} {ts : List Text} (ss : List Text) (h : StemsFrom c ts) :
    StemsFrom c (ss ++ ts) := by
  rcases h with h | ⟨s, hs, hc⟩
  · exact Or.inl h
  · exact Or.inr ⟨s, List.mem_append_right _ hs, hc⟩

mutual

theorem mem_blockPart {c : Char} : ∀ {n : Node}, c ∈ n.blockPart → StemsFrom c n.strings
  | .text _ s, h | .instruction s, h | .doctype s, h => Or.inr ⟨s, List.mem_singleton.mpr rfl, h⟩
  | .element tag _ ns, h => by
    rw [blockPart] at h
    rcases List.mem_append.mp h with h | h
    · split at h
      · exact Or.inl (List.mem_singleton.mp h)
      · cases h
    · exact mem_blockParts h

/-- The characters of a block come from its strings, or are line breaks. -/
theorem mem_blockParts {c : Char} : ∀ {ns : List Node}, c ∈ blockParts ns → StemsFrom c (stringsIn ns)
  | n :: ns, h => by
    rw [blockParts] at h
    rcases List.mem_append.mp h with h | h
    · exact (mem_blockPart h).append_left _
    · exact (mem_blockParts h).append_right _

end

end Excerpt.Node
