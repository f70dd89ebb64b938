import Excerpt.Text.Basic

/-!
# Settings

Limits for rules and summaries, and the name of the markup reader.
-/

namespace Excerpt

/-- The settings of the library. -/
structure Settings where
  maxExpressionLength : Int
  summaryMinLength : Int
  summaryMaxLength : Int
  htmlParser : String
deriving DecidableEq, Repr

/-- The settings when nothing else is said. -/
def Settings.default : Settings :=
  ⟨1000, 200, 400, "lxml"⟩

end Excerpt
