/-!
# Closed sets of choices

The values that some attributes of rules may have, with their names in documents.
-/

namespace Excerpt

/-- What a condition does with a text that it matches. -/
inductive Verdict where
  | accept
  | reject
deriving DecidableEq, Repr

/-- The phase of extraction that a filter applies to. -/
inductive Scope where
  | all
  | text
  | body
  | summary
deriving DecidableEq, Repr

/-- What filters do with a text. -/
inductive FilterResult where
  | none
  | skip
  | stop
deriving DecidableEq, Repr

/-- How a matched element is read. -/
inductive Output where
  | html
  | text
  | ownText
deriving DecidableEq, Repr

/-- How the case of a value is changed. -/
inductive TextCase where
  | none
  | upper
  | lower
  | capitalize
deriving DecidableEq, Repr

/-- Which matches an extractor replaces. -/
inductive Extent where
  | first
  | all
deriving DecidableEq, Repr

/-- Where a selector looks. -/
inductive Source where
  | page
  | metadata
deriving DecidableEq, Repr

/-- The outcome of evaluating a field. -/
inductive Status where
  | found
  | missing
  | stopped
  | invalid
deriving DecidableEq, Repr

namespace Verdict

/-- All verdicts. -/
def members : List Verdict := [.accept, .reject]

/-- The name of a verdict. -/
def name : Verdict → String
  | .accept => "accept"
  | .reject => "reject"

end Verdict

namespace Scope

/-- All scopes. -/
def members : List Scope := [.all, .text, .body, .summary]

/-- The name of a scope. -/
def name : Scope → String
  | .all => "all"
  | .text => "text"
  | .body => "body"
  | .summary => "summary"

end Scope

namespace FilterResult

/-- All results of filters. -/
def members : List FilterResult := [.none, .skip, .stop]

/-- The name of a result of filters. -/
def name : FilterResult → String
  | .none => "none"
  | .skip => "skip"
  | .stop => "stop"

end FilterResult

namespace Output

/-- All ways to read an element. -/
def members : List Output := [.html, .text, .ownText]

/-- The name of a way to read an element. -/
def name : Output → String
  | .html => "html"
  | .text => "text"
  | .ownText => "own-text"

end Output

namespace TextCase

/-- All changes of case. -/
def members : List TextCase := [.none, .upper, .lower, .capitalize]

/-- The name of a change of case. -/
def name : TextCase → String
  | .none => "none"
  | .upper => "upper"
  | .lower => "lower"
  | .capitalize => "capitalize"

end TextCase

namespace Extent

/-- All extents. -/
def members : List Extent := [.first, .all]

/-- The name of an extent. -/
def name : Extent → String
  | .first => "first"
  | .all => "all"

end Extent

namespace Source

/-- All sources. -/
def members : List Source := [.page, .metadata]

/-- The name of a source. -/
def name : Source → String
  | .page => "page"
  | .metadata => "meta"

end Source

namespace Status

/-- All statuses. -/
def members : List Status := [.found, .missing, .stopped, .invalid]

/-- The name of a status. -/
def name : Status → String
  | .found => "found"
  | .missing => "missing"
  | .stopped => "stopped"
  | .invalid => "invalid"

end Status

end Excerpt
