import Excerpt.Date.Pattern
import Excerpt.Extract.Notice
import Excerpt.Extract.Select
import Excerpt.Text.Case
import Excerpt.Url.Link

/-!
# Evaluating a field

The selectors of a field are tried in order; the first one with a value that survives the extractors, filters, dates and
links wins.
-/

namespace Excerpt

/-! ## Extractors -/

/-- A text through several extractors, nothing if one of them drops it. -/
def Extractor.chain (props : Properties) (t : Text) : List Extractor → Traced (Option Text)
  | [] => pure (some t)
  | x :: xs =>
    match x.extract props t with
    | .kept t => chain props t xs
    | .dropped => pure none
    | .unknownGroup => do
      Traced.note (.formatRefused x.expr.toList x.format.toList)
      return none

/-- The texts that come out of the extractors and are not empty. -/
def Extractor.applyAll (xs : List Extractor) (props : Properties) : List Text → Traced (List Text)
  | [] => pure []
  | t :: ts => do
    let value? ← Extractor.chain props t xs
    let rest ← applyAll xs props ts
    match value? with
    | some v => return if v.isEmpty then rest else v :: rest
    | none => return rest

namespace FieldRule

/-! ## Form of values -/

/-- The value in the case that the field asks for. -/
def inCase (f : FieldRule) (t : Text) : Text :=
  match f.textCase with
  | .none => t
  | .upper => Text.toUpper t
  | .lower => Text.toLower t
  | .capitalize => Text.capitalizeWords t

/-- The date that the first of several patterns reads, if one does. -/
def firstDate? (t : Text) : List Text → Except Fault (Option Stamp)
  | [] => .ok none
  | p :: ps =>
    match DatePattern.pieces? p with
    | none => firstDate? t ps
    | some pieces =>
      if DatePattern.repeats pieces then .error .repeatedDirective
      else
        match DatePattern.read? pieces t with
        | some d => .ok (some d)
        | none => firstDate? t ps

/-- The fault of a value that is no date. -/
def dateFault (f : FieldRule) (t : Text) : ValueFault :=
  .notADate f.name.toList t (f.datePatterns.map String.toList)

/-- The date that a value is, by the patterns of the field. -/
def date? (f : FieldRule) (t : Text) : Except Fault (Option Stamp) :=
  firstDate? t (f.datePatterns.map String.toList)

/-- The date that a value has to be. -/
def date (f : FieldRule) (t : Text) : Except Fault Stamp :=
  match f.date? t with
  | .ok (some d) => .ok d
  | .ok none => .error (.value (f.dateFault t))
  | .error e => .error e

/-- The base of relative links: the one of the field, or else that of the page. -/
def linkBase? (f : FieldRule) (baseUrl : Text) : Option Text :=
  if f.basePath != "" then some f.basePath.toList else Link.basePath? baseUrl

/-- The value as a link in the form that the field asks for. -/
def link? (f : FieldRule) (baseUrl : Text) (t : Text) : Option Text := do
  let base ← f.linkBase? baseUrl
  Link.normalize? t base f.removeParameters f.trailingSlash

/-! ## Candidates -/

/-- What a selector of the field reads. -/
def raw (f : FieldRule) (document : Node) (p : Place) (s : Selector) : List Text :=
  s.select f.isBody f.isImage document p

/-- The extracted values of the first selector that reads any. -/
def candidates (f : FieldRule) (props : Properties) (document : Node) (p : Place) : Traced (List Text) :=
  match f.selectors.find? fun s => !(f.raw document p s).isEmpty with
  | some s => Extractor.applyAll f.extractors props (f.raw document p s)
  | none => pure []

/-! ## Evaluation -/

/-- What becomes of a candidate. -/
inductive Fate where
  | ended (finding : Finding)
  | passed
  | kept (value : Text)
deriving DecidableEq, Repr

/-- The text of the date that a candidate is if the field has date patterns, or else the candidate. -/
def dated (f : FieldRule) (t : Text) : Traced Fate :=
  if f.datePatterns.isEmpty then pure (.kept t)
  else
    match f.date? t with
    | .error e => .fail e
    | .ok (some d) => pure (.kept d.iso)
    | .ok none =>
      if f.optional then pure .passed
      else do
        Traced.note (.invalid (f.dateFault t))
        return .ended (.invalid (f.dateFault t))

/-- A value as a link if the field holds links; an empty one is passed over. -/
def linked (f : FieldRule) (baseUrl : Text) (t : Text) : Traced Fate := do
  let value ← if f.isUrl then Traced.ofOption .malformedLink (f.link? baseUrl t) else pure t
  return if value.isEmpty then .passed else .kept value

/-- What becomes of a candidate in a phase. -/
def judge (f : FieldRule) (baseUrl : Text) (scope : Scope) (t : Text) : Traced Fate :=
  match Filter.applyAll f.filters t scope with
  | .stop => do
    Traced.note (.stopped f.name.toList t)
    return .ended .stopped
  | .skip => pure .passed
  | .none => do
    match ← f.dated (f.inCase t) with
    | .kept value => f.linked baseUrl value
    | fate => return fate

/-- The values of candidates, or the finding that ends the field. -/
def judgeAll (f : FieldRule) (baseUrl : Text) (scope : Scope) : List Text → Traced (Finding ⊕ List Text)
  | [] => pure (.inr [])
  | t :: ts => do
    match ← f.judge baseUrl scope t with
    | .ended finding => return .inl finding
    | .passed => f.judgeAll baseUrl scope ts
    | .kept value =>
      match ← f.judgeAll baseUrl scope ts with
      | .inl finding => return .inl finding
      | .inr values => return .inr (value :: values)

/-- What several selectors of the field find. -/
def evaluateWith (f : FieldRule) (baseUrl : Text) (scope : Scope) (props : Properties) (document : Node) (p : Place) :
    List Selector → Traced Finding
  | [] => do
    if !f.optional then Traced.note (.notFound f.name.toList)
    return .missing
  | s :: ss => do
    let candidates ← Extractor.applyAll f.extractors props (f.raw document p s)
    match ← f.judgeAll baseUrl scope candidates with
    | .inl finding => return finding
    | .inr [] => f.evaluateWith baseUrl scope props document p ss
    | .inr values => return .found values

/-- What the field finds below a place, in a phase. -/
def evaluate (f : FieldRule) (baseUrl : Text) (scope : Scope) (props : Properties) (document : Node) (p : Place) :
    Traced FieldReport := do
  let finding ← f.evaluateWith baseUrl scope props document p f.selectors
  return ⟨f.name.toList, finding⟩

end FieldRule

end Excerpt
