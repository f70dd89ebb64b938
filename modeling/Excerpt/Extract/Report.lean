import Excerpt.Doc.Basic
import Excerpt.Rule.RuleSet
import Excerpt.Text.Quoted

/-!
# Reports

The report on a field says what was found; the report on a page holds those of its slots, or why the page was rejected.
-/

namespace Excerpt

/-- Why a value cannot be used. -/
inductive ValueFault where
  | notADate (field : Text) (value : Text) (patterns : List Text)
  | other (message : Text)
deriving DecidableEq, Repr

namespace ValueFault

/-- The wording of a fault. -/
def message : ValueFault → Text
  | .notADate field value patterns =>
    "Unparseable ".toList ++ field ++ " date: ".toList ++ Text.quoted value ++ " (patterns: ".toList ++
      Text.join ", ".toList patterns ++ [')']
  | .other message => message

/-- Whether the fault is about a date. -/
def isDate : ValueFault → Bool
  | .notADate .. => true
  | .other _ => false

end ValueFault

/-- What the evaluation of a field came to. -/
inductive Finding where
  | found (values : List Text)
  | missing
  | stopped
  | invalid (fault : ValueFault)
deriving DecidableEq, Repr

namespace Finding

/-- The status of a finding. -/
def status : Finding → Status
  | .found _ => .found
  | .missing => .missing
  | .stopped => .stopped
  | .invalid _ => .invalid

/-- The values found. -/
def values : Finding → List Text
  | .found vs => vs
  | _ => []

/-- The first value found. -/
def value? (f : Finding) : Option Text :=
  f.values.head?

/-- The fault, if the finding is invalid. -/
def fault? : Finding → Option ValueFault
  | .invalid e => some e
  | _ => none

/-- Whether something was found. -/
def isFound : Finding → Bool
  | .found _ => true
  | _ => false

end Finding

/-- The report on a field. -/
structure FieldReport where
  name : Text
  finding : Finding
deriving DecidableEq, Repr

namespace FieldReport

/-- The report as a mapping. -/
def toDoc (r : FieldReport) : Doc :=
  .ofFields
    ([("name", .text r.name), ("status", .str r.finding.status.name), ("values", .texts r.finding.values),
        ("value", .textOrNull r.finding.value?)] ++
      (r.finding.fault?.map fun e => ("error", Doc.text e.message)).toList)

end FieldReport

/-- The report on a page. -/
inductive PageReport where
  | rejected (reason : Text)
  | read (fields : List (String × FieldReport))
deriving DecidableEq, Repr

namespace PageReport

/-- Whether the page was rejected. -/
def isRejected : PageReport → Bool
  | .rejected _ => true
  | .read _ => false

/-- Why the page was rejected. -/
def reason? : PageReport → Option Text
  | .rejected reason => some reason
  | .read _ => none

/-- The reports on the slots, in order. -/
def fields : PageReport → List (String × FieldReport)
  | .rejected _ => []
  | .read fs => fs

/-- The report on a slot. -/
def field? (r : PageReport) (slot : String) : Option FieldReport :=
  r.fields.lookup slot

/-- The first value of a slot. -/
def value? (r : PageReport) (slot : String) : Option Text :=
  (r.field? slot).bind (·.finding.value?)

/-- The faults of the slots, in order. -/
def faults (r : PageReport) : List ValueFault :=
  r.fields.filterMap (·.2.finding.fault?)

/-- The first fault that is about a date. -/
def dateFault? (r : PageReport) : Option ValueFault :=
  r.faults.find? (·.isDate)

/-- The report as entries. -/
def toEntries (r : PageReport) : List (String × Doc) :=
  [("rejected", .bool r.isRejected), ("reason", .textOrNull r.reason?),
    ("fields", .ofFields (r.fields.map fun (slot, f) => (slot, f.toDoc)))]

/-- The report as a mapping. -/
def toDoc (r : PageReport) : Doc :=
  .ofFields r.toEntries

end PageReport

end Excerpt
