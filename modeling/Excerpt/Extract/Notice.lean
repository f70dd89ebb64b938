import Excerpt.Extract.Report

/-!
# Notices and faults

Extraction leaves notices for readers of logs and may end in a fault. `Traced` holds the notices in order and the
result.
-/

namespace Excerpt

/-- How grave a notice is. -/
inductive Level where
  | info
  | warning
deriving DecidableEq, Repr

/-- The name of a level. -/
def Level.name : Level → String
  | .info => "info"
  | .warning => "warning"

/-- Why a page is rejected. -/
inductive Rejection where
  | noRoot
  | noValidator
  | refused (value : Text)
deriving DecidableEq, Repr

/-- The wording of a rejection. -/
def Rejection.message : Rejection → Text
  | .noRoot => "root not found".toList
  | .noValidator => "validator not found".toList
  | .refused value => "validator rejected by conditions: ".toList ++ Text.quoted value

/-- Something that readers of logs should know. -/
inductive Notice where
  | stopped (field : Text) (candidate : Text)
  | notFound (field : Text)
  | invalid (fault : ValueFault)
  | formatRefused (expr format : Text)
  | rejected (reason : Rejection)
deriving DecidableEq, Repr

namespace Notice

/-- The level of a notice. -/
def level : Notice → Level
  | .stopped .. | .rejected _ => .info
  | .notFound _ | .invalid _ | .formatRefused .. => .warning

/-- The wording of a notice; a candidate is cut after sixty characters. -/
def message : Notice → Text
  | .stopped field candidate =>
    "Field ".toList ++ field ++ " stopped by filter: ".toList ++ (Text.quoted candidate).take 60
  | .notFound field => "Field ".toList ++ field ++ " not found".toList
  | .invalid fault => fault.message
  | .formatRefused expr format =>
    "Extractor ".toList ++ Text.quoted expr ++ " cannot apply format ".toList ++ Text.quoted format ++ ": ".toList
  | .rejected reason => "Page rejected: ".toList ++ reason.message

end Notice

/-- Why an extraction ends without a result. -/
inductive Fault where
  | malformedLink
  | repeatedDirective
  | notConfigured (slot : Text)
  | value (fault : ValueFault)
deriving DecidableEq, Repr

/-- A result with the notices left on the way to it. -/
structure Traced (α : Type) where
  notices : List Notice
  result : Except Fault α

namespace Traced

/-- A result without notices. -/
def ok {α : Type} (a : α) : Traced α :=
  ⟨[], .ok a⟩

/-- A fault without notices. -/
def fail {α : Type} (e : Fault) : Traced α :=
  ⟨[], .error e⟩

/-- One notice. -/
def note (n : Notice) : Traced Unit :=
  ⟨[n], .ok ()⟩

/-- A next part after the first one, unless that one ended in a fault. -/
def bind {α β : Type} (t : Traced α) (f : α → Traced β) : Traced β :=
  match t.result with
  | .error e => ⟨t.notices, .error e⟩
  | .ok a => ⟨t.notices ++ (f a).notices, (f a).result⟩

instance : Monad Traced where
  pure := ok
  bind := bind

/-- A value, or the fault that stands for its absence. -/
def ofOption {α : Type} (e : Fault) : Option α → Traced α
  | some a => ok a
  | none => fail e

end Traced

end Excerpt
