import Excerpt.Rule.Decoded

/-!
# Why rules cannot be loaded

Rules come from documents in memory, from JSON or YAML text, and from files. Each way to fail is a case of `LoadError`;
`LoadError.message?` is the wording, up to the text of the reader that failed. A key of a slot or of a field rule that
is no string has no wording of its own.
-/

namespace Excerpt

/-- The written forms of documents. -/
inductive DocFormat where
  | json
  | yaml
deriving DecidableEq, Repr

/-- Why rules cannot be loaded. -/
inductive LoadError where
  | notText (kind : String)
  | undecodable
  | malformed (format : DocFormat) (label : String)
  | impossibleValue
  | invalid (kind label : String) (problems : List Problem)
  | halted (cause : Halt)
  | unreadableFile (path : String)
  | malformedFile (path : String)
  | fileNotMapping (path kind : String)
  | fieldsNotMapping (kind : String)
  | slotKey (kind : String)
  | fieldKey (kind : String)
deriving DecidableEq, Repr

namespace LoadError

/-- The name of a written form in messages. -/
def formatName : DocFormat → String
  | .json => "JSON string"
  | .yaml => "YAML document"

/-- The wording, for the failures that have one of their own. -/
def message? : LoadError → Option String
  | .notText kind => some ("Input must be a valid JSON string or bytes, not " ++ kind)
  | .malformed format label => some ("Cannot parse " ++ formatName format ++ " to " ++ label ++ ": ")
  | .invalid kind label _ => some ("Cannot parse " ++ kind ++ " to " ++ label ++ ": ")
  | .unreadableFile path => some ("Cannot read rule document " ++ path ++ ": ")
  | .malformedFile path => some ("Cannot parse rule document " ++ path ++ ": ")
  | .fileNotMapping path kind => some ("Rule document " ++ path ++ " must hold a mapping, not " ++ kind)
  | .fieldsNotMapping kind => some ("'fields' must be a mapping, not " ++ kind)
  | .undecodable | .impossibleValue | .halted _ | .slotKey _ | .fieldKey _ => none

/-- The places of the problems that the failure is about. -/
def problems : LoadError → List Problem
  | .invalid _ _ ps => ps
  | _ => []

end LoadError

end Excerpt
