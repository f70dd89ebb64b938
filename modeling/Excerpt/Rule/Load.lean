import Excerpt.Rule.Normal
import Excerpt.Rule.Schema
import Excerpt.Text.Utf8

/-!
# Loading rule sets from files

A rule file holds a mapping, as JSON if its name ends in `.json` and as YAML otherwise. It may be laid over a template.
-/

namespace Excerpt

/-- The bytes of files by their names. -/
abbrev Files := String → Option (List UInt8)

namespace Load

/-! ## Names of files -/

/-- A file name in its plain form, without empty and `.` parts. -/
def plainName (name : String) : String :=
  let parts := (Text.splitOn '/' name.toList).filter fun p => p != [] && p != ['.']
  let start := if Text.startsWith ['/'] name.toList then ['/'] else []
  let t := start ++ Text.join ['/'] parts
  if t.isEmpty then "." else String.ofList t

/-- The part of a file name from its last point on, unless the point begins or ends the name. -/
def suffix (name : String) : Text :=
  let last := (Text.splitOn '/' (plainName name).toList).getLast?.getD []
  match Text.cut? '.' last.reverse with
  | some (c :: after, _ :: _) => '.' :: (c :: after).reverse
  | _ => []

/-- Whether a file holds JSON. -/
def isJson (name : String) : Bool :=
  Text.toLower (suffix name) == ".json".toList

/-! ## Documents -/

/-- The document that the text of a file holds. -/
def parse (name : String) (t : Text) : Except LoadError Doc :=
  if isJson name then
    match Json.parse? t with
    | some d => .ok d
    | none => .error (.malformedFile (plainName name))
  else
    match Yaml.read t with
    | .ok d => .ok d
    | .error .malformed => .error (.malformedFile (plainName name))
    | .error .impossible => .error .impossibleValue

/-- The mapping that a file holds; an empty value stands for an empty mapping. -/
def document (files : Files) (name : String) : Except LoadError Doc.Entries :=
  match files (plainName name) with
  | none => .error (.unreadableFile (plainName name))
  | some bytes =>
    match Utf8.decode? bytes with
    | none => .error .undecodable
    | some t =>
      match parse name t with
      | .error e => .error e
      | .ok (.map es) => .ok es
      | .ok d => if d.isNull then .ok [] else .error (.fileNotMapping (plainName name) d.kindName)

/-- The rule set of a document, laid over a template if there is one. -/
def ruleSetOf (template : Option Doc.Entries) (es : Doc.Entries) : Except LoadError RuleSet := do
  let slots ←
    match template with
    | none => Normal.slots es
    | some base => Normal.overTemplate base es
  RuleSet.schema.read (.map slots)

/-- The rule set of a file, laid over a template if there is one. -/
def ruleSet (files : Files) (name : String) (template : Option Doc.Entries) : Except LoadError RuleSet := do
  ruleSetOf template (← document files name)

end Load

end Excerpt
