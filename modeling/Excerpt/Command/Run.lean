import Excerpt.Command.Arguments
import Excerpt.Doc.Json
import Excerpt.Extract.Page
import Excerpt.Rule.Load
import Excerpt.Settings

/-!
# Running the command

A run loads the rules, reads the page, and prints the report as JSON. It ends with 0, with 1 if the rules or the page
cannot be read, and with 2 if the page is rejected.
-/

namespace Excerpt.Command

/-- What a run leaves: its exit code, what it prints, its complaint if it has one, and its notices. -/
structure Outcome where
  exit : Nat
  output : Text
  complaint : Text
  notices : List Notice
deriving DecidableEq, Repr

/-- Why a run breaks off without an outcome. -/
inductive Crash where
  | load (e : LoadError)
  | fault (e : Fault)
deriving DecidableEq, Repr

/-- The outcome of a run that ends before the page is looked at. -/
def Outcome.failure (complaint : Text) : Outcome :=
  ⟨1, [], complaint, []⟩

/-- The complaint about rules that cannot be loaded. -/
def rulesComplaint (message : String) : Text :=
  "Invalid rules: ".toList ++ message.toList

/-- The complaint about a page that cannot be read. -/
def pageComplaint (page : Text) : Text :=
  "Cannot read page ".toList ++ page ++ ": ".toList

/-- The rules that the arguments name, laid over their template. -/
def rules (files : Files) (a : Arguments) : Except LoadError RuleSet := do
  let template ←
    if a.template.isEmpty then pure none
    else
      let es ← Load.document files (String.ofList a.template)
      pure (some es)
  Load.ruleSet files (String.ofList a.rules) template

/-- The bytes of the page that the arguments name; a dash stands for the standard input. -/
def pageBytes (files : Files) (input : List UInt8) (a : Arguments) : Option (List UInt8) :=
  if a.page == ['-'] then some input else files (Load.plainName (String.ofList a.page))

/-- The report on a page as entries, with the summary if it is asked for. -/
def reportEntries (x : Extraction) (summary : Bool) (r : PageReport) : List (String × Doc) :=
  if summary && !r.isRejected then
    r.toEntries ++
      [("summary", .textOrNull (x.summary? Settings.default.summaryMinLength Settings.default.summaryMaxLength))]
  else r.toEntries

/-- The outcome of the extraction of a page. -/
def extract (x : Extraction) (summary : Bool) : Except Crash Outcome :=
  let t := x.report
  match t.result with
  | .error e => .error (.fault e)
  | .ok r =>
    .ok
      ⟨if r.isRejected then 2 else 0, Json.renderIndented (.ofFields (reportEntries x summary r)) ++ ['\n'],
        [], t.notices⟩

/-- The outcome of a run with the given files and standard input. -/
def run (files : Files) (input : List UInt8) (a : Arguments) : Except Crash Outcome :=
  match rules files a with
  | .error e =>
    match e.message? with
    | some m => .ok (.failure (rulesComplaint m))
    | none => .error (.load e)
  | .ok rs =>
    match pageBytes files input a with
    | none => .ok (.failure (pageComplaint a.page))
    | some bytes => extract ⟨.top (Node.ofBytes bytes), rs, a.baseUrl, []⟩ a.summary

end Excerpt.Command
