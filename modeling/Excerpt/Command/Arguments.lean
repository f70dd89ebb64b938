import Excerpt.Text.Basic

/-!
# Arguments of the command

The command takes the name of a rule file and the name of a page, and options. The name of an option may be cut short as
long as it stays clear, and its value may follow an equals sign. After `--` nothing is an option.
-/

namespace Excerpt.Command

/-- The options of the command. -/
inductive Opt where
  | help
  | baseUrl
  | template
  | summary
  | debug
deriving DecidableEq, Repr

namespace Opt

/-- The spellings of options. -/
def spellings : List (String × Opt) :=
  [("-h", .help), ("--help", .help), ("--base-url", .baseUrl), ("--template", .template), ("--summary", .summary),
    ("--debug", .debug)]

/-- Whether an option has a value. -/
def hasValue : Opt → Bool
  | .baseUrl | .template => true
  | _ => false

end Opt

/-- What an argument is before its place is looked at. -/
inductive Argument where
  | plain (s : Text)
  | option (o : Opt) (value : Option Text)
  | unknown
  | separator
deriving DecidableEq, Repr

/-- The arguments of a run. -/
structure Arguments where
  rules : Text
  page : Text
  baseUrl : Text
  template : Text
  summary : Bool
  debug : Bool
deriving DecidableEq, Repr

/-- What the arguments ask for: help, a run, or nothing that makes sense. -/
inductive Request where
  | help
  | usage
  | run (arguments : Arguments)
deriving DecidableEq, Repr

/-! ## Kinds of arguments -/

/-- Whether a text is a negative number. -/
def isNegativeNumber : Text → Bool
  | '-' :: r =>
    match r.span Text.isDecimal with
    | (ds, []) => !ds.isEmpty
    | (_, '.' :: fraction) => !fraction.isEmpty && fraction.all Text.isDecimal
    | _ => false
  | _ => false

/-- The name and value of an argument with an equals sign. -/
def split (t : Text) : Text × Option Text :=
  match Text.cut? '=' t with
  | some (name, value) => (name, some value)
  | none => (t, none)

/-- The options that a name with two dashes may be short for. -/
def candidates (name : Text) : List Opt :=
  (Opt.spellings.filter fun s => Text.startsWith name s.1.toList).map (·.2)

/-- The option that a text spells. -/
def spelt? (t : Text) : Option Opt :=
  Opt.spellings.lookup (String.ofList t)

/-- An argument with a dash in front that spells no option. -/
def otherwise (t : Text) : Argument :=
  if isNegativeNumber t || t.contains ' ' then .plain t else .unknown

/-- The kind of an argument; none if it may be short for several options. -/
def classify? (t : Text) : Option Argument :=
  match t with
  | [] | ['-'] => some (.plain t)
  | '-' :: second :: r =>
    match spelt? t, split t with
    | some o, _ => some (.option o none)
    | none, (name, value) =>
      match value.bind fun _ => spelt? name with
      | some o => some (.option o value)
      | none =>
        if second == '-' then
          match candidates name with
          | [o] => some (.option o value)
          | [] => some (otherwise t)
          | _ => none
        else if second == 'h' then some (.option .help (some r))
        else some (otherwise t)
  | _ => some (.plain t)

/-- The kinds of several arguments; after the first separator all of them are plain. -/
def classifyAll? : List Text → Option (List Argument)
  | [] => some []
  | t :: ts =>
    if t == ['-', '-'] then some (.separator :: ts.map .plain)
    else do
      let a ← classify? t
      return a :: (← classifyAll? ts)

/-! ## Reading the arguments -/

/-- What has been read of the arguments: the names of files, the last one first, the options, and whether something was
left over. -/
structure Reading where
  names : List Text
  baseUrl : Text
  template : Text
  summary : Bool
  debug : Bool
  leftOver : Bool
deriving DecidableEq, Repr

/-- Nothing read. -/
def Reading.empty : Reading :=
  ⟨[], [], [], false, false, false⟩

/-- One more plain argument: one of the two names, or left over. -/
def Reading.name (r : Reading) (t : Text) : Reading :=
  if r.names.length < 2 then { r with names := t :: r.names } else { r with leftOver := true }

/-- An option with its value. -/
def Reading.set (r : Reading) (value : Text) : Opt → Reading
  | .baseUrl => { r with baseUrl := value }
  | .template => { r with template := value }
  | .summary => { r with summary := true }
  | .debug => { r with debug := true }
  | .help => r

/-- The request at the end of the arguments. -/
def Reading.finish (r : Reading) : Request :=
  match r.leftOver, r.names with
  | false, [page, rules] => .run ⟨rules, page, r.baseUrl, r.template, r.summary, r.debug⟩
  | _, _ => .usage

/-- The request that arguments make; `afterName` says that a plain argument was read last. -/
def readFrom (r : Reading) (afterName : Bool) : List Argument → Request
  | [] => r.finish
  | .plain t :: rest => readFrom (r.name t) true rest
  | .unknown :: rest => readFrom { r with leftOver := true } false rest
  | .separator :: rest => readFrom { r with leftOver := r.leftOver || (rest.isEmpty && !afterName) } afterName rest
  | .option o value :: rest =>
    match o, value with
    | .help, none => .help
    | _, some v => if o.hasValue then readFrom (r.set v o) false rest else .usage
    | _, none =>
      if o.hasValue then
        match rest with
        | .plain v :: rest => readFrom (r.set v o) false rest
        | _ => .usage
      else readFrom (r.set [] o) false rest

/-- The request that the arguments of the command make. -/
def Request.ofArguments (args : List Text) : Request :=
  match classifyAll? args with
  | none => .usage
  | some as => readFrom .empty false as

end Excerpt.Command
