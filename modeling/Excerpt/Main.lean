import Excerpt.Command.Run

/-!
# The command

Reads the files that the arguments name, runs the command, and prints what it leaves.
-/

open Excerpt

namespace Excerpt.Command

/-- The bytes of a file, if it can be read. -/
def readFile (name : String) : IO (Option (List UInt8)) := do
  try
    let bytes ← IO.FS.readBinFile name
    return some bytes.toList
  catch _ => return none

/-- The bytes of the files with the names. -/
def readFiles : List String → IO (List (String × List UInt8))
  | [] => return []
  | name :: names => do
    let rest ← readFiles names
    match ← readFile name with
    | some bytes => return (name, bytes) :: rest
    | none => return rest

/-- The names of the files that a run may read. -/
def fileNames (a : Arguments) : List String :=
  ([a.rules, a.page, a.template].filter (!·.isEmpty)).map fun t => Load.plainName (String.ofList t)

/-- The line that the command prints when its arguments make no sense. -/
def usage : String :=
  "usage: content_fields [-h] [--base-url BASE_URL] [--template TEMPLATE] [--summary] [--debug] rules page"

/-- The bytes of the standard input, read in pieces; each piece takes one unit of fuel. -/
def readInput (input : IO.FS.Stream) : Nat → IO (List UInt8)
  | 0 => return []
  | n + 1 => do
    let bytes ← input.read 65536
    if bytes.isEmpty then return [] else return bytes.toList ++ (← readInput input n)

/-- A run of the command, as its exit code. -/
def execute (a : Arguments) : IO UInt32 := do
  let read ← readFiles (fileNames a)
  let input ← if a.page == ['-'] then readInput (← IO.getStdin) 1048576 else pure []
  match run (fun name => read.lookup name) input a with
  | .ok o =>
    for n in o.notices do
      if n.level == .warning || a.debug then
        IO.eprintln (n.level.name.toUpper ++ ": " ++ String.ofList n.message)
    IO.print (String.ofList o.output)
    if !o.complaint.isEmpty then IO.eprintln (String.ofList o.complaint)
    return o.exit.toUInt32
  | .error _ =>
    IO.eprintln "The rules or the page hold a value that cannot be used"
    return 1

end Excerpt.Command

/-- The command. -/
def main (args : List String) : IO UInt32 := do
  match Command.Request.ofArguments (args.map String.toList) with
  | .help =>
    IO.println Command.usage
    return 0
  | .usage =>
    IO.eprintln Command.usage
    return 2
  | .run a => Command.execute a
