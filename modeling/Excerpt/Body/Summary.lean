import Excerpt.Body.Block
import Excerpt.Rule.Filter

/-!
# The summary of a body

The leading texts of a body are joined with blanks until a title comes after some text, the text grows over its least
length, or one more block would take it over its greatest length.
-/

namespace Excerpt.Body

/-! ## The text of a block in a summary -/

/-- The text without what stands between its first opening and its last closing square bracket, if there is anything
between them. -/
def eraseBrackets (t : Text) : Text :=
  match Text.cut? '[' t with
  | none => t
  | some (start, rest) =>
    match Text.cut? ']' rest.reverse with
    | none => t
    | some (tail, inside) => if inside.isEmpty then t else start ++ tail.reverse

/-- The text without runs of two underscores or more. -/
def eraseRules (t : Text) : Text :=
  ((t.splitBy fun a b => (a == '_') == (b == '_')).filter fun run => !(run.head? == some '_' && 2 ≤ run.length)).flatten

/-- The text of a block without line breaks, bracketed parts and drawn lines. -/
def plainText (b : Block) : Text :=
  eraseRules (eraseBrackets (Text.erase lineBreak (b.text.filter (· != '\n'))))

/-- Whether a text is a drawn line or a tag rather than a sentence. -/
def isDecoration (t : Text) : Bool :=
  (t.head?.map fun c => c == '#' || c == '~' || c == '_' || c == '=').getD false || t.contains '▬'

/-! ## Choosing blocks -/

/-- Where a summary stands with regard to titles: nothing seen, only titles, or some text. -/
inductive Progress where
  | start
  | titles
  | texts
deriving DecidableEq, Repr

/-- The progress once a block of a kind has been seen. -/
def Progress.after (p : Progress) : BlockKind → Progress
  | .title => if p = .start then .titles else p
  | .text => .texts
  | _ => p

/-- Whether a block of a kind can be part of a summary, given the progress after it. -/
def Progress.admits (p : Progress) : BlockKind → Bool
  | .text => true
  | .title => p != .titles
  | _ => false

/-- What a block does to a summary. -/
inductive Contribution where
  | pass
  | finish
  | text (t : Text)
deriving DecidableEq, Repr

/-- What a block that can be part of a summary does to it. -/
def contribution (filters : List Filter) (b : Block) : Contribution :=
  let t := plainText b
  match Filter.applyAll filters t .summary with
  | .skip => .pass
  | .stop => .finish
  | .none =>
    let linked := hasLink t
    let t := if linked then eraseLinks t else t
    if linked && t.isEmpty then .pass
    else if b.kind == .title then .finish
    else if isDecoration t then .pass
    else .text t

/-- The summary with one more text. -/
def joinSummary (summary t : Text) : Text :=
  if summary.isEmpty || t.isEmpty then summary ++ t else summary ++ ' ' :: t

/-- The summary of blocks after an earlier part of it. -/
def summaryFrom (filters : List Filter) (least greatest : Int) (p : Progress) (summary : Text) : List Block → Text
  | [] => summary
  | b :: bs =>
    let p := p.after b.kind
    if p.admits b.kind then
      match contribution filters b with
      | .pass => summaryFrom filters least greatest p summary bs
      | .finish => summary
      | .text t =>
        if !summary.isEmpty && greatest < summary.length + t.length then summary
        else
          let summary := joinSummary summary t
          if least < summary.length then summary else summaryFrom filters least greatest p summary bs
    else summaryFrom filters least greatest p summary bs

/-- A colon at the end becomes a point. -/
def endSentence (t : Text) : Text :=
  if Text.endsWith ':' t then t.dropLast ++ ['.'] else t

/-- The summary of blocks. -/
def summarize (filters : List Filter) (least greatest : Int) (bs : List Block) : Text :=
  endSentence (summaryFrom filters least greatest .start [] bs)

end Excerpt.Body
