import Excerpt.Text.Basic

/-!
# Cleaning body text

Blanks of all widths become plain ones, no blank stands before a closing mark, links are taken out, and plain text is
cut into paragraphs at empty lines.
-/

namespace Excerpt.Body

/-- Blanks that become plain ones. -/
def isOddBlank (c : Char) : Bool :=
  c == '\u00a0' || c == '\u2005' || c == '\u2009' || c == '\u202f'

/-- Marks that close a sentence. -/
def isClosingMark (c : Char) : Bool :=
  c == '.' || c == '?' || c == '!'

/-- The text after its leading blanks. -/
def afterBlanks : Text → Text :=
  List.dropWhile (· == ' ')

/-- Whether a closing mark follows some blanks or none. -/
def closes (t : Text) : Bool :=
  ((afterBlanks t).head?.map isClosingMark).getD false

/-- The text without the blanks between a word and a closing mark; `afterWord` says that the last character that is no
such blank belongs to a word. -/
def tightenFrom (afterWord : Bool) : Text → Text
  | [] => []
  | c :: cs =>
    if c = ' ' then
      if afterWord && closes cs then tightenFrom true cs else ' ' :: tightenFrom false cs
    else c :: tightenFrom (Text.isWord c) cs

/-- The text without the blanks between a word and a closing mark. -/
def tighten (t : Text) : Text :=
  tightenFrom false t

/-- The text with one blank in place of several; `inRun` says that the last character was a blank. -/
def singleBlanksFrom (inRun : Bool) : Text → Text
  | [] => []
  | c :: cs =>
    if c = ' ' then
      if inRun then singleBlanksFrom true cs else ' ' :: singleBlanksFrom true cs
    else c :: singleBlanksFrom false cs

/-- The text with one blank in place of several. -/
def singleBlanks (t : Text) : Text :=
  singleBlanksFrom false t

/-- A line of body text cleaned. -/
def cleanText (t : Text) : Text :=
  Text.trim (singleBlanks (tighten (t.map fun c => if isOddBlank c then ' ' else c)))

/-! ## Links -/

/-- Whether a character is a small letter or its other case; the long `ſ` is a case of `s`. -/
def isCaseOf (small c : Char) : Bool :=
  c == small || c == small.toUpper || (small == 's' && c == 'ſ')

/-- What follows the given small letters and signs, without regard to case. -/
def afterWordOf? : Text → Text → Option Text
  | [], t => some t
  | _ :: _, [] => none
  | p :: ps, c :: cs => if isCaseOf p c then afterWordOf? ps cs else none

/-- The beginnings of links. -/
def linkStarts : List Text :=
  ["https://".toList, "http://".toList, "www.".toList]

/-- Whether a link begins the text: a known beginning and at least one character that is no white space. -/
def linkBegins (t : Text) : Bool :=
  linkStarts.any fun s =>
    match afterWordOf? s t with
    | some (c :: _) => !Text.isSpace c
    | _ => false

/-- The text without its links, which end at white space; `inLink` says that a link is being read. -/
def eraseLinksFrom (inLink : Bool) : Text → Text
  | [] => []
  | c :: cs =>
    if inLink && !Text.isSpace c then eraseLinksFrom true cs
    else if linkBegins (c :: cs) then eraseLinksFrom true cs
    else c :: eraseLinksFrom false cs

/-- Whether a link stands in the text. -/
def hasLink : Text → Bool
  | [] => false
  | c :: cs => linkBegins (c :: cs) || hasLink cs

/-- The text without its links. -/
def eraseLinks (t : Text) : Text :=
  Text.trim (singleBlanks (eraseLinksFrom false t))

/-! ## Paragraphs of plain text -/

/-- Whether a run of white space parts paragraphs: it holds two line breaks or more. -/
def partsParagraphs (run : Text) : Bool :=
  (run.head?.map Text.isSpace).getD false && 2 ≤ run.count '\n'

/-- The runs between those that part paragraphs, joined. -/
def joinRuns : List Text → List Text
  | [] => [[]]
  | r :: rs =>
    if partsParagraphs r then [] :: joinRuns rs
    else
      match joinRuns rs with
      | [] => [r]
      | p :: ps => (r ++ p) :: ps

/-- The paragraphs of a plain text, trimmed, none of them empty. -/
def paragraphs (t : Text) : List Text :=
  ((joinRuns (t.splitBy fun a b => Text.isSpace a == Text.isSpace b)).map Text.trim).filter (!·.isEmpty)

/-- A plain text as markup, a `p` element for each paragraph. -/
def markupOfPlain (t : Text) : Text :=
  (paragraphs t).flatMap fun p => "<p>".toList ++ p ++ "</p>".toList

end Excerpt.Body
