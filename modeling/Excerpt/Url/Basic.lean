import Excerpt.Text.Case
import Excerpt.Url.Host

/-!
# URLs

A URL is read into its six parts and written back from them. Reading drops leading blanks and control characters, and
every tab and line break; it fails only on a malformed host. An empty query or fragment is not written.
-/

namespace Excerpt

/-- The parts of a URL; a part that is missing is empty. -/
structure Url where
  scheme : Text
  netloc : Text
  path : Text
  params : Text
  query : Text
  fragment : Text
deriving DecidableEq, Repr

namespace Url

/-- Schemes whose URLs may name a host. -/
def hostSchemes : List String :=
  ["", "ftp", "http", "gopher", "nntp", "telnet", "imap", "wais", "file", "mms", "https", "shttp", "snews", "prospero",
    "rtsp", "rtsps", "rtspu", "rsync", "svn", "svn+ssh", "sftp", "nfs", "git", "git+ssh", "ws", "wss"]

/-- Schemes whose URLs may be relative to a base. -/
def relativeSchemes : List String :=
  ["", "ftp", "http", "gopher", "nntp", "imap", "wais", "file", "https", "shttp", "mms", "prospero", "rtsp", "rtsps",
    "rtspu", "sftp", "svn", "svn+ssh", "ws", "wss"]

/-- Schemes whose URLs may have parameters after the last segment. -/
def paramSchemes : List String :=
  ["", "ftp", "hdl", "prospero", "http", "imap", "https", "shttp", "rtsp", "rtsps", "rtspu", "sip", "sips",
  "mms", "sftp",
    "tel"]

/-- Whether a scheme is in a list. -/
def schemeIn (schemes : List String) (scheme : Text) : Bool :=
  schemes.contains (String.ofList scheme)

/-- Characters of a scheme. -/
def isSchemeChar (c : Char) : Bool :=
  c.isAlphanum || c == '+' || c == '-' || c == '.'

/-- Blanks and control characters of ASCII. -/
def isControlOrBlank (c : Char) : Bool :=
  c.toNat ≤ 32

/-- Tabs and line breaks. -/
def isTabOrBreak (c : Char) : Bool :=
  c == '\t' || c == '\n' || c == '\r'

/-- The scheme in lower case and what follows its colon, with an empty scheme if the text has none. -/
def splitScheme (t : Text) : Text × Text :=
  match t, Text.cut? ':' t with
  | c :: _, some (scheme, rest) =>
    if !scheme.isEmpty && c.isAlpha && scheme.all isSchemeChar then (scheme.map Char.toLower, rest) else ([], t)
  | _, _ => ([], t)

/-- The host part after two slashes, up to the next delimiter, and the rest. -/
def splitNetloc (t : Text) : Text × Text :=
  match t with
  | '/' :: '/' :: r => r.span fun c => c != '/' && c != '?' && c != '#'
  | t => ([], t)

/-- The part before a delimiter and the part after it, the latter empty without one. -/
def splitAtFirst (c : Char) (t : Text) : Text × Text :=
  (Text.cut? c t).getD (t, [])

/-- The path and the parameters after the first semicolon of its last segment. -/
def splitParams (path : Text) : Text × Text :=
  let last := (path.reverse.takeWhile (· != '/')).reverse
  match Text.cut? ';' last with
  | some (name, params) => (path.take (path.length - last.length) ++ name, params)
  | none => (path, [])

/-- What is read of a text: it without leading blanks and controls, and without tabs and line breaks. -/
def clean (t : Text) : Text :=
  (t.dropWhile isControlOrBlank).filter fun c => !isTabOrBreak c

/-- The parts of a URL with a default scheme, or `none` if its host is malformed. -/
def parseWith? (scheme : Text) (t : Text) : Option Url :=
  let (found, r) := splitScheme (clean t)
  let scheme := if found.isEmpty then scheme else found
  let (netloc, r) := splitNetloc r
  let (r, fragment) := splitAtFirst '#' r
  let (path, query) := splitAtFirst '?' r
  let (path, params) := if schemeIn paramSchemes scheme then splitParams path else (path, [])
  if fitsNetloc netloc then some ⟨scheme, netloc, path, params, query, fragment⟩ else none

/-- The parts of a URL, or `none` if its host is malformed. -/
def parse? (t : Text) : Option Url :=
  parseWith? [] t

/-- The delimiter and a part, or nothing for an empty part. -/
def delimited (c : Char) (part : Text) : Text :=
  if part.isEmpty then [] else c :: part

/-- The host part and the path; the slashes of the host are written also for an empty host if the scheme has hosts. But
a path that begins with two slashes is written as it stands, with no empty host in front of it, and may be read back as
a host. -/
def renderPlace (scheme netloc path : Text) : Text :=
  let doubled := Text.startsWith ['/', '/'] path
  if !netloc.isEmpty || (!scheme.isEmpty && schemeIn hostSchemes scheme && !doubled) then
    let path := if path.isEmpty || path.head? == some '/' then path else '/' :: path
    '/' :: '/' :: netloc ++ path
  else path

/-- A URL in its written form. -/
def render (u : Url) : Text :=
  let place := renderPlace u.scheme u.netloc (u.path ++ delimited ';' u.params)
  let head : Text := if u.scheme.isEmpty then [] else u.scheme ++ [':']
  head ++ place ++ delimited '?' u.query ++ delimited '#' u.fragment

end Url

end Excerpt
