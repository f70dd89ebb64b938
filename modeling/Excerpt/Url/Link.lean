import Excerpt.Url.Resolve

/-!
# Links of pages

A link found in a page is normalised: blanks are encoded, the query is cut off if that is asked for, a relative link is
resolved against a base path, and the slash at the end is kept out or put in.
-/

namespace Excerpt.Link

/-- Whether a URL names neither a scheme nor a host, or `none` if its host is malformed. -/
def isRelative? (url : Text) : Option Bool :=
  (Url.parse? url).map fun u => u.scheme.isEmpty && !Text.startsWith ['/', '/'] url

/-- The scheme and host of a URL, empty without both, or `none` if its host is malformed. -/
def basePath? (url : Text) : Option Text :=
  if url.isEmpty then some []
  else
    (Url.parse? (Text.trim url)).map fun u =>
      if u.scheme.isEmpty || u.netloc.isEmpty then [] else Url.render ⟨u.scheme, u.netloc, [], [], [], []⟩

/-- The URL before its query and fragment. -/
def withoutParameters (url : Text) : Text :=
  url.takeWhile fun c => c != '?' && c != '#'

/-- The URL trimmed, with blanks encoded and one leading `..` dropped. -/
def tidy (url : Text) : Text :=
  let url := Text.replaceChar ' ' "%20".toList (Text.trim url)
  if Text.startsWith "../".toList url then url.drop 2 else url

/-- A path with a slash at its end. -/
def withSlash (path : Text) : Text :=
  if Text.endsWith '/' path then path else path ++ ['/']

/-- A path without slashes at its end, unless a slash is all it is. -/
def withoutSlash (path : Text) : Text :=
  if 1 < path.length && Text.endsWith '/' path then Text.trimEnd (· == '/') path else path

/-- The URL resolved against a base path; without one, a URL that begins with its host gets a scheme. -/
def absolute? (base : Text) (url : Text) : Option Text :=
  let schemed := if Text.startsWith ['/', '/'] url then "https:".toList ++ url else url
  if base.isEmpty then some schemed
  else do
    if ← isRelative? url then Url.resolve? (Text.trimEnd (· == '/') base ++ ['/']) url else some schemed

/-- The normal form of a link, or `none` if its host or that of the base is malformed. -/
def normalize? (url base : Text) (removeParameters trailingSlash : Bool) : Option Text :=
  if url.isEmpty then some []
  else do
    let url := tidy url
    let url := if removeParameters then withoutParameters url else url
    let url ← absolute? base url
    let u ← Url.parse? url
    return Url.render { u with path := if trailingSlash then withSlash u.path else withoutSlash u.path }

end Excerpt.Link
