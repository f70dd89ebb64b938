import Excerpt.Url.Basic

/-!
# Resolving relative URLs

`Url.resolve?` gives the absolute form of a URL relative to a base; segments `.` and `..` are worked off, and a `..` at
the root has no effect.
-/

namespace Excerpt.Url

/-- The list without empty segments other than the first and the last. -/
def dropInnerEmpty (segments : List Text) : List Text :=
  match segments with
  | [] => []
  | first :: rest =>
    match rest.getLast? with
    | none => [first]
    | some last => first :: (rest.dropLast.filter fun s => !s.isEmpty) ++ [last]

/-- The segments with `.` and `..` worked off; `done` holds the ones before, latest first. -/
def walk (done : List Text) : List Text → List Text
  | [] => done.reverse
  | s :: rest =>
    if s = ['.', '.'] then walk done.tail rest
    else if s = ['.'] then walk done rest
    else walk (s :: done) rest

/-- The segments that a path and its base stand for. -/
def joinedSegments (base path : Text) : List Text :=
  if path.head? == some '/' then Text.splitOn '/' path
  else
    let parts := Text.splitOn '/' base
    let parts := if (parts.getLast?.map (·.isEmpty)).getD true then parts else parts.dropLast
    dropInnerEmpty (parts ++ Text.splitOn '/' path)

/-- The path without `.` and `..`, which leave a slash where they stand last. -/
def resolvePath (base path : Text) : Text :=
  let segments := joinedSegments base path
  let endsInDots :=
    match segments.getLast? with
    | some s => s == ['.'] || s == ['.', '.']
    | none => false
  let walked := walk [] segments ++ (if endsInDots then [[]] else [])
  let joined := Text.join ['/'] walked
  if joined.isEmpty then ['/'] else joined

/-- The absolute form of a URL relative to a base, or `none` if one of them has a malformed host. -/
def resolve? (base url : Text) : Option Text :=
  if base.isEmpty then some url
  else if url.isEmpty then some base
  else do
    let b ← parse? base
    let u ← parseWith? b.scheme url
    if u.scheme != b.scheme || !schemeIn relativeSchemes u.scheme then return url
    if schemeIn hostSchemes u.scheme && !u.netloc.isEmpty then return u.render
    let netloc := if schemeIn hostSchemes u.scheme then b.netloc else u.netloc
    if u.path.isEmpty && u.params.isEmpty then
      return render
        { u with netloc, path := b.path, params := b.params, query := if u.query.isEmpty then b.query else u.query }
    return render { u with netloc, path := resolvePath b.path u.path }

end Excerpt.Url
