import Excerpt.Css.Selector

/-!
# Pseudo-classes

A pseudo-class without parentheses stands for tests, most of them on attributes: the states of the controls of a form
are told by their tags, types and attributes. What can only be told while a page is shown holds of no element.
-/

namespace Excerpt.Css

/-! ## Tests from others -/

/-- The element has one of the tags. -/
def tagged (names : List String) : Test :=
  .oneOf (names.map fun s => .only [.tag s])

/-- The element has the attribute. -/
def given (name : String) : Test :=
  .attr ⟨name, .present, [], false⟩

/-- The attribute has one of the values; the case of letters counts but for types. -/
def valued (name : String) (values : List String) : Test :=
  .oneOf (values.map fun v => .only [.attr ⟨name, .equal, v.toList, name == "type"⟩])

/-- The test does not hold. -/
def negated (t : Test) : Test :=
  .noneOf [.only [t]]

/-- One of several tests holds. -/
def either (ts : List Test) : Test :=
  .oneOf (ts.map fun t => .only [t])

/-! ## Numbers of elements -/

/-- The counting of a functional pseudo-class. -/
def counting? : String → Option Counting
  | ":nth-child" => some ⟨false, false⟩
  | ":nth-last-child" => some ⟨true, false⟩
  | ":nth-of-type" => some ⟨false, true⟩
  | ":nth-last-of-type" => some ⟨true, true⟩
  | _ => none

/-- The first one of a counting. -/
def firstOf (fromBack ofTag : Bool) : Test :=
  .nth ⟨0, 1⟩ ⟨fromBack, ofTag⟩ []

/-! ## Controls -/

/-- Checked boxes and buttons, and selected options. -/
def checkedChains : List Chain :=
  [.only [.tag "input", valued "type" ["checkbox", "radio"], given "checked"], .only [.tag "option", given "selected"]]

/-- What is checked, and the button that submits its form first. -/
def defaultChains : List Chain :=
  checkedChains ++
    [.join (.only [.tag "form"]) .descendant [tagged ["button", "input"], valued "type" ["submit"], .firstSubmit]]

/-- Boxes that are marked so, radio buttons of which none is checked, and progress without a value. -/
def indeterminateChains : List Chain :=
  [.only [.tag "input", valued "type" ["checkbox"], given "indeterminate"],
    .only [.tag "input", valued "type" ["radio"], either [negated (given "name"), valued "name" [""]],
      negated (given "checked")],
    .only [.tag "progress", negated (given "value")],
    .only [.tag "input", valued "type" ["radio"], given "name", negated (valued "name" [""]), negated (given "checked"),
      .unchosen]]

/-- Inputs that are shown. -/
def shownInput : Chain :=
  .only [.tag "input", negated (valued "type" ["hidden"])]

/-- Controls that are disabled with the set of fields around them. -/
def fieldControl : Test :=
  .oneOf [shownInput, .only [tagged ["button", "select", "textarea", "fieldset"]]]

/-- Elements that can be disabled. -/
def control : Test :=
  .oneOf [shownInput, .only [tagged ["button", "select", "textarea", "fieldset", "optgroup", "option"]]]

/-- What is disabled by itself, with its group of options, or with its set of fields; the first legend of a set is left
out. -/
def disabledChains : List Chain :=
  [.only [control, given "disabled"],
    .join (.only [.tag "optgroup", given "disabled"]) .child [.tag "option"],
    .join (.only [.tag "fieldset", given "disabled"]) .child [fieldControl],
    .join
      (.join (.only [.tag "fieldset", given "disabled"]) .child [.noneOf [.only [.tag "legend", firstOf false true]]])
      .descendant [fieldControl]]

/-- Types of inputs that show a placeholder. -/
def placeholderTypes : List String :=
  ["", "text", "search", "url", "tel", "email", "password", "number"]

/-- Inputs and areas for text that show their placeholder. -/
def placeholderChains : List Chain :=
  [.only [.tag "input", either [negated (given "type"), valued "type" placeholderTypes], given "placeholder",
      negated (valued "placeholder" [""]), either [negated (given "value"), valued "value" [""]]],
    .only [.tag "textarea", given "placeholder", negated (valued "placeholder" [""]), .unfilled]]

/-- Types of inputs that can be written in. -/
def writableTypes : List String :=
  ["", "date", "datetime-local", "email", "month", "number", "password", "search", "tel", "text", "time", "url", "week"]

/-- What can be written in: controls, and elements that are marked so. -/
def writableChains : List Chain :=
  [.only [.oneOf [.only [.tag "textarea"],
      .only [.tag "input", either [negated (given "type"), valued "type" writableTypes]]],
      .noneOf (.only [given "readonly"] :: disabledChains)],
    .only [either [valued "contenteditable" [""], .attr ⟨"contenteditable", .equal, "true".toList, true⟩]]]

/-- Inputs with bounds. -/
def boundedTests (inside : Bool) : List Test :=
  [.tag "input", valued "type" ["date", "month", "week", "time", "datetime-local", "number", "range"],
    either [given "min", given "max"], .bounded inside]

/-! ## Names -/

/-- Pseudo-classes that tell what happens to a page while it is shown. -/
def liveStates : List String :=
  [":active", ":autofill", ":buffering", ":current", ":focus", ":focus-visible", ":focus-within", ":fullscreen",
    ":future", ":host", ":hover", ":local-link", ":modal", ":past", ":paused", ":picture-in-picture", ":playing",
    ":popover-open", ":seeking", ":stalled", ":target", ":target-within", ":user-invalid", ":user-valid", ":visited",
    ":volume-locked"]

/-- Pseudo-classes with a list of selectors that tell what happens to a page while it is shown. -/
def liveNames : List String :=
  [":current", ":host", ":host-context"]

/-- Pseudo-classes with a list of selectors. Those for texts are among them, as their values may also be read
as such. -/
def listNames : List String :=
  [":not", ":is", ":where", ":matches", ":contains", ":-soup-contains", ":-soup-contains-own"]

/-- The tests of a pseudo-class without parentheses. -/
def simplePseudo? (name : String) : Option (List Test) :=
  match name with
  | ":first-child" => some [firstOf false false]
  | ":last-child" => some [firstOf true false]
  | ":only-child" => some [firstOf false false, firstOf true false]
  | ":first-of-type" => some [firstOf false true]
  | ":last-of-type" => some [firstOf true true]
  | ":only-of-type" => some [firstOf false true, firstOf true true]
  | ":empty" => some [.empty]
  | ":root" => some [.root]
  | ":scope" => some [.scope]
  | ":defined" => some [.defined]
  | ":link" | ":any-link" => some [tagged ["a", "area"], given "href"]
  | ":checked" => some [.oneOf checkedChains]
  | ":default" => some [.oneOf defaultChains]
  | ":indeterminate" => some [.oneOf indeterminateChains]
  | ":disabled" => some [.oneOf disabledChains]
  | ":enabled" => some [control, .noneOf disabledChains]
  | ":required" => some [tagged ["input", "select", "textarea"], given "required"]
  | ":optional" => some [tagged ["input", "select", "textarea"], negated (given "required")]
  | ":placeholder-shown" => some [.oneOf placeholderChains]
  | ":read-write" => some [.oneOf writableChains]
  | ":read-only" => some [.noneOf writableChains]
  | ":in-range" => some (boundedTests true)
  | ":out-of-range" => some (boundedTests false)
  | ":open" => some [tagged ["details", "dialog"], given "open"]
  | ":muted" => some [tagged ["video", "audio"], given "muted"]
  | name => if liveStates.contains name then some [.never] else none

/-- The direction that a pseudo-class asks for. -/
def namedDirection? (t : Text) : Option Direction :=
  let small := t.map Char.toLower
  if small == "ltr".toList then some .leftToRight
  else if small == "rtl".toList then some .rightToLeft
  else none

end Excerpt.Css
