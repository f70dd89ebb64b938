import Excerpt.Rule.Schema

/-!
# Rule sets for common pages

The generic rule set tries the usual `meta` elements and classes; the one for weblogs adds a root, a validator and the
author's address. Meta selectors come first, page selectors are for pages without them.
-/

namespace Excerpt.Preset

/-- A meta selector. -/
def fromMeta (key : String) : Doc :=
  .ofFields [("expr", .str key), ("source", .str "meta")]

/-- A page selector that reads an attribute. -/
def fromAttribute (expr name : String) : Doc :=
  .ofFields [("expr", .str expr), ("attribute", .str name)]

/-- Selectors for titles. -/
def titleSelectors : List Doc :=
  [fromMeta "og:title", fromMeta "twitter:title", .str ".entry-title", .str ".article-title",
    .str ".post-title", .str "h1"]

/-- Selectors for authors. -/
def authorSelectors : List Doc :=
  [fromMeta "author", fromMeta "article:author", .str "[rel='author']", .str ".author-name", .str ".byline .author"]

/-- Selectors for dates of publication. -/
def dateSelectors : List Doc :=
  [fromMeta "article:published_time", fromAttribute "time[datetime]" "datetime"]

/-- The usual forms of dates with the year first. -/
def datePatterns : List String :=
  ["%Y-%m-%dT%H:%M:%S%z", "%Y-%m-%dT%H:%M:%S.%f%z", "%Y-%m-%dT%H:%M:%S", "%Y-%m-%d"]

/-- Selectors for bodies. -/
def bodySelectors : List Doc :=
  [.ofFields [("expr", .str ".entry-content"), ("exclude", .strings ["div.sharedaddy", "div.jp-relatedposts"])],
    .ofFields [("expr", .str ".article-body")], .ofFields [("expr", .str "article")]]

/-- Selectors for images. -/
def imageSelectors : List Doc :=
  [fromMeta "og:image", fromMeta "twitter:image", .str "article img"]

/-- Selectors for the address of the page. -/
def urlSelectors : List Doc :=
  [fromMeta "og:url", fromAttribute "link[rel='canonical']" "href"]

/-- Filters for what follows or interrupts a body. -/
def bodyFilters : List Doc :=
  [.ofFields
      [("expr", .str "(?i)(?:related|recommended) (?:posts|articles|reading).*"), ("scope", .str "body"),
        ("stop", .bool true)],
    .ofFields [("expr", .str "(?i)share this:?"), ("scope", .str "all")],
    .ofFields [("expr", .str "(?i)advertisement"), ("scope", .str "all")]]

/-- A field rule with selectors that may be missing from a page. -/
def optionalField (selectors : List Doc) (more : List (String × Doc)) : Doc :=
  .ofFields (("selectors", .list selectors) :: more ++ [("optional", .bool true)])

/-- The document of the generic rule set. -/
def genericDoc : Doc :=
  .ofFields
    [("title",
        .ofFields
          [("selectors", .list titleSelectors),
            ("filter", .ofFields [("expr", .str "(?i)advertisement.*"), ("stop", .bool true)])]),
      ("author", optionalField authorSelectors []),
      ("published-date", optionalField dateSelectors [("date-patterns", .strings datePatterns)]),
      ("body", .ofFields [("selectors", .list bodySelectors), ("filters", .list bodyFilters)]),
      ("image", optionalField imageSelectors []), ("url", optionalField urlSelectors [])]

/-- What the rule set for weblogs changes. -/
def weblogChanges : Doc.Entries :=
  [(.str "root", .ofFields [("expr", .str "article.post, article.type-post, main")]),
    (.str "validator", .ofFields [("selector", .str ".entry-title, .post-title")]),
    (.str "author", optionalField ([.str ".author.vcard a", .str ".author-name"] ++ authorSelectors) []),
    (.str "author_link",
      .ofFields [("selector", fromAttribute ".author.vcard a" "href"), ("optional", .bool true)])]

/-- The generic rule set. -/
def generic : Except LoadError RuleSet :=
  RuleSet.schema.read genericDoc

/-- The rule set for weblogs. -/
def weblog : Except LoadError RuleSet := do
  RuleSet.schema.derive (← generic) weblogChanges

/-- The rule set with a name. -/
def named? : String → Option (Except LoadError RuleSet)
  | "generic" => some generic
  | "wordpress" => some weblog
  | _ => none

end Excerpt.Preset
