import Excerpt.Main
import Excerpt.Proofs.Body.Conservation
import Excerpt.Proofs.Body.Exclusion
import Excerpt.Proofs.Extract.Gate
import Excerpt.Proofs.Extract.Outcome
import Excerpt.Proofs.Doc.Overlay
import Excerpt.Proofs.Rule.Rebuilt
import Excerpt.Rule.Preset
import Excerpt.Settings.Environment
import Excerpt.Proofs.Rule.Normalized
import Excerpt.Proofs.Rule.Overlaid
import Excerpt.Proofs.Rule.WrittenOrder
import Excerpt.Proofs.Rule.Reordered
import Excerpt.Proofs.Extract.Faults
import Excerpt.Proofs.Rule.Failures
import Excerpt.Proofs.Body.Provenance
import Excerpt.Proofs.Body.Tags
import Excerpt.Proofs.Regex.Nested
import Excerpt.Proofs.Rule.Composed
import Excerpt.Proofs.Rule.Lawful
import Excerpt.Proofs.Extract.StopFilter
import Excerpt.Proofs.Rule.Replaced
import Excerpt.Proofs.Extract.Confined
import Excerpt.Proofs.Rule.ListKeys
import Excerpt.Proofs.Url.Site
import Excerpt.Proofs.Body.PlainText
import Excerpt.Proofs.Body.Reread
import Excerpt.Proofs.Extract.Narrowed
import Excerpt.Proofs.Url.Reread
import Excerpt.Proofs.Url.PathEnd
import Excerpt.Proofs.Url.Finished
import Excerpt.Proofs.Url.Untouched
import Excerpt.Proofs.Url.Settled
import Excerpt.Proofs.Extract.Candidates
import Excerpt.Proofs.Extract.MetaBody
import Excerpt.Proofs.Body.Builder
import Excerpt.Proofs.Body.Growth
import Excerpt.Proofs.Body.Titles
import Excerpt.Proofs.Body.Emitted
import Excerpt.Proofs.Body.Wrapped
import Excerpt.Proofs.Body.OwnLists
import Excerpt.Proofs.Body.SummaryLength
import Excerpt.Proofs.Body.SummaryEnd
import Excerpt.Proofs.Body.SummarySkips
import Excerpt.Proofs.Body.References
import Excerpt.Proofs.Body.LoneBreaks
import Excerpt.Proofs.Body.Parts
import Excerpt.Proofs.Body.Recovered
import Excerpt.Proofs.Page.Stripped
import Excerpt.Proofs.Body.Unwrapped
import Excerpt.Proofs.Body.ClosedBlocks
import Excerpt.Proofs.Body.InlineRuns
import Excerpt.Proofs.Url.Parameters
import Excerpt.Proofs.Url.SourceSet
import Excerpt.Proofs.Page.MetaContent
import Excerpt.Proofs.Css.Excludes
import Excerpt.Proofs.Doc.Paths
import Excerpt.Proofs.Rule.ShortForms
import Excerpt.Proofs.Rule.NormalForm
import Excerpt.Proofs.Body.Links
