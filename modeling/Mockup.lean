import Mockup.Command.Outcome
import Mockup.Document.Decoding
import Mockup.Main
import Mockup.Proofs.Text.Cut
import Mockup.Proofs.Text.Slug
import Mockup.Proofs.Rules
import Mockup.Proofs.Checks
import Mockup.Proofs.Directives
import Mockup.Proofs.Directives.Faults
import Mockup.Proofs.Inline
import Mockup.Proofs.Inline.Shown
import Mockup.Proofs.Draft
import Mockup.Proofs.Reading
import Mockup.Proofs.Draft.Notation
import Mockup.Proofs.Draft.Fields
import Mockup.Proofs.Buttons
import Mockup.Proofs.Draft.Buttons
import Mockup.Proofs.Draft.RoundTrip
import Mockup.Proofs.Draft.Tables
import Mockup.Proofs.Reading.Course
import Mockup.Proofs.Strictness
import Mockup.Proofs.WellFormed
import Mockup.Proofs.WellFormed.Lines
import Mockup.Proofs.WellFormed.Documents
import Mockup.Proofs.Html.Preview
import Mockup.Proofs.Html.Grid
import Mockup.Proofs.Jsx.States
import Mockup.Proofs.Jsx.Properties
import Mockup.Proofs.Compile
import Mockup.Proofs.Jsx.Wiring
import Mockup.Proofs.Jsx.Ids
import Mockup.Proofs.Jsx.Options
import Mockup.Proofs.Reading.Renumbering
import Mockup.Proofs.Reading.Composition
import Mockup.Proofs.Reading.Closing
import Mockup.Proofs.Reading.Items
import Mockup.Proofs.Reading.Brackets
import Mockup.Proofs.Reading.Diagnostics
import Mockup.Proofs.Reading.Selection
import Mockup.Proofs.Reading.Layout
import Mockup.Proofs.Reading.LineEnds
import Mockup.Proofs.Document.Nesting
import Mockup.Proofs.Document.RoundTrip
import Mockup.Proofs.Entities.Exact
import Mockup.Proofs.Html.Markup
import Mockup.Proofs.Jsx.Grammar
import Mockup.Proofs.Jsx.Derivation
import Mockup.Proofs.Jsx.Tags
import Mockup.Proofs.Jsx.Vocabulary
import Mockup.Proofs.Jsx.Imports
import Mockup.Proofs.Jsx.Literals
import Mockup.Proofs.Checks.Markers
import Mockup.Proofs.Command.Arguments
import Mockup.Proofs.Command.Outcome
