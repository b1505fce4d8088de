import LocaleSite.Command.Run
import LocaleSite.Main
import LocaleSite.Site.Encoding
import LocaleSite.Value.JsonReader
import LocaleSite.World.FileTree
import LocaleSite.Proofs.Nav.Position
import LocaleSite.Proofs.Nav.DepthFirst
import LocaleSite.Proofs.Nav.Reading
import LocaleSite.Proofs.Nav.RoundTrip
import LocaleSite.Proofs.Nav.Grammar
import LocaleSite.Proofs.Nav.Validity
import LocaleSite.Proofs.Nav.Verdict
import LocaleSite.Proofs.Nav.Steps
import LocaleSite.Proofs.Route
import LocaleSite.Proofs.KeyMap
import LocaleSite.Proofs.Site.Acceptance
import LocaleSite.Proofs.Site.Namespaces
import LocaleSite.Proofs.Site.PageGaps
import LocaleSite.Proofs.Locale.Build
import LocaleSite.Proofs.Site.Faults
import LocaleSite.Proofs.Site.Built
import LocaleSite.Proofs.Site.DeclarationOrder
import LocaleSite.Proofs.Value.Faithful
import LocaleSite.Proofs.Nav.Encoding
import LocaleSite.Proofs.Shape.Record
import LocaleSite.Proofs.Sidebar.Encoding
import LocaleSite.Proofs.Sidebar.Sections
import LocaleSite.Proofs.Site.Encoding
import LocaleSite.Proofs.Date
import LocaleSite.Proofs.Locale.TwoDates
import LocaleSite.Proofs.Site.TwoDates
import LocaleSite.Proofs.Site.RepeatedGaps
import LocaleSite.Proofs.Site.RootLinks
import LocaleSite.Proofs.Sidebar.Runs
import LocaleSite.Proofs.Site.Recomposition
import LocaleSite.Proofs.Definition.Discovery
import LocaleSite.Proofs.Definition.Loading
import LocaleSite.Proofs.Site.TruthfulGaps
import LocaleSite.Proofs.Site.Removal
import LocaleSite.Proofs.Locale.Acceptance
import LocaleSite.Proofs.Locale.Coherence
import LocaleSite.Proofs.Base.Fields
import LocaleSite.Proofs.Value.JsonLine
import LocaleSite.Proofs.Command.Agreement
import LocaleSite.Proofs.Locale.Relocation
import LocaleSite.Proofs.Expansion.Dollars
import LocaleSite.Proofs.Locale.GroupPattern
import LocaleSite.Proofs.Site.ExternalLinks
import LocaleSite.Proofs.Site.RoutedPaths
