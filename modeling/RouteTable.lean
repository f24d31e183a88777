import RouteTable.Route.Matching
import RouteTable.Site.Assembly
import RouteTable.Version
import RouteTable.Proofs.Regex.Language
import RouteTable.Proofs.Regex.Reading
import RouteTable.Proofs.Regex.Anchoring
import RouteTable.Proofs.Regex.Passing
import RouteTable.Proofs.Pattern.Meaning
import RouteTable.Proofs.Pattern.Numbering
import RouteTable.Proofs.Pattern.Wholeness
import RouteTable.Proofs.Pattern.Capturing
import RouteTable.Proofs.Pattern.Rendering
import RouteTable.Proofs.Pattern.Ordinals
import RouteTable.Proofs.Pattern.FaultPositions
import RouteTable.Proofs.Destination.Rewriting
import RouteTable.Proofs.Route.Shapes
import RouteTable.Proofs.Route.Anchored
import RouteTable.Proofs.Route.Wire
import RouteTable.Proofs.Route.Verdicts
import RouteTable.Proofs.Site.Assemblers
import RouteTable.Proofs.Site.Failures
import RouteTable.Proofs.Template.GroupNumbers
import RouteTable.Proofs.Template.Decomposition
import RouteTable.Proofs.Template.Sources
import RouteTable.Proofs.Site.ValidSources
import RouteTable.Proofs.Site.CleanTargets
import RouteTable.Proofs.Site.HeaderRules
import RouteTable.Proofs.Rule.OtherKeys
