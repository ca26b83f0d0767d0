import Recast.Bridge.Items
import Recast.Bridge.Textual
import Recast.Registry.Typed
import Recast.Proofs.Bridge.Equality
import Recast.Proofs.Bridge.Lawful
import Recast.Proofs.Bridge.Allocation
import Recast.Proofs.Registry.Modes
import Recast.Proofs.Registry.Idempotence
import Recast.Proofs.Value.RoundTrip
import Recast.Proofs.Value.Encoding
import Recast.Proofs.Value.Normalization
import Recast.Proofs.Registry.Frame
import Recast.Proofs.Registry.Order
import Recast.Proofs.Registry.Nesting
import Recast.Proofs.Number.SecondSign
import Recast.Proofs.Number.HexText
import Recast.Proofs.Registry.Misfit
import Recast.Proofs.Scalar.Narrowing
import Recast.Proofs.Registry.Elementwise
import Recast.Proofs.Registry.Visits
import Recast.Proofs.Number.OwnText
import Recast.Proofs.Registry.ThroughText
import Recast.Proofs.Registry.Optional
import Recast.Proofs.Time.Units
import Recast.Proofs.Registry.Whitespace
import Recast.Proofs.Number.Comparing
import Recast.Proofs.Number.DecimalFloat
import Recast.Proofs.Registry.Blank
import Recast.Proofs.Scalar.Numeric
import Recast.Proofs.Scalar.SingleRange
import Recast.Proofs.Text.Descriptors
import Recast.Proofs.Bridge.Pulling
import Recast.Proofs.Number.Equality
import Recast.Proofs.Value.Equality
import Recast.Proofs.Registry.Milliseconds
import Recast.Proofs.Text.TypeNames
