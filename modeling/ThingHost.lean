import ThingHost.Configuration.Catalog
import ThingHost.Configuration.Server
import ThingHost.Script.Report
import ThingHost.Proofs.Thing.Serialization
import ThingHost.Proofs.Definition.Grammar
import ThingHost.Proofs.Configuration.Catalog
import ThingHost.Proofs.Configuration.Server
import ThingHost.Proofs.Text.Slug
import ThingHost.Proofs.Host.Agreement
import ThingHost.Proofs.Host.Completion
import ThingHost.Proofs.Host.Failure
import ThingHost.Proofs.Host.Isolation
import ThingHost.Proofs.Host.Replay
import ThingHost.Proofs.Host.Resolution
import ThingHost.Proofs.Host.Stream
import ThingHost.Proofs.Bus.Leaving
import ThingHost.Proofs.Host.Leaving
import ThingHost.Proofs.Host.Registry
import ThingHost.Proofs.Host.Handle
import ThingHost.Proofs.Host.Acts
import ThingHost.Proofs.Exposed.Standing
import ThingHost.Proofs.Host.Standing
import ThingHost.Proofs.Host.Gate
import ThingHost.Proofs.Host.Translation
import ThingHost.Proofs.Host.Adapter
import ThingHost.Proofs.Host.Address
import ThingHost.Proofs.Host.Status
import ThingHost.Proofs.Host.Invisible
import ThingHost.Proofs.Host.Forwarding
import ThingHost.Proofs.Bus.Throwing
import ThingHost.Proofs.Host.Below
import ThingHost.Proofs.Host.Containment
import ThingHost.Proofs.Host.Reserved
import ThingHost.Proofs.Host.Throwing
import ThingHost.Proofs.Bus.Without
import ThingHost.Proofs.Host.Without
import ThingHost.Proofs.Host.Shedding
import ThingHost.Proofs.Host.Couriers
import ThingHost.Proofs.Host.Outline
import ThingHost.Proofs.Host.Undisturbed
import ThingHost.Proofs.Host.NormalForm
import ThingHost.Proofs.Exposed.Keeping
import ThingHost.Proofs.Host.Keeping
import ThingHost.Proofs.Bus.Representation
import ThingHost.Proofs.Host.Representation
import ThingHost.Proofs.Bus.Ending
import ThingHost.Proofs.Host.Ending
