import LiveThread.Connection.Session
import LiveThread.Input.Reference
import LiveThread.Post.Change
import LiveThread.Transport.Memory
import LiveThread.Proofs.Composition.Move
import LiveThread.Proofs.Composition.Replay
import LiveThread.Proofs.Json.Literals
import LiveThread.Proofs.Json.Grammar
import LiveThread.Proofs.Json.Printed
import LiveThread.Proofs.Json.Documents
import LiveThread.Proofs.Json.Records
import LiveThread.Proofs.Json.Shapes
import LiveThread.Proofs.Json.Fields
import LiveThread.Proofs.Wire.Schemas
import LiveThread.Proofs.Wire.RoundTrip
import LiveThread.Proofs.Wire.Fields
import LiveThread.Proofs.Wire.Grammar
import LiveThread.Proofs.Composition.Settled
import LiveThread.Proofs.Composition.History
import LiveThread.Proofs.Composition.Image
import LiveThread.Proofs.Composition.Course
import LiveThread.Proofs.Composition.Requests
import LiveThread.Proofs.Composition.Closing
import LiveThread.Proofs.Page.Steps
import LiveThread.Proofs.Page.Moves
import LiveThread.Proofs.Page.Echoes
import LiveThread.Proofs.Page.Allocation
import LiveThread.Proofs.Composition.Silence
import LiveThread.Proofs.Composition.Uploads
import LiveThread.Proofs.Composition.InFlight
import LiveThread.Proofs.Page.Batches
import LiveThread.Proofs.Page.Silence
import LiveThread.Proofs.Page.Targets
import LiveThread.Proofs.Composition.Retries
import LiveThread.Proofs.Page.OwnPost
import LiveThread.Proofs.Page.ClosedPost
import LiveThread.Proofs.Page.LateCopies
import LiveThread.Proofs.Page.EchoOrder
import LiveThread.Proofs.Page.Events
import LiveThread.Proofs.Page.ForeignPosts
import LiveThread.Proofs.Page.ReservedId
import LiveThread.Proofs.Page.Nesting
import LiveThread.Proofs.Page.Filters
import LiveThread.Proofs.Page.Snapshots
import LiveThread.Proofs.Registry.LastWrites
import LiveThread.Proofs.Page.Site
import LiveThread.Proofs.Composition.Refusal
import LiveThread.Proofs.Connection.Use
import LiveThread.Proofs.Connection.Ends
import LiveThread.Proofs.Input.LeastEdits
import LiveThread.Proofs.Page.Listeners
import LiveThread.Proofs.Connection.Sockets
import LiveThread.Proofs.Connection.Course
import LiveThread.Proofs.Connection.Reading
import LiveThread.Proofs.Connection.Writing
import LiveThread.Proofs.Input.Limits
import LiveThread.Proofs.Input.References
import LiveThread.Proofs.Post.Edits
