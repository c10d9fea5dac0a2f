import DisplayClient.ObjectType.Counted
import DisplayClient.ObjectType.Sample
import DisplayClient.Protocol
import DisplayClient.Sequence.Strided
import DisplayClient.Session.Cookie
import DisplayClient.Transport.Unreliable
import DisplayClient.Proofs.Opcode.Placement
import DisplayClient.Proofs.Opcode.Replay
import DisplayClient.Proofs.Extension.Registered
import DisplayClient.Proofs.Extension.Resolution
import DisplayClient.Proofs.Session.Run
import DisplayClient.Proofs.Session.Answer
import DisplayClient.Proofs.Session.TableHistory
import DisplayClient.Proofs.Extension.Numbering
import DisplayClient.Proofs.Session.KeptAnswers
import DisplayClient.Proofs.Session.PresenceQueries
import DisplayClient.Proofs.Session.DeclaredDispatch
import DisplayClient.Proofs.Memory.LittleEndian
import DisplayClient.Proofs.Extension.Atomicity
import DisplayClient.Proofs.Session.Delivery
import DisplayClient.Proofs.Memory.Cutting
import DisplayClient.Proofs.Sequence.SelfDelimited
import DisplayClient.Proofs.ObjectType.RoundTrip
import DisplayClient.Proofs.Session.Transcript
import DisplayClient.Proofs.Session.Collecting
import DisplayClient.Proofs.Session.Issuing
import DisplayClient.Proofs.Session.CookieOrder
import DisplayClient.Proofs.Session.Correlation
import DisplayClient.Proofs.Display.Grammar
import DisplayClient.Proofs.Session.Closing
import DisplayClient.Proofs.Session.EventOrder
import DisplayClient.Proofs.Response.Trimming
import DisplayClient.Proofs.Session.CookieOutcome
import DisplayClient.Proofs.Display.FullSpelling
import DisplayClient.Proofs.Extension.FirstRegistration
import DisplayClient.Proofs.Session.Instantiation
import DisplayClient.Proofs.Opcode.Reordering
import DisplayClient.Proofs.Session.ResolutionOrder
import DisplayClient.Proofs.Session.ErrorPaths
import DisplayClient.Proofs.Sequence.Row
import DisplayClient.Proofs.Sequence.Windows
import DisplayClient.Proofs.Scalar.RoundTrip
import DisplayClient.Proofs.Opcode.LastWriter
import DisplayClient.Proofs.Scalar.Widening
import DisplayClient.Proofs.Sequence.Joining
import DisplayClient.Proofs.Sequence.Tiling
import DisplayClient.Proofs.Sequence.UniformSizes
import DisplayClient.Proofs.Memory.Nesting
import DisplayClient.Proofs.Response.Normalizing
import DisplayClient.Proofs.Extension.FirstConflict
import DisplayClient.Proofs.Session.DeclaredSlots
import DisplayClient.Proofs.Sequence.Locality
import DisplayClient.Proofs.Opcode.Extent
import DisplayClient.Proofs.Opcode.Replacement
import DisplayClient.Proofs.Extension.Overwriting
import DisplayClient.Proofs.Extension.Keeping
import DisplayClient.Proofs.Session.Sharing
import DisplayClient.Proofs.Scalar.Reading
