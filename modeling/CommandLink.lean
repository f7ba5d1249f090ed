import CommandLink.Bson.Serial
import CommandLink.Buffer.Custody
import CommandLink.Connection.Plan
import CommandLink.Connection.Opening
import CommandLink.Message.Sighting
import CommandLink.Reply.Count
import CommandLink.Report
import CommandLink.Transport.Script
import CommandLink.Proofs.Address
import CommandLink.Proofs.Buffer.Release
import CommandLink.Proofs.Codec.Bounded
import CommandLink.Proofs.Compressor.Selection
import CommandLink.Proofs.Message.Outbound
import CommandLink.Proofs.Message.Query
import CommandLink.Proofs.Connection.Alignment
import CommandLink.Proofs.Connection.Bounds
import CommandLink.Proofs.Connection.Credentials
import CommandLink.Proofs.Connection.Delivery
import CommandLink.Proofs.Connection.Framing
import CommandLink.Proofs.Connection.Lifecycle
import CommandLink.Proofs.Connection.Modes
import CommandLink.Proofs.Connection.Negotiation
import CommandLink.Proofs.Connection.Parts
import CommandLink.Proofs.Connection.Profile
import CommandLink.Proofs.Connection.Publication
import CommandLink.Proofs.Connection.Returns
import CommandLink.Proofs.Connection.Sender
import CommandLink.Proofs.Connection.Setback
import CommandLink.Proofs.Message.Lengths
import CommandLink.Proofs.Message.ReplyGrammar
import CommandLink.Proofs.Reply.Success
