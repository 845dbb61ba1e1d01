import BadgeLink.Link.Scripted
import BadgeLink.Main
import BadgeLink.Session.Scripted
import BadgeLink.Proofs.Command.Stream
import BadgeLink.Proofs.Badge.Pairing
import BadgeLink.Proofs.Serial.Refinement
import BadgeLink.Shared
import BadgeLink.Proofs.Handshake.Attempts
import BadgeLink.Proofs.Handshake.Report
import BadgeLink.Proofs.Badge.Buffered
import BadgeLink.Proofs.Shared.Interleaving
import BadgeLink.Proofs.Shared.Serialization
import BadgeLink.Proofs.Badge.RoundTrip
import BadgeLink.Proofs.Shared.Delivery
import BadgeLink.Proofs.Badge.LateAcks
import BadgeLink.Proofs.Session.Record
import BadgeLink.Proofs.Session.Course
import BadgeLink.Proofs.Session.Release
import BadgeLink.Proofs.Session.Wire
import BadgeLink.Proofs.Command.Body
import BadgeLink.Proofs.Link.Transfer
import BadgeLink.Proofs.Badge.Faults
import BadgeLink.Proofs.Frame.Corruption
import BadgeLink.Proofs.RegisterAddress.Shortest
import BadgeLink.Proofs.Serial.Conduct
import BadgeLink.Proofs.Serial.Deadline
import BadgeLink.Proofs.Serial.ResponseTime
import BadgeLink.Proofs.Text.Numeral
import BadgeLink.Proofs.Text.Hex
import BadgeLink.Proofs.Config.Document
import BadgeLink.Proofs.Badge.Transcript
