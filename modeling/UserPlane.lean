import UserPlane.Main
import UserPlane.Proofs.Number
import UserPlane.Proofs.Network
import UserPlane.Proofs.Reading
import UserPlane.Proofs.Declaration
import UserPlane.Proofs.Offence
import UserPlane.Proofs.Format
import UserPlane.Proofs.Acceptance
import UserPlane.Proofs.Spelling
import UserPlane.Proofs.Emission
import UserPlane.Proofs.Encodability
import UserPlane.Proofs.Conformance
import UserPlane.Proofs.RoundTrip
import UserPlane.Proofs.Image
import UserPlane.Proofs.Canonical
import UserPlane.Proofs.Slot
import UserPlane.Proofs.Influence
import UserPlane.Proofs.Width
import UserPlane.Proofs.Text.ByteString
import UserPlane.Proofs.Text.Numeral
import UserPlane.Proofs.Text.Prefix
import UserPlane.Proofs.Containment
import UserPlane.Proofs.Overriding
import UserPlane.Proofs.Drafting.Form
import UserPlane.Proofs.Drafting
import UserPlane.Proofs.Behaviour
import UserPlane.Proofs.Diagnosis.Check
import UserPlane.Proofs.Diagnosis.Step
import UserPlane.Proofs.Diagnosis
import UserPlane.Proofs.Json.Number
import UserPlane.Proofs.Json.Text
import UserPlane.Proofs.Json.Document
import UserPlane.Proofs.Json.Shape
import UserPlane.Proofs.Json.Wire
import UserPlane.Proofs.Json.Entities
import UserPlane.Proofs.Classification
import UserPlane.Proofs.Diagnosis.Remaining
import UserPlane.Proofs.Repetition
import UserPlane.Proofs.Tool.Accounting
import UserPlane.Proofs.Tool.RoundTrip
