import DeviceIdentity.Device
import DeviceIdentity.Log.Console
import DeviceIdentity.Main
import DeviceIdentity.Partition.Interference
import DeviceIdentity.Proofs.Action
import DeviceIdentity.Proofs.Action.Reports
import DeviceIdentity.Proofs.Bytes
import DeviceIdentity.Proofs.P256.Residue
import DeviceIdentity.Proofs.P256.Group
import DeviceIdentity.Proofs.P256.Signature
import DeviceIdentity.Proofs.Der.Element
import DeviceIdentity.Proofs.Der.Composed
import DeviceIdentity.Proofs.Der.Encoding
import DeviceIdentity.Proofs.Der.Size
import DeviceIdentity.Proofs.Der.Integer
import DeviceIdentity.Proofs.CertRequest.Parts
import DeviceIdentity.Proofs.CertRequest.Decode
import DeviceIdentity.Proofs.CertRequest.Soundness
import DeviceIdentity.Proofs.Pem.RoundTrip
import DeviceIdentity.Proofs.Json.RoundTrip
import DeviceIdentity.Proofs.CertRequest.Formats
import DeviceIdentity.Proofs.Text.Pieces
import DeviceIdentity.Proofs.SubjectName
import DeviceIdentity.Proofs.CertRequest.Size
import DeviceIdentity.Proofs.CertRequest.Pieces
import DeviceIdentity.Proofs.Cbor.RoundTrip
import DeviceIdentity.Proofs.Cbor.Delimiting
import DeviceIdentity.Proofs.SignedValue.Verification
import DeviceIdentity.Proofs.SignedValue.RoundTrip
import DeviceIdentity.Proofs.SignedValue.Encode
import DeviceIdentity.Proofs.SignedValue.Delimiting
import DeviceIdentity.Proofs.Key.Table
import DeviceIdentity.Proofs.Key.Threads
import DeviceIdentity.Proofs.Partition.Calls
import DeviceIdentity.Proofs.Partition.Extension
import DeviceIdentity.Proofs.Partition.Run
import DeviceIdentity.Proofs.Partition.WriteOnce
import DeviceIdentity.Proofs.Device.Frame
import DeviceIdentity.Proofs.Device.Provisioning
import DeviceIdentity.Proofs.Key.Registry
import DeviceIdentity.Proofs.Device.History
import DeviceIdentity.Proofs.Device.SignedValues
import DeviceIdentity.Proofs.Partition.Signatures
import DeviceIdentity.Proofs.Partition.UuidCache
import DeviceIdentity.Proofs.Key.Interleaving
import DeviceIdentity.Proofs.HandOver.Threads
import DeviceIdentity.Proofs.HandOver.Knowledge
import DeviceIdentity.Proofs.HandOver.Interleaving
import DeviceIdentity.Proofs.Derivation.Labels
import DeviceIdentity.Proofs.CaExchange
import DeviceIdentity.Proofs.Provision.Layout
import DeviceIdentity.Proofs.Action.Related
import DeviceIdentity.Proofs.SecureService.Alike
import DeviceIdentity.Proofs.CertRequest.Related
import DeviceIdentity.Proofs.SecureService.Sanitised
import DeviceIdentity.Proofs.Partition.Reports
import DeviceIdentity.Proofs.Key.Reports
import DeviceIdentity.Proofs.CertRequest.Reports
import DeviceIdentity.Proofs.SignedValue.Reports
import DeviceIdentity.Proofs.Device.LogSecrecy
import DeviceIdentity.Proofs.CertRequest.Room
import DeviceIdentity.Proofs.Cbor.Front
import DeviceIdentity.Proofs.SignedValue.Determined
import DeviceIdentity.Proofs.SignedValue.Signing
import DeviceIdentity.Proofs.CaExchange.Response
import DeviceIdentity.Proofs.Pem.Surroundings
import DeviceIdentity.Proofs.SecureService.Inquiries
import DeviceIdentity.Proofs.Derivation.WholeKeys
import DeviceIdentity.Proofs.Key.Isolation
import DeviceIdentity.Proofs.Device.EncodedValues
import DeviceIdentity.Proofs.CertRequest.Stages
import DeviceIdentity.Proofs.Provision.Segments
import DeviceIdentity.Proofs.SubjectName.Grammar
import DeviceIdentity.Proofs.SubjectName.Encoding
import DeviceIdentity.Proofs.Log.Lines
import DeviceIdentity.Proofs.Text.Numeral
import DeviceIdentity.Proofs.Key.Grammar
import DeviceIdentity.Proofs.Der.Delimiting
import DeviceIdentity.Proofs.Bytes.Hex
import DeviceIdentity.Proofs.Uuid
import DeviceIdentity.Proofs.Settings
