import IdentityProof.Bech32
import IdentityProof.Bn254.Curve
import IdentityProof.Bn254.Field
import IdentityProof.Bn254.Pairing
import IdentityProof.Calendar.Date
import IdentityProof.Calendar.Moment
import IdentityProof.Fault
import IdentityProof.Files
import IdentityProof.Groth16.Coordinate
import IdentityProof.Groth16.Error
import IdentityProof.Groth16.Groups
import IdentityProof.Groth16.Key
import IdentityProof.Groth16.Verify
import IdentityProof.Json.Reader
import IdentityProof.Json.Source
import IdentityProof.Json.Text
import IdentityProof.Json.Value
import IdentityProof.Keccak
import IdentityProof.Number.Basic
import IdentityProof.Number.Binary64
import IdentityProof.Number.Decimal
import IdentityProof.Number.Integer
import IdentityProof.Number.Shortest
import IdentityProof.Policy.Basic
import IdentityProof.Policy.Setting
import IdentityProof.Proof
import IdentityProof.Registry.Address
import IdentityProof.Registry.Answer
import IdentityProof.Registry.Client
import IdentityProof.Root.Basic
import IdentityProof.Root.Cache
import IdentityProof.Root.Callers
import IdentityProof.Root.Config
import IdentityProof.Root.Fleet
import IdentityProof.Root.Ledger
import IdentityProof.Root.Operation
import IdentityProof.Root.Pool
import IdentityProof.Root.Session
import IdentityProof.Root.Verifier
import IdentityProof.Root.World
import IdentityProof.Rule.Basic
import IdentityProof.Rule.EventData
import IdentityProof.Rule.Outcome
import IdentityProof.Signal.Layout
import IdentityProof.Signal.PackedDate
import IdentityProof.Signal.Packing
import IdentityProof.Text.Capital
import IdentityProof.Text.Character
import IdentityProof.Text.Encoding
import IdentityProof.Text.Quoted
import IdentityProof.Text.Sigma
import IdentityProof.Text.Tables
import IdentityProof.Verification.Error
import IdentityProof.Verification.Signals
import IdentityProof.Verification.Structure
import IdentityProof.Verification.Verify
import IdentityProof.Verifier
import IdentityProof.Proofs.Bech32
import IdentityProof.Proofs.Bech32.RoundTrip
import IdentityProof.Proofs.Bn254.Field
import IdentityProof.Proofs.Bn254.GroupLaw
import IdentityProof.Proofs.Bn254.Prime
import IdentityProof.Proofs.Bn254.Twist
import IdentityProof.Proofs.Calendar.Anniversary
import IdentityProof.Proofs.Calendar.DayNumber
import IdentityProof.Proofs.Calendar.Shift
import IdentityProof.Proofs.Calendar.Timestamp
import IdentityProof.Proofs.Document
import IdentityProof.Proofs.Fault
import IdentityProof.Proofs.Groth16.Admitted
import IdentityProof.Proofs.Groth16.Encoding
import IdentityProof.Proofs.Groth16.Equation
import IdentityProof.Proofs.Groth16.Exponents
import IdentityProof.Proofs.Groth16.Infinity
import IdentityProof.Proofs.Groth16.Loading
import IdentityProof.Proofs.Groth16.Meaning
import IdentityProof.Proofs.Groth16.Values
import IdentityProof.Proofs.Json.Falsy
import IdentityProof.Proofs.Json.Faults
import IdentityProof.Proofs.Json.Integer
import IdentityProof.Proofs.Json.Nesting
import IdentityProof.Proofs.Json.Text
import IdentityProof.Proofs.Policy.Made
import IdentityProof.Proofs.Policy.Parts
import IdentityProof.Proofs.Root.Callers
import IdentityProof.Proofs.Root.Config
import IdentityProof.Proofs.Root.ConfigParts
import IdentityProof.Proofs.Root.Confirm
import IdentityProof.Proofs.Root.Fleet
import IdentityProof.Proofs.Root.FleetRun
import IdentityProof.Proofs.Root.Life
import IdentityProof.Proofs.Root.Lifetime
import IdentityProof.Proofs.Root.Session
import IdentityProof.Proofs.Root.Spelling
import IdentityProof.Proofs.Root.Verdict
import IdentityProof.Proofs.Rule.Address
import IdentityProof.Proofs.Rule.Age
import IdentityProof.Proofs.Rule.Failures
import IdentityProof.Proofs.Rule.Faults
import IdentityProof.Proofs.Rule.Refusal
import IdentityProof.Proofs.Signal.Codec
import IdentityProof.Proofs.Signal.DateText
import IdentityProof.Proofs.Signal.Decimal
import IdentityProof.Proofs.Signal.Layout
import IdentityProof.Proofs.Signal.LeadingZeros
import IdentityProof.Proofs.Signal.Numeral
import IdentityProof.Proofs.Signal.Overlong
import IdentityProof.Proofs.Signal.Packing
import IdentityProof.Proofs.Signal.Report
import IdentityProof.Proofs.Signal.RoundTrip
import IdentityProof.Proofs.Verification.Accepted
import IdentityProof.Proofs.Verification.Account
import IdentityProof.Proofs.Verification.Age
import IdentityProof.Proofs.Verification.Aging
import IdentityProof.Proofs.Verification.Construction
import IdentityProof.Proofs.Verification.EventData
import IdentityProof.Proofs.Verification.Faults
import IdentityProof.Proofs.Verification.Fields
import IdentityProof.Proofs.Verification.Interference
import IdentityProof.Proofs.Verification.Layers
import IdentityProof.Proofs.Verification.Limits
import IdentityProof.Proofs.Verification.Nullifier
import IdentityProof.Proofs.Verification.Phases
import IdentityProof.Proofs.Verification.Reports
import IdentityProof.Proofs.Verification.Run
import IdentityProof.Proofs.Verification.Structure
import IdentityProof.Proofs.Verification.Values
import IdentityProof.Proofs.Verification.Window
