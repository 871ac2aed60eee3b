import StateMachine.Argument
import StateMachine.Calendar
import StateMachine.Checkpoint
import StateMachine.Checkpoint.Binary
import StateMachine.Checkpoint.Encoded
import StateMachine.Checkpoint.Error
import StateMachine.Checkpoint.JsonReader
import StateMachine.Checkpoint.JsonWriter
import StateMachine.Compiler
import StateMachine.Compiler.Handle
import StateMachine.Decimal.Shortest
import StateMachine.Diagnostics
import StateMachine.Event
import StateMachine.Fired
import StateMachine.Json.Lexer
import StateMachine.Json.Numeral
import StateMachine.Json.Quoted
import StateMachine.Json.Skip
import StateMachine.Json.Token
import StateMachine.Json.Typed
import StateMachine.Keyed
import StateMachine.Layout
import StateMachine.Log
import StateMachine.Machine
import StateMachine.Machine.Operation
import StateMachine.Machine.Run
import StateMachine.Machine.Use
import StateMachine.Memory
import StateMachine.Name
import StateMachine.Octets
import StateMachine.Proofs.Acceptance
import StateMachine.Proofs.ArgumentSafety
import StateMachine.Proofs.BinaryLayout
import StateMachine.Proofs.BinaryRoundTrip
import StateMachine.Proofs.Calendar
import StateMachine.Proofs.Calls
import StateMachine.Proofs.Compilation
import StateMachine.Proofs.DeclarationOrder
import StateMachine.Proofs.Dispatch
import StateMachine.Proofs.EqualInputs
import StateMachine.Proofs.HandleScope
import StateMachine.Proofs.Isolation
import StateMachine.Proofs.JsonObjects
import StateMachine.Proofs.JsonRoundTrip
import StateMachine.Proofs.JsonSyntax
import StateMachine.Proofs.Naming
import StateMachine.Proofs.Nesting
import StateMachine.Proofs.Octets
import StateMachine.Proofs.Prediction
import StateMachine.Proofs.Queries
import StateMachine.Proofs.Reachability
import StateMachine.Proofs.Replay
import StateMachine.Proofs.ReportedState
import StateMachine.Proofs.Representation
import StateMachine.Proofs.Restoration
import StateMachine.Proofs.Resumption
import StateMachine.Proofs.Timestamp
import StateMachine.Proofs.Tokens
import StateMachine.Proofs.TornCheckpoints
import StateMachine.Proofs.VersionGate
import StateMachine.Scenario.Check
import StateMachine.Scenario.Condition
import StateMachine.Scenario.Effect
import StateMachine.Scenario.Kind
import StateMachine.Scenario.Session
import StateMachine.Scenario.Step
import StateMachine.Scenario.Surroundings
import StateMachine.Scenario.Vocabulary
import StateMachine.Script
import StateMachine.Storable
import StateMachine.Table
import StateMachine.Text.Blank
import StateMachine.Text.Invisible
import StateMachine.Text.Shown
import StateMachine.Timestamp
import StateMachine.Timestamp.Reader
import StateMachine.Timestamp.Writer
import StateMachine.Transition
import StateMachine.Variants
