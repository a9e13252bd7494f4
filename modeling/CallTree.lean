import CallTree.Http.Server
import CallTree.Main
import CallTree.Registry.Draft
import CallTree.Yaml.Cursor
import CallTree.Yaml.Fault
import CallTree.Text.Base64
import CallTree.Yaml.Token
import CallTree.Proofs.Execution.Isolation
import CallTree.Proofs.Execution.Soundness
import CallTree.Proofs.Execution.Locality
import CallTree.Proofs.Registry
import CallTree.Proofs.Execution.Inputs
import CallTree.Proofs.Execution.Order
import CallTree.Proofs.Execution.Envelopes
import CallTree.Proofs.Execution.Extension
import CallTree.Proofs.Registry.WellFormed
import CallTree.Proofs.Execution.References
import CallTree.Proofs.Http.Server
import CallTree.Proofs.Execution.Blocks
import CallTree.Proofs.Execution.ErrorLog
import CallTree.Proofs.Execution.Breadth
import CallTree.Proofs.Execution.Composition
import CallTree.Proofs.Node.Grammar
import CallTree.Proofs.Node.Written
import CallTree.Proofs.Execution.Written
import CallTree.Proofs.Json.Extent
import CallTree.Proofs.Payload.Transport
import CallTree.Proofs.Execution.Selection
import CallTree.Proofs.Check.Blame
import CallTree.Proofs.Check.Agreement
import CallTree.Proofs.Condition.Equality
import CallTree.Proofs.Condition.Conjunction
import CallTree.Proofs.Condition.Order
import CallTree.Proofs.Registry.Frame
import CallTree.Proofs.Registry.Tables
import CallTree.Proofs.Registry.Description
import CallTree.Proofs.Registry.Referable
import CallTree.Proofs.Registry.Malformed
import CallTree.Proofs.Settings.Environment
import CallTree.Proofs.Context.Log
import CallTree.Proofs.Descriptor.Tokens
import CallTree.Proofs.Explorer
import CallTree.Proofs.Command.Query
