import PolicyGate.Query.Compile
import PolicyGate.Gateway.Row
import PolicyGate.Json.Skim
import PolicyGate.Token.Base64
import PolicyGate.Token.Sha256
import PolicyGate.Text.Utf8
import PolicyGate.Token.Signed
import PolicyGate.Config.Read
import PolicyGate.Gateway.Serve
import PolicyGate.Main
import PolicyGate.Proofs.Calendar.Range
import PolicyGate.Proofs.Caller.Resolution
import PolicyGate.Proofs.Double
import PolicyGate.Proofs.Filter.Evaluation
import PolicyGate.Proofs.Gateway.Authentication
import PolicyGate.Proofs.Gateway.Denial
import PolicyGate.Proofs.Gateway.Noninterference
import PolicyGate.Proofs.Gateway.Serving
import PolicyGate.Proofs.Grants.Encoding
import PolicyGate.Proofs.Grants.Faults
import PolicyGate.Proofs.Grants.Lookup
import PolicyGate.Proofs.Grants.Packages
import PolicyGate.Proofs.Grants.Scope
import PolicyGate.Proofs.Json.Reading
import PolicyGate.Proofs.Json.Scanning
import PolicyGate.Proofs.Outcomes
import PolicyGate.Proofs.Pipeline.Reshaping
import PolicyGate.Proofs.Pipeline.Selection
import PolicyGate.Proofs.Query.Acceptance
import PolicyGate.Proofs.Query.Coercion
import PolicyGate.Proofs.Query.Compiled
import PolicyGate.Proofs.Query.Provenance
import PolicyGate.Proofs.Query.RowCap
import PolicyGate.Proofs.Text.Utf8
import PolicyGate.Proofs.Token.Base64
import PolicyGate.Proofs.Token.Issue
import PolicyGate.Proofs.Token.Validation
import PolicyGate.Proofs.Value.Equality
import PolicyGate.Proofs.Value.Nodes
import PolicyGate.Proofs.Value.Order
import PolicyGate.Proofs.Value.Rendering
import PolicyGate.Proofs.Pipeline.Refusal
import PolicyGate.Proofs.Query.Redirection
import PolicyGate.Proofs.Store.Seeding
import PolicyGate.Proofs.Query.Idempotence
import PolicyGate.Proofs.Query.Traversal
import PolicyGate.Proofs.Filter.Sequence
import PolicyGate.Proofs.Filter.Rewording
import PolicyGate.Proofs.Filter.Reordering
import PolicyGate.Proofs.Filter.Missing
import PolicyGate.Proofs.Query.Forms
import PolicyGate.Proofs.Pipeline.Sorting
import PolicyGate.Proofs.Pipeline.Projection
import PolicyGate.Proofs.Pipeline.Unsetting
import PolicyGate.Proofs.Filter.Integers
import PolicyGate.Proofs.Calendar.Days
import PolicyGate.Proofs.Calendar.Reading
import PolicyGate.Proofs.Gateway.Subscription
import PolicyGate.Proofs.Query.Reading
import PolicyGate.Proofs.Value.Writing
import PolicyGate.Proofs.Value.Paths
import PolicyGate.Proofs.Value.Editing
import PolicyGate.Proofs.Store.History
import PolicyGate.Proofs.Calendar.Formats
import PolicyGate.Proofs.Gateway.Startup
