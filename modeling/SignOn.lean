import SignOn.Service.Setup
import SignOn.Record.Editable
import SignOn.Failure.Draft
import SignOn.Log.Logger
import SignOn.Url.Derived
import SignOn.Proofs.Courses
import SignOn.Proofs.Run
import SignOn.Proofs.Replies
import SignOn.Proofs.Membership
import SignOn.Proofs.Staleness
import SignOn.Proofs.Escapes
import SignOn.Proofs.Segments
import SignOn.Proofs.Lookup
import SignOn.Proofs.Failures
import SignOn.Proofs.Secrecy
import SignOn.Proofs.Endpoint
import SignOn.Proofs.Writes
import SignOn.Proofs.Bearer
import SignOn.Proofs.Rereading
import SignOn.Proofs.Clocks
import SignOn.Proofs.Traces
import SignOn.Proofs.Gateway
import SignOn.Proofs.Answers
import SignOn.Proofs.Rehearsal
import SignOn.Proofs.Isolation
import SignOn.Proofs.Nameless
import SignOn.Proofs.RequestIds
import SignOn.Proofs.Precedence
import SignOn.Proofs.Expiry
import SignOn.Proofs.Heartbeat
import SignOn.Proofs.Verdicts
import SignOn.Proofs.Refreshing
import SignOn.Proofs.Resolving
import SignOn.Proofs.Grammar
import SignOn.Proofs.Classification
import SignOn.Proofs.Agreement
import SignOn.Proofs.Budget
import SignOn.Proofs.Echoing
import SignOn.Proofs.AllowLists
import SignOn.Proofs.QueryTokens
import SignOn.Proofs.KeyPaths
import SignOn.Proofs.ContextRuns
import SignOn.Proofs.RecordFields
