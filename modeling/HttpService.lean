import HttpService.Concurrency.Descent
import HttpService.Concurrency.Job
import HttpService.Concurrency.Machine
import HttpService.Deadline
import HttpService.Fault
import HttpService.Files
import HttpService.Headers
import HttpService.Json.Binary64
import HttpService.Json.Failure
import HttpService.Json.Reader
import HttpService.Json.Value
import HttpService.Json.Writer
import HttpService.Listener
import HttpService.Log
import HttpService.MediaType
import HttpService.Method
import HttpService.Network.Address
import HttpService.Pipeline.Answer
import HttpService.Pipeline.Chain
import HttpService.Pipeline.Config
import HttpService.Pipeline.Connection
import HttpService.Pipeline.Endpoint
import HttpService.Pipeline.FaultBoundary
import HttpService.Pipeline.Guard
import HttpService.Query
import HttpService.Request
import HttpService.RequestError
import HttpService.Response
import HttpService.Routing.Pattern
import HttpService.Routing.Rewrite
import HttpService.Routing.Router
import HttpService.Routing.Template
import HttpService.Routing.Trie
import HttpService.Scenario.Journal
import HttpService.Scenario.Loopback
import HttpService.Scenario.Script
import HttpService.Scenario.Session
import HttpService.Service
import HttpService.Startup
import HttpService.Status
import HttpService.Target
import HttpService.Text.Blank
import HttpService.Text.Numeral
import HttpService.Text.Percent
import HttpService.Text.Printable
import HttpService.Text.Quoted
import HttpService.Text.Split
import HttpService.Text.Utf8
import HttpService.Text.Word
import HttpService.Wire.Framing
import HttpService.Wire.Lines
import HttpService.Wire.RequestReader
import HttpService.Json.Decode
import HttpService.Scenario.Document.Error
import HttpService.Scenario.Document.Script
import HttpService.Scenario.Document.Session
import HttpService.Proofs.Results
import HttpService.Proofs.Concurrency.Performing
import HttpService.Proofs.Routing.Lookup
import HttpService.Proofs.Wire.Terminator
import HttpService.Proofs.Wire.RoundTrip
import HttpService.Proofs.Wire.Agreement
import HttpService.Proofs.Wire.BodyFraming
import HttpService.Proofs.Wire.PlainHead
import HttpService.Proofs.Wire.Complete
import HttpService.Proofs.Pipeline.Reading
import HttpService.Proofs.Concurrency.Discipline
import HttpService.Proofs.Concurrency.Waiting
import HttpService.Proofs.Concurrency.Course
import HttpService.Proofs.Pipeline.Answering
import HttpService.Proofs.Pipeline.Containment
import HttpService.Proofs.Pipeline.Lateness
import HttpService.Proofs.Pipeline.Identities
import HttpService.Proofs.Pipeline.Responding
import HttpService.Proofs.Pipeline.Identifying
import HttpService.Proofs.Pipeline.HeadTwin
import HttpService.Proofs.Headers.Stored
import HttpService.Proofs.Responses.Sent
import HttpService.Proofs.Pipeline.Admission
import HttpService.Proofs.Pipeline.Acceptance
import HttpService.Proofs.Routing.Rewriting
import HttpService.Proofs.Routing.Listing
import HttpService.Proofs.Routing.Extending
import HttpService.Proofs.Routing.Repeating
import HttpService.Proofs.Routing.Parameters
import HttpService.Proofs.Routing.Capturing
import HttpService.Proofs.Routing.Namespaces
import HttpService.Proofs.Pipeline.Invocations
import HttpService.Proofs.Responses.Edited
import HttpService.Proofs.Targets.Paths
import HttpService.Proofs.Routing.Spelling
import HttpService.Proofs.Concurrency.Startup
import HttpService.Proofs.Pipeline.Serving
import HttpService.Proofs.Headers.Ordered
import HttpService.Proofs.Wire.Names
import HttpService.Proofs.Concurrency.Permits
import HttpService.Proofs.Query.Forms
import HttpService.Proofs.Headers.Merging
import HttpService.Proofs.Responses.Erring
import HttpService.Proofs.Targets.Grammar
import HttpService.Proofs.Routing.Compiling
import HttpService.Proofs.Routing.Displaying
import HttpService.Proofs.Routing.RuleFiles
import HttpService.Proofs.Pipeline.Hosts
import HttpService.Proofs.Pipeline.Boundaries
import HttpService.Proofs.Responses.MediaTypes
import HttpService.Proofs.Routing.Structure
import HttpService.Proofs.Pipeline.Registrations
import HttpService.Proofs.Pipeline.Unlayered
import HttpService.Proofs.Wire.LineCursor
import HttpService.Proofs.Targets.Segments
