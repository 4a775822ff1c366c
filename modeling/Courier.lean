import Courier.Breaker.Circuit
import Courier.Broker.Field
import Courier.Broker.Publish
import Courier.Broker.Topology
import Courier.Completion
import Courier.Config
import Courier.Decimal.Binary
import Courier.Decimal.Literal
import Courier.Decimal.Notation
import Courier.Decimal.Shortest
import Courier.Fault
import Courier.Gateway.Extract
import Courier.Gateway.Orchestrator
import Courier.Gateway.Reply
import Courier.Gateway.Routes
import Courier.Json.Check
import Courier.Json.Read
import Courier.Json.ReadError
import Courier.Json.Scan
import Courier.Json.Shape
import Courier.Json.Value
import Courier.Json.Write
import Courier.Message.Channel
import Courier.Message.Email
import Courier.Message.Endpoint
import Courier.Message.Job
import Courier.Message.Push
import Courier.Message.Recipient
import Courier.Message.Rendered
import Courier.Message.Request
import Courier.Message.Status
import Courier.Message.Template
import Courier.Net.Http
import Courier.Net.Url
import Courier.Service.Caller
import Courier.Service.Clients
import Courier.Service.Health
import Courier.Service.Request
import Courier.Service.Retry
import Courier.Service.Shutdown
import Courier.Template.Compile
import Courier.Template.Data
import Courier.Template.Grammar
import Courier.Template.Helpers
import Courier.Template.Peg
import Courier.Template.Render
import Courier.Template.Scope
import Courier.Template.Tree
import Courier.Text.Blank
import Courier.Text.Escaped
import Courier.Time.Instant
import Courier.Worker.Consumer
import Courier.Worker.Handler
import Courier.Worker.Settle
import Courier.Worker.Token
import Courier.Proofs.ConcurrentCalls
import Courier.Proofs.LoggedWorld
import Courier.Proofs.Settlement
import Courier.Proofs.RetryLifecycle
import Courier.Proofs.GatewayScript
import Courier.Proofs.Idempotence
import Courier.Proofs.StatusReports
import Courier.Proofs.QueueTopology
import Courier.Proofs.StaleCalls
import Courier.Proofs.RefusedCalls
import Courier.Proofs.TripRule
import Courier.Proofs.ReadBack.Scan
import Courier.Proofs.ReadBack.Tokens
import Courier.Proofs.ReadBack.Values
import Courier.Proofs.ReadBack.Shapes
import Courier.Proofs.JobHandoff
import Courier.Proofs.HandleEffects
import Courier.Proofs.PushFanOut
import Courier.Proofs.TransitionLog
import Courier.Proofs.HealthReport
import Courier.Proofs.Named
import Courier.Proofs.UserLookups
import Courier.Proofs.WireFormats
import Courier.Proofs.WaitDelay
import Courier.Proofs.RetryRuns
import Courier.Proofs.StatusUpdates
import Courier.Proofs.CallsByName
import Courier.Proofs.FaultReplies
import Courier.Proofs.InternalSecret
import Courier.Proofs.ShutdownOrder
