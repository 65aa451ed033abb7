import Oxo.Foundation.ExactCodec
import Oxo.Foundation.LittleEndian
import Oxo.Foundation.Utf8
import Oxo.Core.HopFrame
import Oxo.Core.HopFrame.Fields
import Oxo.Core.HopFrame.Request
import Oxo.Core.HopFrame.Response
import Oxo.Foundation.Text
import Oxo.Core.Headers
import Oxo.Edge.Headers
import Oxo.Edge.HeaderPlan
import Oxo.Edge.RequestFrame
import Oxo.Foundation.IpAddr
import Oxo.Edge.Identity
import Oxo.Worker.AsyncWorker
import Oxo.Worker.Frame
import Oxo.Worker.DecoderParity
import Oxo.Edge.ClientRequest
import Oxo.Edge.Decodability
import Oxo.Edge.HttpHop
import Oxo.Worker.Parser
import Oxo.Worker.HttpHead
import Oxo.Edge.HopParity
import Oxo.Edge.FrameHop.Dispatch
import Oxo.Edge.FrameHop.Operations
import Oxo.Edge.FrameHop.Exchange
import Oxo.Core.HopFrame.Stream
import Oxo.Edge.FrameHop.Discipline
import Oxo.Edge.FrameHop.Reading
import Oxo.Edge.FrameHop.Sending
import Oxo.Edge.FrameHop.Replay
import Oxo.Edge.FrameHop.System
import Oxo.Edge.FrameHop.Pairing
import Oxo.Foundation.Upcase
import Oxo.Worker.RackEnv
import Oxo.Edge.Sidecar
import Oxo.Edge.FramePool
import Oxo.Edge.FrameHop.IdleWatch
import Oxo.Edge.FrameHop.Parking
import Oxo.Edge.FrameHop.InFlight
import Oxo.Edge.FrameHop.Sticky
import Oxo.Edge.FrameHop.Feed
import Oxo.Worker.Streaming
import Oxo.Edge.FrameHop.Streaming
import Oxo.Edge.HttpHop.Response
import Oxo.Edge.HttpHop.Feed
import Oxo.Edge.HttpHop.ResponseHead
import Oxo.Edge.HttpHop.Streaming
import Oxo.Edge.FrameHop.AsyncResponse
import Oxo.Edge.Cli
import Oxo.Edge.Cli.Forwarding
import Oxo.Worker.AsyncDrain
import Oxo.Worker.JobQueue
import Oxo.Edge.Fairness
import Oxo.Edge.Fairness.LongLived
import Oxo.Worker.AsyncEnv
import Oxo.Edge.Spoofing
import Oxo.Edge.Acme.State
import Oxo.Edge.Acme.World
import Oxo.Edge.Acme.Schedule
import Oxo.Edge.Acme.Issue
import Oxo.Edge.Acme.Renewal
import Oxo.Edge.Acme.Reload
import Oxo.Edge.Acme.Stages
import Oxo.Edge.Acme.Rollback
import Oxo.Worker.PrefixCheck
import Oxo.Edge.Unambiguous
import Oxo.Edge.ServerName
import Oxo.Edge.PublicHost
import Oxo.Edge.Acme.Serving
import Oxo.HyperEdge.Handle
import Oxo.HyperEdge.Shim
import Oxo.HyperEdge.ShimHead
import Oxo.HyperEdge.Agreement
import Oxo.Edge.Telemetry
import Oxo.Edge.RequestFilter
import Oxo.Edge.RecordedOnce
import Oxo.Edge.Supervisor.Children
import Oxo.Edge.Supervisor.Runner
import Oxo.Edge.Supervisor.Orphans
import Oxo.Foundation.Splitting
import Oxo.Edge.CableOrigin
import Oxo.Edge.CableUpgrade
import Oxo.Foundation.BufReader
import Oxo.Worker.SegmentedParser
import Oxo.Worker.WellFormed
import Oxo.Worker.RepeatedHeaders
import Oxo.Worker.StreamCompletion
import Oxo.Edge.FrameHop.Barging
import Oxo.Worker.HeaderHygiene
import Oxo.Edge.FrameHop.Interruptible
import Oxo.Edge.FrameHop.Serving
import Oxo.Edge.FrameHop.DrainBoundary
import Oxo.Edge.FrameHop.BrokenStream
import Oxo.Edge.HttpHop.ReadOutcome
import Oxo.Edge.HttpHop.Truncation
import Oxo.Edge.FrameHop.StickyBound
import Oxo.Edge.FdBudget
import Oxo.Edge.FrameHop.CandidateOrder
import Oxo.Edge.FrameHop.StickyBalance
import Oxo.Edge.Acme.Ledger
import Oxo.Edge.Acme.Backoff
import Oxo.Edge.Acme.Latch
import Oxo.Edge.Acme.Retry
import Oxo.Foundation.TextLines
import Oxo.Edge.Acme.Challenge
import Oxo.Edge.Acme.ChallengeHost
import Oxo.Edge.Acme.Responder
import Oxo.Foundation.SlidingWindow
import Oxo.HyperEdge.Supervisor
import Oxo.HyperEdge.Respawn
import Oxo.HyperEdge.TempFiles
import Oxo.Foundation.FixedAnswers
import Oxo.Edge.Service.Environment
import Oxo.Edge.Service.EdgeChild
import Oxo.Edge.Service.ChildEnv
import Oxo.HyperEdge.Respond
import Oxo.HyperEdge.Embedded
import Oxo.HyperEdge.Message
import Oxo.HyperEdge.ShimResponse
import Oxo.HyperEdge.Honest
