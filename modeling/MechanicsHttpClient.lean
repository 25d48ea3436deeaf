import MechanicsHttpClient.Runtime.Task
import MechanicsHttpClient.Runtime.World
import MechanicsHttpClient.Runtime.Monitor
import MechanicsHttpClient.Runtime.Adequacy
import MechanicsHttpClient.Source.SplitQuoted
import MechanicsHttpClient.Source.AltSvc
import MechanicsHttpClient.Runtime.Alphabet
import MechanicsHttpClient.Source.Client
import MechanicsHttpClient.Source.Http3
import MechanicsHttpClient.Source.Request
import MechanicsHttpClient.Guarantees.Footprint
import MechanicsHttpClient.Guarantees.HeaderOverride
import MechanicsHttpClient.Guarantees.AltSvcOverflow
import MechanicsHttpClient.Runtime.Slot
import MechanicsHttpClient.Guarantees.CacheHistory
import MechanicsHttpClient.Guarantees.Phases
import MechanicsHttpClient.Guarantees.PeerIdentity
import MechanicsHttpClient.Guarantees.RouteHistory
import MechanicsHttpClient.Runtime.Lasting
import MechanicsHttpClient.Guarantees.ProbeBound
import MechanicsHttpClient.Guarantees.RequestDeadline
import MechanicsHttpClient.Guarantees.FailureWindow
import MechanicsHttpClient.Guarantees.NegativeWindow
import MechanicsHttpClient.Guarantees.HttpsRrSelection
import MechanicsHttpClient.Guarantees.RouteSpending
import MechanicsHttpClient.Guarantees.RetryBudget
import MechanicsHttpClient.Guarantees.BodyDelivery
import MechanicsHttpClient.Guarantees.BodyRead
import MechanicsHttpClient.Guarantees.BodyCap
import MechanicsHttpClient.Data.SelfDelimiting
import MechanicsHttpClient.Guarantees.ContentCoding
import MechanicsHttpClient.Guarantees.StreamEnd
import MechanicsHttpClient.Guarantees.AltSvcGrammar
import MechanicsHttpClient.Guarantees.AltSvcSoundness
import MechanicsHttpClient.Guarantees.AltSvcUpdates
import MechanicsHttpClient.Guarantees.NegativeCause
import MechanicsHttpClient.Guarantees.AltSvcLearning
import MechanicsHttpClient.Guarantees.SendCourse
import MechanicsHttpClient.Guarantees.Fallback
import MechanicsHttpClient.Guarantees.QuotedSplit
import MechanicsHttpClient.Data.CallChain
import MechanicsHttpClient.Guarantees.BuilderChain
import MechanicsHttpClient.Guarantees.DeferredErrors
import MechanicsHttpClient.Guarantees.NegativeInsert
import MechanicsHttpClient.Guarantees.HttpsRrHistory
import MechanicsHttpClient.Guarantees.HttpsRrEndpoint
import MechanicsHttpClient.Guarantees.OriginKey
import MechanicsHttpClient.Guarantees.ErrorClass
import MechanicsHttpClient.Guarantees.EmptyContent
import MechanicsHttpClient.Guarantees.TextDecoding
import MechanicsHttpClient.Runtime.Protocol
import MechanicsHttpClient.Guarantees.SendProtocol
import MechanicsHttpClient.Guarantees.AttemptConformance
import MechanicsHttpClient.Guarantees.SendConformance
import MechanicsHttpClient.Guarantees.SendOutcome
import MechanicsHttpClient.Runtime.Dropping
import MechanicsHttpClient.Guarantees.SendCancellation
import MechanicsHttpClient.Guarantees.StageBudget
import MechanicsHttpClient.Guarantees.SendBudget
import MechanicsHttpClient.Runtime.Isolation
import MechanicsHttpClient.Guarantees.OriginIsolation
import MechanicsHttpClient.Guarantees.SendPanics
import MechanicsHttpClient.Guarantees.SendTransmission
import MechanicsHttpClient.Guarantees.SendDuration
import MechanicsHttpClient.Guarantees.Connections
