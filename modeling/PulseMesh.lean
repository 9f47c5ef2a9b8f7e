import PulseMesh.Blockchain.ReceivableScans
import PulseMesh.Accountant.PaymentConservation
import PulseMesh.Hopper.RoutingService
import PulseMesh.Exchange.DoubleEntry
import PulseMesh.Gossip.Confidentiality
import PulseMesh.Gossip.DegreeBound
import PulseMesh.NeighborhoodActor.RecordVersions
import PulseMesh.NeighborhoodActor.RoundTripCosts
import PulseMesh.NeighborhoodActor.ExitHistories
import PulseMesh.NeighborhoodActor.PatchSize
import PulseMesh.NeighborhoodActor.ConnectionEvents
import PulseMesh.Streams.Delivery
import PulseMesh.Streams.WriterOwnership
import PulseMesh.DbConfig.SinglePassword
import PulseMesh.ProxyServerActor.KeyReuse
import PulseMesh.ProxyServerActor.RouteResults
import PulseMesh.ProxyClientPool.DeadStreams
import PulseMesh.ProxyClientPool.Numbering
import PulseMesh.Streams.StreamReader
import PulseMesh.UiGateway.WebSocketSupervisor
import PulseMesh.NodeConfigurator.CombinedParameters
import PulseMesh.Database.DbMigrator
