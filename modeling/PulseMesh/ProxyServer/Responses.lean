import PulseMesh.ProxyServer.Reports
import PulseMesh.SubLib.Messages

/-!
# The consumer's side of an exchange

What the proxy server reports to its accountant when it gives a request to the Hopper, when a
response comes back and when the exit tells that a name could not be resolved.  Of its state this
needs the clients behind the stream keys, the return routes that have not yet expired and the
requests that may be tried again.  What goes to the browser is left out, and a retry begins a new
exchange over a route of its own.
-/

namespace PulseMesh.ProxyServer

open Machine SubLib Accountant Function

structure AddReturnRouteMessage where
  returnRouteId : UInt32
  expectedServices : List ExpectedService
  protocol : ProxyProtocol
  hostnameOpt : Option String

structure DNSFailureRetry where
  unsuccessfulRequest : ClientRequestPayload
  retriesLeft : Nat

structure ProxyServerState where
  keysAndAddrs : StreamKey → Option SocketAddr
  streamKeyTtl : StreamKey → Option SystemTime
  dnsFailureRetries : StreamKey → Option DNSFailureRetry
  routeIdsToReturnRoutes : UInt32 → Option AddReturnRouteMessage

variable (state : ProxyServerState)

/-- The return route is known before the request leaves. -/
def tryTransmitToHopper (timestamp : SystemTime)
    (payload : ClientRequestPayload) (overServices backServices : List ExpectedService) (returnRouteId : UInt32)
    (routingSize : U64) : Except Panic (ProxyServerState × ReportServicesConsumedMessage) := do
  let report ← reportRequestServicesConsumed timestamp overServices
    (usize payload.sequencedPacket.data.length) routingSize
  return ({ state with
    routeIdsToReturnRoutes := update state.routeIdsToReturnRoutes returnRouteId
      (some ⟨returnRouteId, backServices, payload.protocol, payload.targetHostname⟩) }, report)

def purgeStreamKey (streamKey : StreamKey) : ProxyServerState :=
  { state with
    keysAndAddrs := update state.keysAndAddrs streamKey none
    streamKeyTtl := update state.streamKeyTtl streamKey none }

def handleClientResponsePayload (now : SystemTime) (returnRouteId : UInt32)
    (response : ClientResponsePayload) (payloadLen : U64) :
    Except Panic (ProxyServerState × Option ReportServicesConsumedMessage) :=
  match state.routeIdsToReturnRoutes returnRouteId with
  | none => .ok (state, none)
  | some returnRouteInfo => do
    let report ← reportResponseServicesConsumed now returnRouteInfo.expectedServices
      (usize response.sequencedPacket.data.length) payloadLen
    let answered := { state with
      dnsFailureRetries := update state.dnsFailureRetries response.streamKey none }
    if (state.streamKeyTtl response.streamKey).isNone &&
        (state.keysAndAddrs response.streamKey).isSome && response.sequencedPacket.lastData then
      return (purgeStreamKey answered response.streamKey, report)
    else
      return (answered, report)

def findExitNodeKey (expectedServices : List ExpectedService) : Option PublicKey :=
  expectedServices.findSome? fun
    | .exit publicKey _ _ => some publicKey
    | _ => none

/-- A failed name lookup is reported as a response without data. -/
def handleDnsResolveFailure (now : SystemTime) (returnRouteId : UInt32)
    (response : DnsResolveFailure) (payloadLen : U64) :
    Except Panic (ProxyServerState × Option ReportServicesConsumedMessage) :=
  match state.routeIdsToReturnRoutes returnRouteId with
  | none => .ok (state, none)
  | some returnRouteInfo =>
    if (findExitNodeKey returnRouteInfo.expectedServices).isNone then
      .error (.raised s!"Internal error: return_route_info for {returnRouteId} has no exit Node")
    else
      match state.keysAndAddrs response.streamKey with
      | none => .ok (state, none)
      | some _ => do
        let report ← reportResponseServicesConsumed now returnRouteInfo.expectedServices
          ⟨0, u64_zero⟩ payloadLen
        match state.dnsFailureRetries response.streamKey with
        | none => return (state, report)
        | some retry =>
          if 0 < retry.retriesLeft then
            return ({ state with
              dnsFailureRetries := update state.dnsFailureRetries response.streamKey
                (some { retry with retriesLeft := retry.retriesLeft - 1 }) }, report)
          else
            return (purgeStreamKey { state with
              dnsFailureRetries := update state.dnsFailureRetries response.streamKey none }
              response.streamKey, report)

end PulseMesh.ProxyServer
