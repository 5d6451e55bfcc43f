import Mathlib.Data.List.Basic

namespace Libp2p.Kad

/-- `std::task::Poll`: an asynchronous operation is either finished with a value or not yet. -/
inductive Poll (α : Type) where
  | ready (value : α)
  | pending
  deriving DecidableEq

/-- `Instant`, in milliseconds since an arbitrary origin. -/
abbrev Instant := Nat

abbrev Duration := Nat

/-- A negotiated substream, named by the connection that hands it out. -/
abbrev Substream := Nat

/-- `QueryId`: chosen by the behaviour, opaque to the handler. -/
abbrev QueryId := Nat

/-- The node id of a `KadPeer`; its addresses and connection type are not read here. -/
abbrev KadPeer := Nat

abbrev Key := List UInt8

/-- `Record`: the handler only moves records around, so the publisher and expiry are left out. -/
structure Record where
  key : Key
  value : List UInt8
  deriving DecidableEq

abbrev UniqueConnecId := UInt64

structure RequestId where
  connecUniqueId : UniqueConnecId
  deriving DecidableEq

inductive KadRequestMsg where
  | ping
  | findNode (key : List UInt8)
  | getProviders (key : Key)
  | addProvider (key : Key) (provider : KadPeer)
  | getValue (key : Key)
  | putValue (record : Record)
  deriving DecidableEq

inductive KadResponseMsg where
  | pong
  | findNode (closerPeers : List KadPeer)
  | getProviders (closerPeers providerPeers : List KadPeer)
  | getValue (record : Option Record) (closerPeers : List KadPeer)
  | putValue (key : Key) (value : List UInt8)
  deriving DecidableEq

/-- `io::Error`: only `UnexpectedEof` is built by the handler itself. -/
inductive IoError where
  | unexpectedEof
  | other (code : Nat)
  deriving DecidableEq

inductive StreamUpgradeError where
  | timeout
  | apply (error : IoError)
  | negotiationFailed
  | io (error : IoError)
  deriving DecidableEq

inductive HandlerQueryErr where
  | upgrade (error : StreamUpgradeError)
  | unexpectedMessage
  | io (error : IoError)
  deriving DecidableEq

/-- The endpoint is only echoed back in status events, so its addresses are left out. -/
inductive ConnectedPoint where
  | dialer
  | listener
  deriving DecidableEq

inductive Mode where
  | client
  | server
  deriving DecidableEq

inductive KeepAlive where
  | until (deadline : Instant)
  | yes
  | no
  deriving DecidableEq

structure ProtocolStatus where
  supported : Bool
  reported : Bool
  deriving DecidableEq

inductive HandlerEvent where
  | protocolConfirmed (endpoint : ConnectedPoint)
  | protocolNotSupported (endpoint : ConnectedPoint)
  | findNodeReq (key : List UInt8) (requestId : RequestId)
  | findNodeRes (closerPeers : List KadPeer) (queryId : QueryId)
  | getProvidersReq (key : Key) (requestId : RequestId)
  | getProvidersRes (closerPeers providerPeers : List KadPeer) (queryId : QueryId)
  | queryError (error : HandlerQueryErr) (queryId : QueryId)
  | addProvider (key : Key) (provider : KadPeer)
  | getRecord (key : Key) (requestId : RequestId)
  | getRecordRes (record : Option Record) (closerPeers : List KadPeer) (queryId : QueryId)
  | putRecord (record : Record) (requestId : RequestId)
  | putRecordRes (key : Key) (value : List UInt8) (queryId : QueryId)
  deriving DecidableEq

inductive HandlerIn where
  | reset (requestId : RequestId)
  | reconfigureMode (newMode : Mode)
  | findNodeReq (key : List UInt8) (queryId : QueryId)
  | findNodeRes (closerPeers : List KadPeer) (requestId : RequestId)
  | getProvidersReq (key : Key) (queryId : QueryId)
  | getProvidersRes (closerPeers providerPeers : List KadPeer) (requestId : RequestId)
  | addProvider (key : Key) (provider : KadPeer)
  | getRecord (key : Key) (queryId : QueryId)
  | getRecordRes (record : Option Record) (closerPeers : List KadPeer) (requestId : RequestId)
  | putRecord (record : Record) (queryId : QueryId)
  | putRecordRes (key : Key) (value : List UInt8) (requestId : RequestId)
  deriving DecidableEq

/-- The two `ConnectionHandlerEvent`s this handler produces; the substream protocol of a request
is always the handler's own configuration. -/
inductive ConnectionHandlerEvent where
  | outboundSubstreamRequest
  | notifyBehaviour (event : HandlerEvent)
  deriving DecidableEq

/-- `process_kad_response`: the response is not checked against the request it answers. -/
def processKadResponse (event : KadResponseMsg) (queryId : QueryId) : HandlerEvent :=
  match event with
  | .pong => .queryError .unexpectedMessage queryId
  | .findNode closerPeers => .findNodeRes closerPeers queryId
  | .getProviders closerPeers providerPeers => .getProvidersRes closerPeers providerPeers queryId
  | .getValue record closerPeers => .getRecordRes record closerPeers queryId
  | .putValue key value => .putRecordRes key value queryId

def HandlerEvent.queryId? : HandlerEvent → Option QueryId
  | .findNodeRes _ q | .getProvidersRes _ _ q | .queryError _ q | .getRecordRes _ _ q
  | .putRecordRes _ _ q => some q
  | _ => none

def HandlerIn.queryId? : HandlerIn → Option QueryId
  | .findNodeReq _ q | .getProvidersReq _ q | .getRecord _ q | .putRecord _ q => some q
  | _ => none

def HandlerEvent.requestId? : HandlerEvent → Option RequestId
  | .findNodeReq _ r | .getProvidersReq _ r | .getRecord _ r | .putRecord _ r => some r
  | _ => none

theorem processKadResponse_queryId (event : KadResponseMsg) (queryId : QueryId) :
    (processKadResponse event queryId).queryId? = some queryId := by
  cases event <;> rfl

end Libp2p.Kad
