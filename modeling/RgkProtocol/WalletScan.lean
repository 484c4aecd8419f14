import RgkProtocol.ScanSafety
import RgkProtocol.WrpcBackend

/-!
# Wallet scans and lane updates

Each scan of the wallet daemon connects a new backend, runs one tick of the scan service and then
resolves its lanes through that backend. The cache of the backend holds the spends of this tick
only; the records that earlier ticks have stored are not read. A lane is therefore judged by the
last tick alone, and the updates depend on how the blocks were split into ticks as soon as one of
the blocks has something to say about a lane.
-/
namespace RgkProtocol.WalletScan
open ByteStrings Hashing CoreTypes Checked IndexerState IndexerOps Resolver ScanStore FaultyCalls
open Simulation ScanService ScanSafety WrpcBackend

section Handles

/-- The white space that trimming removes. -/
def isWhitespace (c : Char) : Bool :=
  (0x09 ≤ c.toNat && c.toNat ≤ 0x0d) || c.toNat = 0x20 || c.toNat = 0x85 || c.toNat = 0xa0 ||
    c.toNat = 0x1680 || (0x2000 ≤ c.toNat && c.toNat ≤ 0x200a) || c.toNat = 0x2028 ||
    c.toNat = 0x2029 || c.toNat = 0x202f || c.toNat = 0x205f || c.toNat = 0x3000

def lastSegment (l : List Char) : List Char := (l.reverse.takeWhile (· ≠ ':')).reverse

def trim (l : List Char) : List Char :=
  ((l.dropWhile isWhitespace).reverse.dropWhile isWhitespace).reverse

def strip0x : List Char → List Char
  | '0' :: 'x' :: l => l
  | l => l

def hexValue (c : Char) : Option UInt8 :=
  match "0123456789abcdef".toList.idxOf? c with
  | some n => some (UInt8.ofNat n)
  | none => none

def fromHexPairs : List Char → Option (List UInt8)
  | [] => some []
  | [_] => none
  | a :: b :: l => do
      let hi ← hexValue a
      let lo ← hexValue b
      let rest ← fromHexPairs l
      some ((hi*16+lo) :: rest)

def fromHex (l : List Char) : Option Bytes32 := do
  let bytes ← fromHexPairs l
  if h : bytes.length = 32 then some ⟨bytes, h⟩ else none

def parseBytes32Handle (value : String) : Option Bytes32 :=
  fromHex (strip0x ((trim (lastSegment value.toList)).map Char.toLower))

def hex32Label (value : Bytes32) : String := "0x" ++ toHex value

end Handles

section Lanes

/-- The two handles of a dashboard lane that are resolved. -/
structure AssetLane where
  laneId : String
  covenantId : String
  deriving DecidableEq

inductive ResolverStateName where
  | opened
  | nativeTransitionedValid
  | nativeTransitionedInvalid
  | unconfirmed
  | reorgRisk
  | competingBranch
  | replayRejected
  | policyMigrationRequired
  | unknown
  | nodeDown
  deriving DecidableEq

structure LaneResolutionUpdate where
  laneId : String
  resolverState : ResolverStateName
  covenantId : Option String
  stateDigest : Option String
  latestReceiptId : Option String
  deriving DecidableEq

def resolverStateName : ResolverState → ResolverStateName
  | .opened .. => .opened
  | .nativeTransitionedValid .. => .nativeTransitionedValid
  | .nativeTransitionedInvalid .. => .nativeTransitionedInvalid
  | .unconfirmed .. => .unconfirmed
  | .reorgRisk .. => .reorgRisk
  | .competingBranch .. => .competingBranch
  | .policyMigrationRequired .. => .policyMigrationRequired
  | .replayRejected .. => .replayRejected
  | .unknown .. => .unknown
  | .nodeDown .. => .nodeDown

def laneUpdateFromResolverState (lane : AssetLane) (indexedLane : Option IndexedLane)
    (state : ResolverState) : LaneResolutionUpdate :=
  let (stateDigest, latestReceiptId) : Option String × Option String :=
    match state with
    | .opened _ _ state => (some (hex32Label state.stateDigest), none)
    | .nativeTransitionedValid _ _ _ receiptId newState _ _ =>
        (some (hex32Label newState.stateDigest), some ("rgk:receipt:" ++ hex32Label receiptId))
    | _ => (none, none)
  ⟨lane.laneId, resolverStateName state,
    indexedLane.map (fun indexed => hex32Label indexed.covenantId), stateDigest, latestReceiptId⟩

inductive LaneResolverState where
  | resolved (lane : IndexedLane) (state : ResolverState)
  | unknownLane (laneId : Bytes32)
  | unknownScanTag (scanTag : Bytes32)

variable (H : List UInt8 → Bytes32)

def resolveLane (r : RgkResolver) (laneId : Bytes32) : LaneResolverState :=
  match r.indexer.lanes.get? laneId with
  | some lane => .resolved lane (resolveByCovenant H r lane.covenantId)
  | none => .unknownLane laneId

/-- The second attempt: the covenant handle of the lane. -/
def resolveByCovenantHandle (r : RgkResolver) (lane : AssetLane) : LaneResolutionUpdate :=
  match parseBytes32Handle lane.covenantId with
  | some covenant => laneUpdateFromResolverState lane none (resolveByCovenant H r covenant)
  | none => ⟨lane.laneId, .unknown, none, none, none⟩

def resolveIndexedLane (r : RgkResolver) (lane : AssetLane) : LaneResolutionUpdate :=
  match parseBytes32Handle lane.laneId with
  | none => resolveByCovenantHandle H r lane
  | some laneId =>
      match resolveLane H r laneId with
      | .resolved indexedLane state => laneUpdateFromResolverState lane (some indexedLane) state
      | .unknownLane _ => resolveByCovenantHandle H r lane
      | .unknownScanTag _ => resolveByCovenantHandle H r lane

def resolveIndexedLanes (backend : KaspaChainBackend) (ix : InMemoryIndexer)
    (chainId : KaspaChainId) (lanes : List AssetLane) : List LaneResolutionUpdate :=
  lanes.map (resolveIndexedLane H (RgkResolver.new backend ix chainId))

end Lanes

section Scans
variable (H : List UInt8 → Bytes32) (network : KaspaChainId) (lanes : List AssetLane)

def walletScanConfig : ScanServiceConfig := ⟨"avato-rgk", network, none⟩

/-- What a tick leaves in the cache of its backend: it scans once, from the cursor it loads. -/
def cacheAfterTick (node : Node) (ix : InMemoryIndexer) : SpendCache :=
  match inMemoryStore.loadScanCursor ix (walletScanConfig network).cursorName with
  | .ok (some start) =>
      if start.chainId = network then
        match (scanVirtualChainFromBlock node start.blockHash none).run OrderedMap.empty with
        | .ok _ cache => cache
        | .error _ cache => cache
      else OrderedMap.empty
  | _ => OrderedMap.empty

/-- One scan of the daemon with a freshly connected backend. -/
def runScanTick (ix : InMemoryIndexer) (node : Node) :
    Except (Stop SyncError) (List LaneResolutionUpdate) × InMemoryIndexer :=
  match scanStep inMemoryStore (walletScanConfig network) ix
      (.undisturbed (scanBackend node OrderedMap.empty)) with
  | (.error e, ix') => (.error e, ix')
  | (.ok _, ix') =>
      (.ok (resolveIndexedLanes H (chainBackend node network (cacheAfterTick network node ix)) ix'
        network lanes), ix')

end Scans
end RgkProtocol.WalletScan
