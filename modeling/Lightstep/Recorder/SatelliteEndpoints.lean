import Mathlib.Algebra.Order.Ring.Nat
import Mathlib.Algebra.Ring.Int.Defs
import Lightstep.Library.Machine
import Lightstep.Network.DnsResolver
import Lightstep.Recorder.SeparateEndpoints

/-! The resolution of satellite hosts and the assignment of their endpoints.

Every host has a manager for each address family, which resolves the host, keeps
the addresses of the last resolution that found some, and asks again when a timer
fires. Setting a timer is taken to succeed; a resolver that answers from within
`Start` is taken to answer right after it. Kept beside the manager of the
endpoints is how often it has reported itself ready. -/
namespace Lightstep.Recorder
open Common Library Network

/-- What a resolution manager waits for. -/
inductive ResolutionPhase where
  | constructed
  | resolving
  | retryTimer
  | refreshTimer
  deriving DecidableEq

structure SatelliteDnsResolutionManager where
  family : AddressFamily
  name : List UInt8
  ipAddresses : List IpAddress
  phase : ResolutionPhase
  deriving DecidableEq

namespace SatelliteDnsResolutionManager

def construct (family : AddressFamily) (name : List UInt8) : SatelliteDnsResolutionManager :=
  ⟨family, name, [], .constructed⟩

def start (r : SatelliteDnsResolutionManager) : SatelliteDnsResolutionManager := {r with phase := .resolving}

def onRefresh (r : SatelliteDnsResolutionManager) : SatelliteDnsResolutionManager := {r with phase := .resolving}

def onFailure (r : SatelliteDnsResolutionManager) : SatelliteDnsResolutionManager := {r with phase := .retryTimer}

def scheduleRefresh (r : SatelliteDnsResolutionManager) : SatelliteDnsResolutionManager :=
  {r with phase := .refreshTimer}

/-- Beside the manager, whether it calls `on_ready_callback_`. -/
def onDnsResolution (dnsResolution : DnsResolution) (r : SatelliteDnsResolutionManager) :
    SatelliteDnsResolutionManager × Bool :=
  if ¬ dnsResolution.errorMessage.isEmpty then (r.onFailure, false)
  else if dnsResolution.ipAddresses.isEmpty then (r.onFailure, false)
  else (({r with ipAddresses := dnsResolution.ipAddresses} : SatelliteDnsResolutionManager).scheduleRefresh,
    r.ipAddresses.isEmpty)

end SatelliteDnsResolutionManager

structure SatelliteHostManager where
  ipv4Resolutions : SatelliteDnsResolutionManager
  ipv6Resolutions : SatelliteDnsResolutionManager
  addressIndex : UInt32
  deriving DecidableEq

namespace SatelliteHostManager

def construct (name : List UInt8) : SatelliteHostManager :=
  ⟨.construct .inet name, .construct .inet6 name, 0⟩

def start (host : SatelliteHostManager) : SatelliteHostManager :=
  {host with ipv4Resolutions := host.ipv4Resolutions.start, ipv6Resolutions := host.ipv6Resolutions.start}

def resolutions (host : SatelliteHostManager) : AddressFamily → SatelliteDnsResolutionManager
  | .inet => host.ipv4Resolutions
  | .inet6 => host.ipv6Resolutions

def setResolutions (host : SatelliteHostManager) (r : SatelliteDnsResolutionManager) :
    AddressFamily → SatelliteHostManager
  | .inet => {host with ipv4Resolutions := r}
  | .inet6 => {host with ipv6Resolutions := r}

/-- The addresses an endpoint of the host is taken from. -/
def ipAddresses (host : SatelliteHostManager) : List IpAddress :=
  if ¬ host.ipv4Resolutions.ipAddresses.isEmpty then host.ipv4Resolutions.ipAddresses
  else host.ipv6Resolutions.ipAddresses

end SatelliteHostManager

structure SatelliteEndpointManager where
  hostManagers : List SatelliteHostManager
  endpoints : List (Int × UInt16)
  endpointIndex : UInt32
  /-- An `int`, whose increment is taken to wrap. -/
  numResolutionsReady : Int
  readyCallbacks : Nat
  deriving DecidableEq

/-- How a request ends. -/
inductive EndpointRequest where
  | returned (ipAddress : IpAddress) (name : List UInt8) (manager : SatelliteEndpointManager)
  | assertionFailed
  | outOfRange
  | looping
  deriving DecidableEq

namespace SatelliteEndpointManager

/-- The constructor throws where there are no endpoints. -/
def construct (std : SortAlgorithm (List UInt8)) (satelliteEndpoints : List Endpoint) :
    Except (List UInt8) SatelliteEndpointManager :=
  if satelliteEndpoints.isEmpty then .error (ascii "no satellite endpoints provided")
  else
    let (hosts, endpoints) := separateEndpoints std satelliteEndpoints
    .ok ⟨hosts.map .construct, endpoints, 0, 0, 0⟩

def start (m : SatelliteEndpointManager) : SatelliteEndpointManager :=
  {m with hostManagers := m.hostManagers.map .start}

def onResolutionReady (m : SatelliteEndpointManager) : SatelliteEndpointManager :=
  let m := {m with numResolutionsReady := (m.numResolutionsReady + 1).bmod (2 ^ 32)}
  if m.numResolutionsReady = 1 then {m with readyCallbacks := m.readyCallbacks + 1} else m

/-- `host_managers_[host_index]`. -/
def hostAt (m : SatelliteEndpointManager) (hostIndex : Int) : Option SatelliteHostManager :=
  if hostIndex < 0 then none else m.hostManagers[hostIndex.toNat]?

/-- The loop of `RequestEndpoint`, for a number of rounds. -/
def requestEndpointFrom (endpointIndexStart : UInt32) : Nat → SatelliteEndpointManager → EndpointRequest
  | 0, _ => .looping
  | rounds + 1, m =>
    if m.endpointIndex.toNat = endpointIndexStart.toNat + m.endpoints.length then .assertionFailed
    else
      match m.endpoints[m.endpointIndex.toNat % m.endpoints.length]? with
      | none => .outOfRange
      | some (hostIndex, port) =>
        let m := {m with endpointIndex := m.endpointIndex + 1}
        match m.hostAt hostIndex with
        | none => .outOfRange
        | some host =>
          if host.ipAddresses.isEmpty then requestEndpointFrom endpointIndexStart rounds m
          else
            match host.ipAddresses[host.addressIndex.toNat % host.ipAddresses.length]? with
            | none => .outOfRange
            | some ipAddress =>
              let host := {host with addressIndex := host.addressIndex + 1}
              .returned (ipAddress.setPort port) host.ipv4Resolutions.name
                {m with hostManagers := m.hostManagers.set hostIndex.toNat host}

/-- A round that goes on changes only the index, which has come round after `2 ^ 32` of them: a loop that
does not end by then does not end. -/
def requestEndpoint (m : SatelliteEndpointManager) : EndpointRequest :=
  m.requestEndpointFrom m.endpointIndex (2 ^ 32)

end SatelliteEndpointManager

/-! ### The events -/

inductive EndpointEvent where
  | start
  | resolved (host : Nat) (family : AddressFamily) (dnsResolution : DnsResolution)
  | timeout (host : Nat) (family : AddressFamily)
  | requestEndpoint

namespace SatelliteEndpointManager

/-- A host whose resolutions of a family are replaced. -/
def setResolutions (m : SatelliteEndpointManager) (i : Nat) (host : SatelliteHostManager)
    (r : SatelliteDnsResolutionManager) (family : AddressFamily) : SatelliteEndpointManager :=
  {m with hostManagers := m.hostManagers.set i (host.setResolutions r family)}

/-- An answer is for a resolution that is under way, a timeout for a timer that is set, and an endpoint is asked
for once the manager has reported itself ready. -/
def step (m : SatelliteEndpointManager) : EndpointEvent → Option SatelliteEndpointManager
  | .start =>
    if ∀ host ∈ m.hostManagers, ∀ family, (host.resolutions family).phase = .constructed then some m.start else none
  | .resolved i family dnsResolution =>
    match m.hostManagers[i]? with
    | none => none
    | some host =>
      if (host.resolutions family).phase = .resolving then
        let (r, ready) := (host.resolutions family).onDnsResolution dnsResolution
        let m := m.setResolutions i host r family
        some (if ready then m.onResolutionReady else m)
      else none
  | .timeout i family =>
    match m.hostManagers[i]? with
    | none => none
    | some host =>
      if (host.resolutions family).phase = .retryTimer ∨ (host.resolutions family).phase = .refreshTimer then
        some (m.setResolutions i host (host.resolutions family).onRefresh family)
      else none
  | .requestEndpoint =>
    if m.readyCallbacks = 0 then none
    else
      match m.requestEndpoint with
      | .returned _ _ m => some m
      | _ => none

def machine : Machine SatelliteEndpointManager EndpointEvent := ⟨step⟩

end SatelliteEndpointManager
end Lightstep.Recorder
