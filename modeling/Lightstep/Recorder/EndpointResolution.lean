import Mathlib.Algebra.Order.BigOperators.Group.List
import Mathlib.Algebra.Order.Ring.Nat
import Lightstep.Library.Slots
import Lightstep.Recorder.SatelliteEndpoints

/-! The hosts that are resolved.

A resolution that has found addresses keeps some, whatever it is answered later, so
that the number of resolutions that have them only grows. The callback is made when
it leaves zero. -/
namespace Lightstep.Recorder
open Common Library Network

/-! ### Resolutions that have found addresses -/

namespace SatelliteDnsResolutionManager

/-- Whether the manager has found addresses, as a number. -/
def resolved (r : SatelliteDnsResolutionManager) : Nat := if r.ipAddresses.isEmpty then 0 else 1

end SatelliteDnsResolutionManager

namespace SatelliteHostManager

def resolved (host : SatelliteHostManager) : Nat := host.ipv4Resolutions.resolved + host.ipv6Resolutions.resolved

theorem resolved_le (host : SatelliteHostManager) : host.resolved ≤ 2 := by
  simp only [resolved, SatelliteDnsResolutionManager.resolved]
  split <;> split <;> decide

/-- A host has addresses to take an endpoint from exactly if a resolution of it has found some. -/
theorem resolved_pos_iff (host : SatelliteHostManager) : 0 < host.resolved ↔ host.ipAddresses ≠ [] := by
  rw [resolved, ipAddresses, SatelliteDnsResolutionManager.resolved, SatelliteDnsResolutionManager.resolved]
  cases host.ipv4Resolutions.ipAddresses with
  | nil => cases host.ipv6Resolutions.ipAddresses <;> simp
  | cons a rest => simp

theorem exists_family_of_mem {host : SatelliteHostManager} {ipAddress : IpAddress} (h : ipAddress ∈ host.ipAddresses) :
    ∃ family, ipAddress ∈ (host.resolutions family).ipAddresses := by
  rw [ipAddresses] at h
  split at h
  · exact ⟨.inet, h⟩
  · exact ⟨.inet6, h⟩

theorem resolved_setResolutions (host : SatelliteHostManager) (r : SatelliteDnsResolutionManager)
    (family : AddressFamily) :
    (host.setResolutions r family).resolved + (host.resolutions family).resolved = host.resolved + r.resolved := by
  cases family <;> simp only [setResolutions, resolutions, resolved] <;> omega

theorem name_setResolutions {host : SatelliteHostManager} {r : SatelliteDnsResolutionManager} {family : AddressFamily}
    (hname : r.name = (host.resolutions family).name) (other : AddressFamily) :
    ((host.setResolutions r family).resolutions other).name = (host.resolutions other).name := by
  cases family <;> cases other <;> first | exact hname | rfl

end SatelliteHostManager

/-- An answer with addresses. -/
def Succeeds (dnsResolution : DnsResolution) : Prop :=
  dnsResolution.errorMessage = [] ∧ dnsResolution.ipAddresses ≠ []

instance (dnsResolution : DnsResolution) : Decidable (Succeeds dnsResolution) := inferInstanceAs (Decidable (_ ∧ _))

/-- The answer that a host has addresses. -/
def EndpointEvent.Succeeds : EndpointEvent → Prop
  | .resolved _ _ dnsResolution => Recorder.Succeeds dnsResolution
  | _ => False

instance : DecidablePred EndpointEvent.Succeeds
  | .resolved _ _ dnsResolution => inferInstanceAs (Decidable (Recorder.Succeeds dnsResolution))
  | .start | .timeout .. | .requestEndpoint => isFalse id

namespace SatelliteDnsResolutionManager

theorem onDnsResolution_of_not_succeeds {dnsResolution : DnsResolution} (h : ¬ Succeeds dnsResolution)
    (r : SatelliteDnsResolutionManager) : r.onDnsResolution dnsResolution = (r.onFailure, false) := by
  by_cases hmessage : dnsResolution.errorMessage = []
  · have haddresses : dnsResolution.ipAddresses = [] := Decidable.not_not.mp fun hne => h ⟨hmessage, hne⟩
    simp [onDnsResolution, hmessage, haddresses]
  · simp [onDnsResolution, hmessage]

theorem onDnsResolution_of_succeeds {dnsResolution : DnsResolution} (h : Succeeds dnsResolution)
    (r : SatelliteDnsResolutionManager) : r.onDnsResolution dnsResolution =
      ({r with ipAddresses := dnsResolution.ipAddresses, phase := .refreshTimer}, r.ipAddresses.isEmpty) := by
  simp [onDnsResolution, h.1, h.2, scheduleRefresh]

end SatelliteDnsResolutionManager

/-! ### Steps -/

namespace SatelliteEndpointManager

def hostNames (m : SatelliteEndpointManager) (family : AddressFamily) : List (List UInt8) :=
  m.hostManagers.map fun host => (host.resolutions family).name

/-- The number of resolutions that have found addresses. -/
def resolved (m : SatelliteEndpointManager) : Nat := (m.hostManagers.map SatelliteHostManager.resolved).sum

theorem resolved_le (m : SatelliteEndpointManager) : m.resolved ≤ 2 * m.hostManagers.length := by
  have hle : m.resolved ≤ (m.hostManagers.map SatelliteHostManager.resolved).length * 2 :=
    List.sum_le_card_nsmul _ 2 fun n hn => by
      obtain ⟨host, -, rfl⟩ := List.mem_map.mp hn
      exact host.resolved_le
  rw [List.length_map] at hle
  omega

theorem resolved_pos_iff (m : SatelliteEndpointManager) :
    0 < m.resolved ↔ ∃ host ∈ m.hostManagers, host.ipAddresses ≠ [] := by
  rw [resolved, List.sum_pos_iff_exists_pos_nat]
  simp only [List.mem_map, exists_exists_and_eq_and, SatelliteHostManager.resolved_pos_iff]

/-- A request moves the index of the endpoints and that of one host. -/
theorem eq_of_requestEndpointFrom {start : UInt32} {rounds : Nat} {m m' : SatelliteEndpointManager}
    {ipAddress : IpAddress} {name : List UInt8}
    (h : m.requestEndpointFrom start rounds = .returned ipAddress name m') :
    ∃ endpointIndex i host addressIndex, m.hostManagers[i]? = some host ∧
      m' = {m with
        endpointIndex := endpointIndex
        hostManagers := m.hostManagers.set i {host with addressIndex := addressIndex}} := by
  induction rounds generalizing m with
  | zero => cases h
  | succ rounds ih =>
    rw [requestEndpointFrom] at h
    split at h
    · cases h
    · split at h
      · cases h
      · next hostIndex port hendpoint =>
        dsimp only at h
        split at h
        · cases h
        · next host hhost =>
          split at h
          · obtain ⟨endpointIndex, i, host, addressIndex, hi, rfl⟩ := ih h
            exact ⟨endpointIndex, i, host, addressIndex, hi, rfl⟩
          · split at h
            · cases h
            · cases h
              rw [hostAt] at hhost
              split at hhost
              · cases hhost
              · exact ⟨_, _, _, _, hhost, rfl⟩

/-- What a step does. -/
inductive Moved (m : SatelliteEndpointManager) : EndpointEvent → SatelliteEndpointManager → Prop where
  | start : Moved m .start m.start
  | failed {i : Nat} {host : SatelliteHostManager} (family : AddressFamily) {dnsResolution : DnsResolution}
      (hhost : m.hostManagers[i]? = some host) (hfails : ¬ Succeeds dnsResolution) :
      Moved m (.resolved i family dnsResolution) (m.setResolutions i host (host.resolutions family).onFailure family)
  | resolved {i : Nat} {host : SatelliteHostManager} (family : AddressFamily) {dnsResolution : DnsResolution}
      {r : SatelliteDnsResolutionManager} (hhost : m.hostManagers[i]? = some host) (hsucceeds : Succeeds dnsResolution)
      (hname : r.name = (host.resolutions family).name) (haddresses : r.ipAddresses = dnsResolution.ipAddresses) :
      Moved m (.resolved i family dnsResolution)
        (if (host.resolutions family).ipAddresses.isEmpty then (m.setResolutions i host r family).onResolutionReady
        else m.setResolutions i host r family)
  | timeout {i : Nat} {host : SatelliteHostManager} (family : AddressFamily)
      (hhost : m.hostManagers[i]? = some host) :
      Moved m (.timeout i family) (m.setResolutions i host (host.resolutions family).onRefresh family)
  | requested {i : Nat} {host : SatelliteHostManager} (endpointIndex addressIndex : UInt32)
      (hhost : m.hostManagers[i]? = some host) :
      Moved m .requestEndpoint {m with
        endpointIndex := endpointIndex
        hostManagers := m.hostManagers.set i {host with addressIndex := addressIndex}}

theorem moved_of_step {m m' : SatelliteEndpointManager} {e : EndpointEvent} (h : m.step e = some m') : Moved m e m' := by
  cases e with
  | start =>
    rw [step] at h
    split at h
    · cases h
      exact .start
    · cases h
  | resolved i family dnsResolution =>
    rw [step] at h
    split at h
    · cases h
    · next host hhost =>
      split at h
      · by_cases hsucceeds : Succeeds dnsResolution
        · rw [SatelliteDnsResolutionManager.onDnsResolution_of_succeeds hsucceeds] at h
          cases h
          exact .resolved family hhost hsucceeds rfl rfl
        · rw [SatelliteDnsResolutionManager.onDnsResolution_of_not_succeeds hsucceeds] at h
          cases h
          exact .failed family hhost hsucceeds
      · cases h
  | timeout i family =>
    rw [step] at h
    split at h
    · cases h
    · next host hhost =>
      split at h
      · cases h
        exact .timeout family hhost
      · cases h
  | requestEndpoint =>
    rw [step] at h
    split at h
    · cases h
    · split at h
      · next hrequest =>
        cases h
        obtain ⟨endpointIndex, i, host, addressIndex, hhost, rfl⟩ := eq_of_requestEndpointFrom hrequest
        exact .requested endpointIndex addressIndex hhost
      · cases h

section
variable {m m' : SatelliteEndpointManager} {i : Nat} {host : SatelliteHostManager}

theorem hostNames_setResolutions (hhost : m.hostManagers[i]? = some host) (family : AddressFamily)
    {r : SatelliteDnsResolutionManager} (hname : r.name = (host.resolutions family).name) (other : AddressFamily) :
    (m.setResolutions i host r family).hostNames other = m.hostNames other :=
  map_set_self hhost (SatelliteHostManager.name_setResolutions hname other)

theorem resolved_setResolutions (hhost : m.hostManagers[i]? = some host) (r : SatelliteDnsResolutionManager)
    (family : AddressFamily) :
    (m.setResolutions i host r family).resolved + (host.resolutions family).resolved = m.resolved + r.resolved := by
  have hsum := sum_map_set (f := SatelliteHostManager.resolved) (b := host.setResolutions r family) hhost
  have hone := host.resolved_setResolutions r family
  simp only [SatelliteEndpointManager.resolved, setResolutions]
  omega

@[simp] theorem hostNames_onResolutionReady (m : SatelliteEndpointManager) (family : AddressFamily) :
    m.onResolutionReady.hostNames family = m.hostNames family := by
  simp only [onResolutionReady, hostNames]
  split <;> rfl

@[simp] theorem endpoints_onResolutionReady (m : SatelliteEndpointManager) :
    m.onResolutionReady.endpoints = m.endpoints := by
  simp only [onResolutionReady]
  split <;> rfl

@[simp] theorem resolved_onResolutionReady (m : SatelliteEndpointManager) :
    m.onResolutionReady.resolved = m.resolved := by
  simp only [onResolutionReady, SatelliteEndpointManager.resolved]
  split <;> rfl

/-- The hosts and the endpoints stay. -/
theorem Moved.hostNames {e : EndpointEvent} (h : Moved m e m') (family : AddressFamily) :
    m'.hostNames family = m.hostNames family := by
  cases h with
  | start =>
    rw [SatelliteEndpointManager.hostNames, SatelliteEndpointManager.start, List.map_map]
    exact List.map_congr_left fun host _ => by cases family <;> rfl
  | failed other hhost hfails => exact hostNames_setResolutions hhost other (by rfl) family
  | resolved other hhost hsucceeds hname haddresses =>
    have hnames := hostNames_setResolutions hhost other hname family
    split
    · rw [hostNames_onResolutionReady, hnames]
    · exact hnames
  | timeout other hhost => exact hostNames_setResolutions hhost other (by rfl) family
  | requested endpointIndex addressIndex hhost => exact map_set_self hhost (by cases family <;> rfl)

theorem Moved.endpoints {e : EndpointEvent} (h : Moved m e m') : m'.endpoints = m.endpoints := by
  cases h with
  | resolved family hhost hsucceeds hname haddresses =>
    split
    · exact endpoints_onResolutionReady _
    · rfl
  | _ => rfl

@[simp] theorem numResolutionsReady_onResolutionReady (m : SatelliteEndpointManager) :
    m.onResolutionReady.numResolutionsReady = (m.numResolutionsReady + 1).bmod (2 ^ 32) := by
  simp only [onResolutionReady]
  split <;> rfl

@[simp] theorem readyCallbacks_onResolutionReady (m : SatelliteEndpointManager) :
    m.onResolutionReady.readyCallbacks =
      m.readyCallbacks + if (m.numResolutionsReady + 1).bmod (2 ^ 32) = 1 then 1 else 0 := by
  simp only [onResolutionReady]
  split <;> rfl

/-- What a step does to the counts: nothing, or it counts one more resolution that has addresses. -/
theorem Moved.counts {e : EndpointEvent} (h : Moved m e m') :
    m'.resolved = m.resolved ∧ m'.numResolutionsReady = m.numResolutionsReady ∧
        m'.readyCallbacks = m.readyCallbacks ∧ (e.Succeeds → 0 < m.resolved) ∨
      e.Succeeds ∧ m'.resolved = m.resolved + 1 ∧
        m'.numResolutionsReady = (m.numResolutionsReady + 1).bmod (2 ^ 32) ∧
        m'.readyCallbacks = m.readyCallbacks + if m'.numResolutionsReady = 1 then 1 else 0 := by
  cases h with
  | start =>
    refine Or.inl ⟨?_, rfl, rfl, nofun⟩
    rw [SatelliteEndpointManager.resolved, SatelliteEndpointManager.start, List.map_map]
    rfl
  | @failed i host family dnsResolution hhost hfails =>
    have hresolved := resolved_setResolutions hhost (host.resolutions family).onFailure family
    exact Or.inl ⟨Nat.add_right_cancel hresolved, rfl, rfl, fun hsucceeds => absurd hsucceeds hfails⟩
  | @resolved i host family dnsResolution r hhost hsucceeds hname haddresses =>
    have hresolved := resolved_setResolutions hhost r family
    have hr : r.resolved = 1 := by
      rw [SatelliteDnsResolutionManager.resolved, haddresses]
      simp [hsucceeds.2]
    by_cases hfirst : (host.resolutions family).ipAddresses.isEmpty = true
    · have hbefore : (host.resolutions family).resolved = 0 := if_pos hfirst
      rw [if_pos hfirst]
      refine Or.inr ⟨hsucceeds, ?_, numResolutionsReady_onResolutionReady _, ?_⟩
      · rw [resolved_onResolutionReady]
        omega
      · rw [readyCallbacks_onResolutionReady, numResolutionsReady_onResolutionReady]
        rfl
    · have hbefore : (host.resolutions family).resolved = 1 := if_neg hfirst
      -- Without the addresses of this resolution there would be one fewer.
      have hwithout : (m.setResolutions i host (.construct family []) family).resolved +
          (host.resolutions family).resolved = m.resolved := resolved_setResolutions hhost _ family
      rw [if_neg hfirst]
      exact Or.inl ⟨by omega, rfl, rfl, fun _ => by omega⟩
  | @timeout i host family hhost =>
    have hresolved := resolved_setResolutions hhost (host.resolutions family).onRefresh family
    exact Or.inl ⟨Nat.add_right_cancel hresolved, rfl, rfl, nofun⟩
  | @requested i host endpointIndex addressIndex hhost =>
    exact Or.inl ⟨congrArg List.sum (map_set_self hhost rfl), rfl, rfl, nofun⟩

theorem Moved.resolved_pos_iff {e : EndpointEvent} (h : Moved m e m') :
    0 < m'.resolved ↔ 0 < m.resolved ∨ e.Succeeds := by
  rcases h.counts with ⟨heq, -, -, hpos⟩ | ⟨hsucceeds, heq, -⟩
  · rw [heq]
    exact ⟨Or.inl, fun h => h.elim id hpos⟩
  · rw [heq]
    exact iff_of_true (Nat.succ_pos _) (Or.inr hsucceeds)

end

/-- Of the counts: the callback is made when the first resolution has addresses. -/
structure Counted (m : SatelliteEndpointManager) : Prop where
  hosts : m.hostManagers.length ≤ 2 ^ 31
  ready : m.numResolutionsReady = (m.resolved : Int).bmod (2 ^ 32)
  callbacks : m.readyCallbacks = if m.resolved = 0 then 0 else 1

/-- The counter of resolutions stands at one only for the first of them. -/
theorem bmod_eq_one_iff {n : Nat} (hn : n < 2 ^ 32) : ((n : Int) + 1).bmod (2 ^ 32) = 1 ↔ n = 0 := by
  constructor
  · intro h
    have hmod : ((n : Int) + 1) % (2 ^ 32 : Nat) = 1 := by
      rw [← Int.bmod_emod, h]
      rfl
    omega
  · rintro rfl
    rfl

theorem Counted.step {m m' : SatelliteEndpointManager} {e : EndpointEvent} (hcounted : m.Counted) (h : Moved m e m') :
    m'.Counted := by
  have hlength : m'.hostManagers.length = m.hostManagers.length := by
    simpa [hostNames] using congrArg List.length (h.hostNames .inet)
  have hhosts : m'.hostManagers.length ≤ 2 ^ 31 := by
    rw [hlength]
    exact hcounted.hosts
  rcases h.counts with ⟨hresolved, hready, hcallbacks, -⟩ | ⟨-, hresolved, hready, hcallbacks⟩
  · exact ⟨hhosts, by rw [hready, hcounted.ready, hresolved], by rw [hcallbacks, hcounted.callbacks, hresolved]⟩
  · have hle := m'.resolved_le
    have hnum : m'.numResolutionsReady = ((m.resolved : Int) + 1).bmod (2 ^ 32) := by
      rw [hready, hcounted.ready, Int.bmod_add_bmod]
    refine ⟨hhosts, ?_, ?_⟩
    · rw [hnum, hresolved]
      rfl
    · have hone := bmod_eq_one_iff (n := m.resolved) (by omega)
      rw [hcallbacks, hcounted.callbacks, hnum, hresolved, if_neg (Nat.succ_ne_zero _)]
      simp only [hone]
      split <;> rfl

end SatelliteEndpointManager
end Lightstep.Recorder
