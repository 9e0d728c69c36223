import Lightstep.Library.RoundRobin
import Lightstep.Recorder.EndpointResolution

/-! The assignment of endpoints once some host is resolved.

The round robin over the endpoints comes to one whose host has addresses before it
has gone around, wherever its counter wraps, as long as every host has an index and
the counter has a value for every endpoint. -/
namespace Lightstep.Recorder
open Common Library Network

namespace SatelliteEndpointManager

/-! ### Requests -/

theorem hostAt_natCast (m : SatelliteEndpointManager) (i : Nat) : m.hostAt i = m.hostManagers[i]? :=
  if_neg (Int.not_lt.mpr (Int.natCast_nonneg i))

/-- The endpoint at a place is one of a host. -/
def EndpointAt (m : SatelliteEndpointManager) (p : Nat) (host : SatelliteHostManager) (port : UInt16) : Prop :=
  ∃ i : Nat, m.endpoints[p]? = some ((i : Int), port) ∧ m.hostManagers[i]? = some host

/-- What a request may answer. -/
def Answers (m : SatelliteEndpointManager) (ipAddress : IpAddress) (name : List UInt8) : Prop :=
  ∃ p host port, m.EndpointAt p host port ∧ host.ipv4Resolutions.name = name ∧
    ∃ address ∈ host.ipAddresses, address.setPort port = ipAddress

theorem exists_getElem_mod {α : Type} {l : List α} (h : l ≠ []) (n : Nat) : ∃ a ∈ l, l[n % l.length]? = some a := by
  have hlt : n % l.length < l.length := Nat.mod_lt _ (List.length_pos_iff.mpr h)
  exact ⟨_, List.getElem_mem hlt, List.getElem?_eq_getElem hlt⟩

/-- **The loop answers where the round robin comes to a host with addresses before the assertion fails.** -/
theorem requestEndpointFrom_answers {start : UInt32} {m : SatelliteEndpointManager}
    (hwired : ∀ p < m.endpoints.length, ∃ host port, m.EndpointAt p host port) {j rounds : Nat} (hj : j < rounds)
    (hserves : ∃ host port, m.EndpointAt (roundPlace (2 ^ 32) m.endpoints.length m.endpointIndex.toNat j) host port ∧
      host.ipAddresses ≠ [])
    (hassert : ∀ k ≤ j, (m.endpointIndex.toNat + k) % 2 ^ 32 ≠ start.toNat + m.endpoints.length) :
    ∃ ipAddress name m', m.requestEndpointFrom start rounds = .returned ipAddress name m' ∧
      m.Answers ipAddress name := by
  induction rounds generalizing m j with
  | zero => exact absurd hj (Nat.not_lt_zero j)
  | succ rounds ih =>
    have hindex : m.endpointIndex.toNat < 2 ^ 32 := m.endpointIndex.toNat_lt
    have hpos : 0 < m.endpoints.length := by
      obtain ⟨host, port, ⟨i, hi, -⟩, -⟩ := hserves
      exact Nat.zero_lt_of_lt (List.getElem?_eq_some_iff.mp hi).1
    have hnot : ¬ m.endpointIndex.toNat = start.toNat + m.endpoints.length := by
      have := hassert 0 (Nat.zero_le j)
      rwa [Nat.add_zero, Nat.mod_eq_of_lt hindex] at this
    obtain ⟨host, port, i, hendpoint, hhost⟩ := hwired _ (Nat.mod_lt m.endpointIndex.toNat hpos)
    simp only [requestEndpointFrom, if_neg hnot, hendpoint, hostAt_natCast, hhost]
    by_cases hempty : host.ipAddresses = []
    · -- The host has no addresses, so that the round robin has not come to the one that has some.
      rw [if_pos (by rw [hempty]; rfl)]
      cases j with
      | zero =>
        obtain ⟨other, otherPort, ⟨k, hk, hother⟩, hne⟩ := hserves
        rw [roundPlace_zero _ hindex, hendpoint] at hk
        cases hk
        rw [hhost] at hother
        cases hother
        exact absurd hempty hne
      | succ j =>
        have hnext : (m.endpointIndex + 1).toNat = (m.endpointIndex.toNat + 1) % 2 ^ 32 := UInt32.toNat_add ..
        refine ih (m := {m with endpointIndex := m.endpointIndex + 1}) hwired (Nat.lt_of_succ_lt_succ hj) ?_ ?_
        · show ∃ host port, m.EndpointAt (roundPlace _ _ (m.endpointIndex + 1).toNat j) host port ∧ _
          rw [hnext, roundPlace_succ]
          exact hserves
        · intro k hk
          show ((m.endpointIndex + 1).toNat + k) % 2 ^ 32 ≠ _
          rw [hnext, Nat.mod_add_mod, Nat.add_assoc, Nat.add_comm 1 k]
          exact hassert (k + 1) (Nat.succ_le_succ hk)
    · obtain ⟨address, hmem, haddress⟩ := exists_getElem_mod hempty host.addressIndex.toNat
      rw [if_neg (by simpa using hempty), haddress]
      exact ⟨_, _, _, rfl, _, host, port, ⟨i, hendpoint, hhost⟩, rfl, address, hmem, rfl⟩

/-! ### Runs -/

variable {std : SortAlgorithm (List UInt8)} {configured : List Endpoint} {m m' : SatelliteEndpointManager}

/-- What holds of the manager of configured endpoints in every run. -/
structure Valid (std : SortAlgorithm (List UInt8)) (configured : List Endpoint) (m : SatelliteEndpointManager) :
    Prop where
  names : ∀ family, m.hostNames family = separatedHosts std configured
  endpoints : m.endpoints = (separateEndpoints std configured).2
  counted : m.Counted

theorem construct_of_ne_nil (std : SortAlgorithm (List UInt8)) (h : configured ≠ []) :
    construct std configured =
      .ok ⟨(separatedHosts std configured).map .construct, (separateEndpoints std configured).2, 0, 0, 0⟩ :=
  if_neg (by simpa using h)

theorem construct_valid (hne : configured ≠ []) (hcount : distinctHosts configured ≤ 2 ^ 31)
    (h : construct std configured = .ok m) : m.Valid std configured ∧ m.resolved = 0 := by
  rw [construct_of_ne_nil std hne] at h
  obtain rfl := Except.ok.inj h
  have hresolved : (((separatedHosts std configured).map SatelliteHostManager.construct).map
      SatelliteHostManager.resolved).sum = 0 := by
    refine List.sum_eq_zero_iff_forall_eq_nat.mpr fun n hn => ?_
    rw [List.map_map] at hn
    obtain ⟨name, -, rfl⟩ := List.mem_map.mp hn
    rfl
  refine ⟨⟨fun family => ?_, rfl, ?_, ?_, ?_⟩, hresolved⟩
  · rw [hostNames, List.map_map]
    exact (List.map_congr_left fun name _ => by cases family <;> rfl).trans (List.map_id _)
  · rw [List.length_map, length_separatedHosts]
    exact hcount
  · rw [SatelliteEndpointManager.resolved, hresolved]
    rfl
  · rw [SatelliteEndpointManager.resolved, hresolved]
    rfl

theorem Valid.step (hvalid : m.Valid std configured) {e : EndpointEvent} (h : m.step e = some m') :
    m'.Valid std configured := by
  have hmoved := moved_of_step h
  refine ⟨fun family => ?_, ?_, hvalid.counted.step hmoved⟩
  · rw [hmoved.hostNames, hvalid.names]
  · rw [hmoved.endpoints, hvalid.endpoints]

theorem Valid.run (hvalid : m.Valid std configured) {events : List EndpointEvent}
    (h : machine.run m events = some m') : m'.Valid std configured :=
  machine.run_invariant (fun _ _ _ hs => hs.step) events m m' hvalid h

/-- Some resolution has addresses once an answer with addresses was given. -/
theorem resolved_pos_of_run {events : List EndpointEvent} (h : machine.run m events = some m') :
    0 < m'.resolved ↔ 0 < m.resolved ∨ ∃ e ∈ events, e.Succeeds := by
  induction events generalizing m with
  | nil =>
    cases h
    simp
  | cons e rest ih =>
    obtain ⟨u, hstep, hrest⟩ := machine.run_cons.mp h
    rw [ih hrest, (moved_of_step hstep).resolved_pos_iff, or_assoc]
    simp

/-! ### Endpoints and hosts -/

theorem Valid.hostNames_getElem? (hvalid : m.Valid std configured) (family : AddressFamily) (i : Nat) :
    (separatedHosts std configured)[i]? = m.hostManagers[i]?.map fun host => (host.resolutions family).name := by
  rw [← hvalid.names family, hostNames, List.getElem?_map]

section
variable (hvalid : m.Valid std configured) (hcount : distinctHosts configured ≤ 2 ^ 31)
include hvalid hcount

/-- Every place has an endpoint of some host, which is the host of a configured endpoint. -/
theorem Valid.exists_endpointAt {p : Nat} (hp : p < m.endpoints.length) :
    ∃ endpoint ∈ configured, ∃ host, m.EndpointAt p host endpoint.2 ∧
      ∀ family, caseless (host.resolutions family).name = caseless endpoint.cStr := by
  rw [hvalid.endpoints, separateEndpoints, List.length_map] at hp
  obtain ⟨i, name, hindex, hname, hkey⟩ := exists_index_of_endpoint std hcount (List.getElem_mem hp)
  have hnames := fun family => (hvalid.hostNames_getElem? family i).symm.trans hname
  obtain ⟨host, hhost, -⟩ := Option.map_eq_some_iff.mp (hnames .inet)
  refine ⟨configured[p], List.getElem_mem hp, host, ⟨i, ?_, hhost⟩, fun family => ?_⟩
  · rw [hvalid.endpoints, separateEndpoints, List.getElem?_map, List.getElem?_eq_getElem hp, Option.map_some, hindex]
  · obtain ⟨other, hother, heq⟩ := Option.map_eq_some_iff.mp (hnames family)
    rw [hhost] at hother
    cases hother
    rw [heq, hkey]

/-- Every host has an endpoint at some place. -/
theorem Valid.exists_place {host : SatelliteHostManager} (hhost : host ∈ m.hostManagers) :
    ∃ p < m.endpoints.length, ∃ port, m.EndpointAt p host port := by
  obtain ⟨i, hi⟩ := List.mem_iff_getElem?.mp hhost
  have hname := hvalid.hostNames_getElem? .inet i
  rw [hi, Option.map_some] at hname
  obtain ⟨endpoint, hendpoint, hindex⟩ := exists_endpoint_of_index std hcount hname
  obtain ⟨p, hp, rfl⟩ := List.mem_iff_getElem.mp hendpoint
  refine ⟨p, ?_, configured[p].2, i, ?_, hi⟩
  · rw [hvalid.endpoints, separateEndpoints, List.length_map]
    exact hp
  · rw [hvalid.endpoints, separateEndpoints, List.getElem?_map, List.getElem?_eq_getElem hp, Option.map_some, hindex]

theorem Valid.requestEndpoint_answers (hlength : configured.length ≤ 2 ^ 32) (hresolved : 0 < m.resolved) :
    ∃ ipAddress name m', m.requestEndpoint = .returned ipAddress name m' ∧ m.Answers ipAddress name := by
  obtain ⟨host, hhost, hne⟩ := (resolved_pos_iff m).mp hresolved
  obtain ⟨p, hp, port, hendpoint⟩ := hvalid.exists_place hcount hhost
  have hle : m.endpoints.length ≤ 2 ^ 32 := by
    rw [hvalid.endpoints, separateEndpoints, List.length_map]
    exact hlength
  obtain ⟨j, hj, hplace, hbefore⟩ := exists_round_before hp hle m.endpointIndex.toNat_lt
  refine requestEndpointFrom_answers (fun q hq => ?_) hj ⟨host, port, ?_, hne⟩ hbefore
  · obtain ⟨endpoint, -, other, hother, -⟩ := hvalid.exists_endpointAt hcount hq
    exact ⟨other, endpoint.2, hother⟩
  · rw [hplace]
    exact hendpoint

end

/-! ### Safety -/

/-- An address of a host that a resolution of it has found, with the port of a configured endpoint of that host. -/
def Assigned (sameHost : Endpoint → List UInt8 → Prop) (configured : List Endpoint) (m : SatelliteEndpointManager)
    (ipAddress : IpAddress) (name : List UInt8) : Prop :=
  ∃ endpoint ∈ configured, sameHost endpoint name ∧
    ∃ host ∈ m.hostManagers, ∃ family, (host.resolutions family).name = name ∧
      ∃ address ∈ (host.resolutions family).ipAddresses, ipAddress = address.setPort endpoint.2

/-- What is true after the events. -/
structure Safe (sameHost : Endpoint → List UInt8 → Prop) (configured : List Endpoint) (events : List EndpointEvent)
    (m : SatelliteEndpointManager) : Prop where
  callbacks : m.readyCallbacks = if ∃ e ∈ events, e.Succeeds then 1 else 0
  resolved : (∃ e ∈ events, e.Succeeds) → ∃ host ∈ m.hostManagers, ∃ family, (host.resolutions family).ipAddresses ≠ []
  assigns : 0 < m.readyCallbacks → ∃ ipAddress name m', m.requestEndpoint = .returned ipAddress name m' ∧
    Assigned sameHost configured m ipAddress name

/-- A name is that of an endpoint's host, read as a C string, in some spelling. -/
def SameHost (endpoint : Endpoint) (name : List UInt8) : Prop := iequals name endpoint.cStr = true

theorem Valid.assigned_of_answers (hvalid : m.Valid std configured) (hcount : distinctHosts configured ≤ 2 ^ 31)
    {ipAddress : IpAddress} {name : List UInt8} (h : m.Answers ipAddress name) :
    Assigned SameHost configured m ipAddress name := by
  obtain ⟨p, host, port, ⟨i, hendpoint, hhost⟩, rfl, address, hmem, rfl⟩ := h
  have hp := (List.getElem?_eq_some_iff.mp hendpoint).1
  obtain ⟨endpoint, hconfigured, other, ⟨k, hk, hother⟩, hnames⟩ := hvalid.exists_endpointAt hcount hp
  obtain ⟨rfl, rfl⟩ : i = k ∧ port = endpoint.2 := by
    obtain ⟨hindex, hport⟩ := Prod.mk.inj (Option.some.inj (hendpoint.symm.trans hk))
    exact ⟨Int.ofNat.inj hindex, hport⟩
  rw [hhost] at hother
  cases hother
  obtain ⟨family, hfamily⟩ := SatelliteHostManager.exists_family_of_mem hmem
  have hname : (host.resolutions family).name = host.ipv4Resolutions.name := by
    have hsame := (hvalid.hostNames_getElem? family i).symm.trans (hvalid.hostNames_getElem? .inet i)
    rw [hhost] at hsame
    exact Option.some.inj hsame
  exact ⟨endpoint, hconfigured, iequals_of_caseless.mpr (hnames .inet), host, List.mem_of_getElem? hhost, family, hname,
    address, hfamily, rfl⟩

/-- **In every run the callback is made with the first answer that has addresses, and from then on some host has
addresses and a request assigns an endpoint.** -/
theorem endpoints_safe (std : SortAlgorithm (List UInt8)) (configured : List Endpoint) (hne : configured ≠ [])
    (hcount : distinctHosts configured ≤ 2 ^ 31) (hlength : configured.length ≤ 2 ^ 32) :
    ∃ m₀, construct std configured = .ok m₀ ∧
      ∀ events m, machine.run m₀ events = some m → Safe SameHost configured events m := by
  have hconstruct := construct_of_ne_nil std hne
  obtain ⟨hvalid₀, hnone⟩ := construct_valid hne hcount hconstruct
  refine ⟨_, hconstruct, fun events m hrun => ?_⟩
  have hvalid := hvalid₀.run hrun
  have hpos : 0 < m.resolved ↔ ∃ e ∈ events, e.Succeeds := by
    rw [resolved_pos_of_run hrun, hnone]
    simp
  have hcallbacks := hvalid.counted.callbacks
  refine ⟨?_, fun hsucceeds => ?_, fun hready => ?_⟩
  · by_cases hsucceeds : ∃ e ∈ events, e.Succeeds
    · rw [hcallbacks, if_pos hsucceeds, if_neg (Nat.ne_of_gt (hpos.mpr hsucceeds))]
    · rw [hcallbacks, if_neg hsucceeds, if_pos (Nat.eq_zero_of_not_pos fun h => hsucceeds (hpos.mp h))]
  · obtain ⟨host, hhost, haddresses⟩ := (resolved_pos_iff m).mp (hpos.mpr hsucceeds)
    obtain ⟨address, hmem⟩ := List.exists_mem_of_ne_nil _ haddresses
    obtain ⟨family, hfamily⟩ := SatelliteHostManager.exists_family_of_mem hmem
    exact ⟨host, hhost, family, List.ne_nil_of_mem hfamily⟩
  · have hresolved : 0 < m.resolved := by
      refine Nat.pos_of_ne_zero fun hzero => ?_
      rw [hcallbacks, if_pos hzero] at hready
      exact Nat.lt_irrefl 0 hready
    obtain ⟨ipAddress, name, m', hrequest, hanswers⟩ := hvalid.requestEndpoint_answers hcount hlength hresolved
    exact ⟨ipAddress, name, m', hrequest, hvalid.assigned_of_answers hcount hanswers⟩

/-- Failures of every kind around addresses that are replaced by fewer. -/
def busyRun : List EndpointEvent :=
  [.start, .resolved 1 .inet6 ⟨[], []⟩, .resolved 0 .inet ⟨[.ipv4 1 0, .ipv4 2 0], []⟩, .requestEndpoint,
    .requestEndpoint, .timeout 0 .inet, .resolved 0 .inet ⟨[.ipv4 3 0], []⟩, .requestEndpoint,
    .resolved 0 .inet6 ⟨[], ascii "timeout"⟩, .timeout 0 .inet, .resolved 0 .inet ⟨[], []⟩, .requestEndpoint]

theorem spelledTwice_safe : ∃ m₀ m, construct .insertionSort spelledTwice = .ok m₀ ∧
    machine.run m₀ busyRun = some m ∧ Safe SameHost spelledTwice busyRun m := by
  obtain ⟨m₀, hconstruct, hsafe⟩ :=
    endpoints_safe .insertionSort spelledTwice (by decide) (by decide) (by decide)
  rw [construct_of_ne_nil _ (by decide)] at hconstruct
  obtain rfl := Except.ok.inj hconstruct
  exact ⟨_, _, rfl, rfl, hsafe _ _ rfl⟩

/-! ### Names in other spellings, and more hosts and endpoints than there are indices -/

/-- The manager once a first address of one host is found. -/
def firstResolved (std : SortAlgorithm (List UInt8)) (configured : List Endpoint) (k : Nat) (name : List UInt8)
    (ipAddress : IpAddress) : SatelliteEndpointManager where
  hostManagers := ((separatedHosts std configured).map fun name => (SatelliteHostManager.construct name).start).set k
    ((SatelliteHostManager.construct name).start.setResolutions ⟨.inet, name, [ipAddress], .refreshTimer⟩ .inet)
  endpoints := (separateEndpoints std configured).2
  endpointIndex := 0
  numResolutionsReady := 1
  readyCallbacks := 1

theorem run_firstResolved (std : SortAlgorithm (List UInt8)) {k : Nat} {name : List UInt8}
    (hk : (separatedHosts std configured)[k]? = some name) (ipAddress : IpAddress) :
    machine.run ⟨(separatedHosts std configured).map .construct, (separateEndpoints std configured).2, 0, 0, 0⟩
      [.start, .resolved k .inet ⟨[ipAddress], []⟩] = some (firstResolved std configured k name ipAddress) := by
  refine machine.run_cons.mpr ⟨_, if_pos ?_, machine.run_cons.mpr ⟨_, ?_, rfl⟩⟩
  · intro host hhost family
    obtain ⟨name, -, rfl⟩ := List.mem_map.mp hhost
    cases family <;> rfl
  · have hhost : (((separatedHosts std configured).map SatelliteHostManager.construct).map .start)[k]? =
        some (SatelliteHostManager.construct name).start := by
      rw [List.getElem?_map, List.getElem?_map, hk]
      rfl
    simp only [machine, step, SatelliteEndpointManager.start, hhost]
    rw [List.map_map]
    rfl

theorem getElem?_firstResolved (std : SortAlgorithm (List UInt8)) {i k : Nat} (h : i ≠ k) (name : List UInt8)
    (ipAddress : IpAddress) : (firstResolved std configured k name ipAddress).hostManagers[i]? =
      (separatedHosts std configured)[i]?.map fun name => (SatelliteHostManager.construct name).start := by
  rw [firstResolved, List.getElem?_set_ne h.symm, List.getElem?_map]

theorem requestEndpoint_of_negative {hostIndex : Int} {port : UInt16}
    (hendpoint : m.endpoints[m.endpointIndex.toNat % m.endpoints.length]? = some (hostIndex, port))
    (hnegative : hostIndex < 0) : m.requestEndpoint = .outOfRange := by
  have hlt := (List.getElem?_eq_some_iff.mp hendpoint).1
  have hnot : ¬ m.endpointIndex.toNat = m.endpointIndex.toNat + m.endpoints.length := by omega
  have hrounds : 2 ^ 32 = (2 ^ 32 - 1) + 1 := rfl
  rw [requestEndpoint, hrounds, requestEndpointFrom, if_neg hnot, hendpoint]
  simp only [hostAt, if_pos hnegative]

/-- Hosts without addresses at every place the counter shows. -/
theorem requestEndpointFrom_looping {start : UInt32} (rounds : Nat)
    (hall : ∀ n < 2 ^ 32, n ≠ start.toNat + m.endpoints.length ∧
      ∃ host port, m.EndpointAt (n % m.endpoints.length) host port ∧ host.ipAddresses = []) :
    m.requestEndpointFrom start rounds = .looping := by
  induction rounds generalizing m with
  | zero => rfl
  | succ rounds ih =>
    obtain ⟨hnot, host, port, ⟨i, hendpoint, hhost⟩, hempty⟩ := hall _ m.endpointIndex.toNat_lt
    have hskip : host.ipAddresses.isEmpty = true := by rw [hempty]; rfl
    simp only [requestEndpointFrom, if_neg hnot, hendpoint, hostAt_natCast, hhost, if_pos hskip]
    exact ih (m := {m with endpointIndex := m.endpointIndex + 1}) hall

/-- The first endpoint has a negative index. -/
theorem manyHosts_requestEndpoint (std : SortAlgorithm (List UInt8)) (k : Nat) (name : List UInt8)
    (ipAddress : IpAddress) : (firstResolved std manyHosts k name ipAddress).requestEndpoint = .outOfRange := by
  have hcons : manyHosts[0]? = some (ascii "z", 0) := List.getElem?_cons_zero
  have hfirst : (firstResolved std manyHosts k name ipAddress).endpoints[0]? = some (-2 ^ 31, 0) := by
    rw [firstResolved, separateEndpoints, List.getElem?_map, hcons, Option.map_some]
    show some (distanceToInt (lowerBound (lessThan · (cStringView (ascii "z"))) (separatedHosts std manyHosts)), _) = _
    rw [lowerBound_manyHosts, distanceToInt_two_pow]
  have hplace : (firstResolved std manyHosts k name ipAddress).endpointIndex.toNat %
      (firstResolved std manyHosts k name ipAddress).endpoints.length = 0 := Nat.zero_mod _
  rw [← hplace] at hfirst
  exact requestEndpoint_of_negative hfirst (by decide)

/-- One endpoint more than the counter has values, and a host that has none but this one. -/
def manyEndpoints : List Endpoint := List.replicate (2 ^ 32) (ascii "a", 0) ++ [(ascii "b", 0)]

theorem mem_manyEndpoints {endpoint : Endpoint} :
    endpoint ∈ manyEndpoints ↔ endpoint = (ascii "a", 0) ∨ endpoint = (ascii "b", 0) := by
  rw [manyEndpoints, List.mem_append, List.mem_replicate, List.mem_singleton]
  exact or_congr (and_iff_right (by decide)) Iff.rfl

theorem separatedHosts_manyEndpoints (std : SortAlgorithm (List UInt8)) :
    separatedHosts std manyEndpoints = [ascii "a", ascii "b"] := by
  have hstrict := separatedHosts_strict std manyEndpoints
  have hsub : ∀ host ∈ separatedHosts std manyEndpoints, host = ascii "a" ∨ host = ascii "b" := by
    intro host hmem
    obtain ⟨endpoint, hendpoint, rfl⟩ := exists_of_mem_separatedHosts std manyEndpoints hmem
    rcases mem_manyEndpoints.mp hendpoint with rfl | rfl
    · exact Or.inl (by decide)
    · exact Or.inr (by decide)
  have hmem : ∀ host, host ∈ separatedHosts std manyEndpoints ↔ host ∈ [ascii "a", ascii "b"] := by
    intro host
    refine ⟨fun h => by simpa using hsub host h, fun h => ?_⟩
    have hendpoint : (host, 0) ∈ manyEndpoints := mem_manyEndpoints.mpr (by simpa using h)
    obtain ⟨other, hother, hkey⟩ := exists_mem_separatedHosts std manyEndpoints hendpoint
    have hsame : other = host := by
      rcases hsub other hother with rfl | rfl <;> rcases List.mem_pair.mp h with rfl | rfl <;>
        first | rfl | exact absurd hkey (by decide)
    rwa [hsame] at hother
  have hnodup : (separatedHosts std manyEndpoints).Nodup := hstrict.imp fun hlt heq => absurd (heq ▸ hlt) (lt_irrefl _)
  have hperm := (List.perm_ext_iff_of_nodup hnodup (by decide)).mpr hmem
  exact hperm.eq_of_pairwise (fun _ _ _ _ hab hba => absurd hab (lt_asymm hba)) hstrict (by decide)

/-- A host without addresses has every place the counter shows. -/
theorem manyEndpoints_requestEndpoint (std : SortAlgorithm (List UInt8)) (ipAddress : IpAddress) :
    (firstResolved std manyEndpoints 1 (ascii "b") ipAddress).requestEndpoint = .looping := by
  have hlength : manyEndpoints.length = 2 ^ 32 + 1 := by
    rw [manyEndpoints, List.length_append, List.length_replicate]
    rfl
  refine requestEndpointFrom_looping _ fun n hn => ?_
  rw [show (firstResolved std manyEndpoints 1 (ascii "b") ipAddress).endpoints.length = 2 ^ 32 + 1 from
    (List.length_map _).trans hlength]
  refine ⟨by omega, (SatelliteHostManager.construct (ascii "a")).start, 0, ⟨0, ?_, ?_⟩, rfl⟩
  · have hn' : n < (List.replicate (2 ^ 32) ((ascii "a", 0) : Endpoint)).length := by
      rw [List.length_replicate]
      exact hn
    have hendpoint : manyEndpoints[n]? = some (ascii "a", 0) := by
      rw [manyEndpoints, List.getElem?_append_left hn', List.getElem?_replicate_of_lt hn]
    rw [Nat.mod_eq_of_lt (Nat.lt_succ_of_lt hn), firstResolved, separateEndpoints, List.getElem?_map, hendpoint,
      Option.map_some, separatedHosts_manyEndpoints]
    decide
  · rw [getElem?_firstResolved std (by decide), separatedHosts_manyEndpoints]
    rfl

/-- A run after which it is not true. -/
def Refuted (sameHost : Endpoint → List UInt8 → Prop) (configured : List Endpoint) (events : List EndpointEvent) :
    Prop :=
  ∃ m₀ m, construct .insertionSort configured = .ok m₀ ∧ machine.run m₀ events = some m ∧
    ¬ Safe sameHost configured events m

/-- A request that does not return. -/
theorem refuted_of_request {sameHost : Endpoint → List UInt8 → Prop} (hne : configured ≠ []) {k : Nat}
    {name : List UInt8} (hk : (separatedHosts .insertionSort configured)[k]? = some name) (ipAddress : IpAddress)
    (hrequest : ∀ address assigned m,
      (firstResolved .insertionSort configured k name ipAddress).requestEndpoint ≠ .returned address assigned m) :
    Refuted sameHost configured [.start, .resolved k .inet ⟨[ipAddress], []⟩] := by
  refine ⟨_, _, construct_of_ne_nil .insertionSort hne, run_firstResolved .insertionSort hk ipAddress, fun hsafe => ?_⟩
  obtain ⟨address, assigned, m, hreturned, -⟩ := hsafe.assigns Nat.zero_lt_one
  exact hrequest address assigned m hreturned

def twoSpellings : List Endpoint := [(ascii "A", 1), (ascii "a", 2)]

/-- The second port is assigned with the first spelling. -/
theorem twoSpellings_refuted : Refuted (fun endpoint name => name = endpoint.1) twoSpellings
    [.start, .resolved 0 .inet ⟨[.ipv4 1 0], []⟩, .requestEndpoint] := by
  refine ⟨_, _, rfl, rfl, fun hsafe => ?_⟩
  obtain ⟨ipAddress, name, m', hreturned, endpoint, hendpoint, hname, host, -, family, -, address, -, hip⟩ :=
    hsafe.assigns Nat.zero_lt_one
  obtain ⟨rfl, rfl, -⟩ := EndpointRequest.returned.inj
    (hreturned.symm.trans (rfl : _ = EndpointRequest.returned (.ipv4 1 2) (ascii "A") _))
  rcases List.mem_pair.mp hendpoint with rfl | rfl
  · cases address <;> cases hip
  · exact absurd hname (by decide)

theorem nullHost_refuted : Refuted (fun endpoint name => iequals name endpoint.1 = true) nullHost
    [.start, .resolved 0 .inet ⟨[.ipv4 1 0], []⟩] := by
  refine ⟨_, _, rfl, rfl, fun hsafe => ?_⟩
  obtain ⟨ipAddress, name, m', hreturned, endpoint, hendpoint, hname, -⟩ := hsafe.assigns Nat.zero_lt_one
  obtain ⟨-, rfl, -⟩ := EndpointRequest.returned.inj
    (hreturned.symm.trans (rfl : _ = EndpointRequest.returned (.ipv4 1 1) (ascii "a") _))
  rw [List.mem_singleton.mp hendpoint] at hname
  exact absurd hname (by decide)

/-- A name may be another spelling or be cut at a null character, the index of a host is an `int`, and that of the
endpoints has 32 bits. -/
theorem not_all_safe :
    Refuted (fun endpoint name => name = endpoint.1) twoSpellings
      [.start, .resolved 0 .inet ⟨[.ipv4 1 0], []⟩, .requestEndpoint] ∧
    Refuted (fun endpoint name => iequals name endpoint.1 = true) nullHost
      [.start, .resolved 0 .inet ⟨[.ipv4 1 0], []⟩] ∧
    Refuted SameHost manyHosts [.start, .resolved 0 .inet ⟨[.ipv4 1 0], []⟩] ∧
    Refuted SameHost manyEndpoints [.start, .resolved 1 .inet ⟨[.ipv4 1 0], []⟩] := by
  refine ⟨twoSpellings_refuted, nullHost_refuted, ?_, ?_⟩
  · have hpos : 0 < (separatedHosts .insertionSort manyHosts).length := by
      rw [length_separatedHosts, distinctHosts_manyHosts]
      exact Nat.succ_pos _
    have hne : manyHosts ≠ [] := List.cons_ne_nil _ _
    refine refuted_of_request hne (List.getElem?_eq_getElem hpos) _ fun _ _ _ => ?_
    rw [manyHosts_requestEndpoint]
    exact nofun
  · have hb : (separatedHosts .insertionSort manyEndpoints)[1]? = some (ascii "b") := by
      rw [separatedHosts_manyEndpoints]
      rfl
    have hne : manyEndpoints ≠ [] := List.append_ne_nil_of_right_ne_nil _ (List.cons_ne_nil _ _)
    refine refuted_of_request hne hb _ fun _ _ _ => ?_
    rw [manyEndpoints_requestEndpoint]
    exact nofun

end SatelliteEndpointManager
end Lightstep.Recorder
