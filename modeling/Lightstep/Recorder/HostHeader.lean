import Lightstep.Common.Value
import Lightstep.Library.RequestHead

/-! The host header of a streaming request.

The header is printed to a buffer whose place and size never change: it has room for the
longest host, and shorter ones are filled up with spaces. -/
namespace Lightstep.Recorder
open Library Common

/-- `snprintf` with a buffer of its own, which is longer than nothing. -/
def snprintf (buffer formatted : List UInt8) : List UInt8 :=
  let printed := formatted.take (buffer.length - 1)
  printed ++ 0 :: buffer.drop (printed.length + 1)

/-- What `%*s` prints of a C string. -/
def paddedString (width : Nat) (s : List UInt8) : List UInt8 :=
  List.replicate (width - (cStringView s).length) 32 ++ cStringView s

structure HostHeader where
  maxHostLength : Nat
  header : List UInt8

namespace HostHeader

def new (satelliteEndpoints : List (List UInt8 × UInt16)) : HostHeader :=
  let maxHostLength := satelliteEndpoints.foldl (fun maxHostLength endpoint => Nat.max maxHostLength endpoint.1.length) 0
  let headerLength := 5 + maxHostLength + 2
  ⟨maxHostLength, List.replicate (headerLength + 1) 0⟩

def setHost (host : List UInt8) (h : HostHeader) : HostHeader :=
  {h with header := snprintf h.header (ascii "Host:" ++ paddedString h.maxHostLength host ++ ascii "\r\n")}

def fragment (h : HostHeader) : List UInt8 := h.header.take (h.header.length - 1)

/-- The line of the host, without its end. -/
def line (maxHostLength : Nat) (host : List UInt8) : List UInt8 := ascii "Host:" ++ paddedString maxHostLength host

theorem length_snprintf {buffer : List UInt8} (h : buffer ≠ []) (formatted : List UInt8) :
    (snprintf buffer formatted).length = buffer.length := by
  have hpos := List.length_pos_iff.mpr h
  simp only [snprintf, List.length_append, List.length_cons, List.length_take, List.length_drop]
  omega

theorem le_foldl_max {satelliteEndpoints : List (List UInt8 × UInt16)} {n : Nat} :
    n ≤ satelliteEndpoints.foldl (fun maxHostLength endpoint => Nat.max maxHostLength endpoint.1.length) n ∧
      ∀ endpoint ∈ satelliteEndpoints, endpoint.1.length ≤
        satelliteEndpoints.foldl (fun maxHostLength endpoint => Nat.max maxHostLength endpoint.1.length) n := by
  induction satelliteEndpoints generalizing n with
  | nil => exact ⟨Nat.le_refl n, fun _ h => absurd h List.not_mem_nil⟩
  | cons endpoint rest ih =>
    obtain ⟨hle, hall⟩ := @ih (Nat.max n endpoint.1.length)
    refine ⟨Nat.le_trans (Nat.le_max_left ..) hle, fun other hother => ?_⟩
    rcases List.mem_cons.mp hother with rfl | hother
    · exact Nat.le_trans (Nat.le_max_right ..) hle
    · exact hall other hother

/-- The buffer has the room that the constructor gave it. -/
structure Inv (satelliteEndpoints : List (List UInt8 × UInt16)) (h : HostHeader) : Prop where
  maxHostLength : h.maxHostLength = (new satelliteEndpoints).maxHostLength
  length : h.header.length = 5 + h.maxHostLength + 2 + 1

theorem new_inv (satelliteEndpoints : List (List UInt8 × UInt16)) : (new satelliteEndpoints).Inv satelliteEndpoints :=
  ⟨rfl, List.length_replicate⟩

variable {satelliteEndpoints : List (List UInt8 × UInt16)} {h : HostHeader}

theorem Inv.setHost (hinv : h.Inv satelliteEndpoints) (host : List UInt8) : (h.setHost host).Inv satelliteEndpoints := by
  have hne : h.header ≠ [] := List.ne_nil_of_length_pos (by rw [hinv.length]; omega)
  exact ⟨hinv.maxHostLength, (length_snprintf hne _).trans hinv.length⟩

theorem foldl_inv (hinv : h.Inv satelliteEndpoints) (hosts : List (List UInt8)) :
    (hosts.foldl (fun h host => h.setHost host) h).Inv satelliteEndpoints := by
  induction hosts generalizing h with
  | nil => exact hinv
  | cons host rest ih => exact ih (hinv.setHost host)

theorem length_cStringView_le (s : List UInt8) : (cStringView s).length ≤ s.length := (List.takeWhile_prefix _).length_le

/-- **The header names the host set last**, whatever was set before, and is always as long. -/
theorem fragment_setHost (hinv : h.Inv satelliteEndpoints) {endpoint : List UInt8 × UInt16}
    (hmem : endpoint ∈ satelliteEndpoints) :
    (h.setHost endpoint.1).fragment = line h.maxHostLength endpoint.1 ++ lineBreak ∧
      (h.setHost endpoint.1).fragment.length = h.fragment.length := by
  have hhost : (cStringView endpoint.1).length ≤ h.maxHostLength := by
    rw [hinv.maxHostLength]
    exact Nat.le_trans (length_cStringView_le _) (le_foldl_max.2 endpoint hmem)
  have hformatted : (line h.maxHostLength endpoint.1 ++ lineBreak).length = h.header.length - 1 := by
    have hprefix : (ascii "Host:").length = 5 := by decide
    simp only [line, paddedString, lineBreak, List.length_append, List.length_replicate, List.length_cons,
      List.length_nil, hprefix, hinv.length]
    omega
  have hfragment : (h.setHost endpoint.1).fragment = line h.maxHostLength endpoint.1 ++ lineBreak := by
    have hlength := (hinv.setHost endpoint.1).length
    rw [fragment, hlength]
    show (snprintf h.header (line h.maxHostLength endpoint.1 ++ lineBreak)).take _ = _
    have htake : 5 + h.maxHostLength + 2 + 1 - 1 = (line h.maxHostLength endpoint.1 ++ lineBreak).length := by
      rw [hformatted, hinv.length]
    rw [snprintf, ← hformatted, List.take_length, show (h.setHost endpoint.1).maxHostLength = h.maxHostLength from rfl,
      htake, List.take_left]
  refine ⟨hfragment, ?_⟩
  rw [hfragment, hformatted, fragment, List.length_take, Nat.min_eq_left (Nat.sub_le _ _)]

end HostHeader
end Lightstep.Recorder
