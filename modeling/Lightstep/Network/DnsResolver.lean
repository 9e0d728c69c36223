/-! Addresses, and what a resolver reports to its callback. -/
namespace Lightstep.Network

inductive AddressFamily where
  | inet
  | inet6
  deriving DecidableEq

instance {p : AddressFamily → Prop} [DecidablePred p] : Decidable (∀ family, p family) :=
  decidable_of_iff (p .inet ∧ p .inet6)
    ⟨fun h => fun | .inet => h.1 | .inet6 => h.2, fun h => ⟨h .inet, h .inet6⟩⟩

/-- The system object holds the port in network order. -/
inductive IpAddress where
  | ipv4 (address : BitVec 32) (port : UInt16)
  | ipv6 (address : BitVec 128) (port : UInt16)
  deriving DecidableEq

def IpAddress.setPort (port : UInt16) : IpAddress → IpAddress
  | .ipv4 address _ => .ipv4 address port
  | .ipv6 address _ => .ipv6 address port

/-- The addresses are those that `ForeachIpAddress` goes through. -/
structure DnsResolution where
  ipAddresses : List IpAddress
  errorMessage : List UInt8
  deriving DecidableEq

end Lightstep.Network
