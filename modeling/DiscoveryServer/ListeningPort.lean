import DiscoveryServer.LateJoiner
import DiscoveryServer.Library.Numbers

/-!
# Listening ports

What `loadClient` does with the attribute `listening_port`: the match against
`ipv4_regular_expression`, the conversion of the port, and the choice of the TCP
transport that listens on it. Transport descriptors are shared objects, so they are
kept in a list and a pointer is a position in it.
-/

namespace DiscoveryServer

open Library

/-! ## The regular expression -/

namespace Ipv4RegularExpression

/-- `[0-9]{1,3}\.` at the start of a string, and the rest of it. -/
def dottedOctet (s : List Char) : Option (List Char × List Char) :=
  let digits := s.takeWhile Char.isDigit
  match s.dropWhile Char.isDigit with
  | '.' :: rest =>
    if 1 ≤ digits.length ∧ digits.length ≤ 3 then some (digits ++ ['.'], rest) else none
  | _ => none

/-- `[0-9]{1,3}`, which takes as many digits as it may. -/
def lastOctet (s : List Char) : Option (List Char × List Char) :=
  let digits := (s.take 3).takeWhile Char.isDigit
  if digits = [] then none else some (digits, s.drop digits.length)

/-- `(?:[0-9]{1,3}\.){3}[0-9]{1,3}`. -/
def address (s : List Char) : Option (List Char × List Char) := do
  let (a, s) ← dottedOctet s
  let (b, s) ← dottedOctet s
  let (c, s) ← dottedOctet s
  let (d, s) ← lastOctet s
  return (a ++ b ++ c ++ d, s)

/-- `:?(?:(\d+))?$`. -/
def port (s : List Char) : Option (List Char) :=
  let digits := match s with
    | ':' :: rest => rest
    | _ => s
  if digits.all Char.isDigit then some digits else none

/-- `regex_match`: the address and the port, empty where their group has matched
nothing. A string that starts with an address has dots, so it cannot match without
one, and giving digits of the address back does not help either. -/
def regexMatch (s : String) : Option (String × List Char) :=
  match address s.toList with
  | some (a, rest) => (port rest).map fun digits => (String.ofList a, digits)
  | none => (port s.toList).map fun digits => ("", digits)

end Ipv4RegularExpression

/-! ## The transports -/

/-- The numbers of a text `a.b.c.d`. -/
def addressNumbers (address : String) : List Nat :=
  (address.toList.splitOn '.').map leadingNumber

/-- `wan_addr`: the four octets of a WAN address. -/
structure WanAddress where
  o1 : BitVec 8
  o2 : BitVec 8
  o3 : BitVec 8
  o4 : BitVec 8
deriving DecidableEq

namespace WanAddress

/-- The address of a new descriptor. -/
def zero : WanAddress := ⟨0, 0, 0, 0⟩

/-- The four numbers of an address. -/
def numbers (wan : WanAddress) : List Nat :=
  [wan.o1.toNat, wan.o2.toNat, wan.o3.toNat, wan.o4.toNat]

end WanAddress

/-- A `TransportDescriptorInterface`, by its class. -/
inductive TransportDescriptor where
  | tcpv4 (listeningPorts : List (BitVec 16)) (wanAddress : WanAddress)
  | tcpv6 (listeningPorts : List (BitVec 16))
  | udpv4
  | other
deriving DecidableEq

namespace TransportDescriptor

def isTcpv4 : TransportDescriptor → Bool
  | tcpv4 .. => true
  | _ => false

def isTcpv6 : TransportDescriptor → Bool
  | tcpv6 .. => true
  | _ => false

/-- `add_listener_port`, when the descriptor has no listening port. -/
def listenOn (port : BitVec 16) : TransportDescriptor → TransportDescriptor
  | tcpv4 [] wan => tcpv4 [port] wan
  | tcpv6 [] => tcpv6 [port]
  | descriptor => descriptor

/-- `set_WAN_address` with what Fast DDS reads from the text, which a TCPv6 descriptor
does not have. -/
def setWanAddress (wan : WanAddress) : TransportDescriptor → TransportDescriptor
  | tcpv4 ports _ => tcpv4 ports wan
  | descriptor => descriptor

end TransportDescriptor

/-- The transport list of a client with a listening port, and the descriptors there
are then. The descriptor `pT` that is changed is new: a copy of the first TCPv4 one or,
without an address, of the first TCPv6 one, put in its place, or one more TCPv4. The
octets Fast DDS reads from an address are `readWan`'s. -/
def listeningTransport (readWan : String → WanAddress) (descriptors : List TransportDescriptor)
    (transports : List TransportPtr) (address : String) (port : BitVec 16) :
    List TransportDescriptor × List TransportPtr :=
  let p4 := transports.find? fun sp => descriptors[sp]?.any TransportDescriptor.isTcpv4
  let p6 := transports.find? fun sp => descriptors[sp]?.any TransportDescriptor.isTcpv6
  let pT : TransportPtr := descriptors.length
  let copy : TransportPtr → TransportDescriptor := fun sp => descriptors[sp]?.getD .other
  let (descriptor, transports) :=
    match p4, p6 with
    | some p4, _ => (copy p4, transports.replace p4 pT)
    | none, some p6 =>
      if address = "" then (copy p6, transports.replace p6 pT)
      else (.tcpv4 [] .zero, transports ++ [pT])
    | none, none => (.tcpv4 [] .zero, transports ++ [pT])
  let descriptor := descriptor.listenOn port
  -- set up WAN if specified
  let descriptor :=
    if address = "" then descriptor else descriptor.setWanAddress (readWan address)
  (descriptors ++ [descriptor], transports)

end DiscoveryServer
