/-
Ethernet and IPv6 addresses.

Both classes are plain byte arrays compared with `memcmp`; the source predicates
look at fixed octets.  `isIPv6Multicast` is read from the half of the merge
conflict in MACAddress.cpp that carries its body, as MACAddress.h declares it.
-/

import EtherSiaStack.Library.ByteMemory

namespace EtherSiaStack

@[ext] structure MACAddress where
  octet : Fin 6 → UInt8

@[ext] structure IPv6Address where
  octet : Fin 16 → UInt8

/-- `memcmp` of the octets. -/
instance : DecidableEq MACAddress := fun left right =>
  decidable_of_iff (∀ index, left.octet index = right.octet index)
    (funext_iff.symm.trans MACAddress.ext_iff.symm)

instance : DecidableEq IPv6Address := fun left right =>
  decidable_of_iff (∀ index, left.octet index = right.octet index)
    (funext_iff.symm.trans IPv6Address.ext_iff.symm)

/-- Enumeration of IPv6 address types; the source's 0 is `none`. -/
inductive IPv6AddressType
  | linkLocal
  | global
  | multicast
  deriving DecidableEq, Repr

namespace MACAddress

def isIPv6Multicast (mac : MACAddress) : Bool :=
  mac.octet 0 = 0x33 ∧ mac.octet 1 = 0x33

/-- The multicast group address of an IPv6 destination: 33:33 and its last four
octets. -/
def setIPv6Multicast (address : IPv6Address) : MACAddress :=
  ⟨![0x33, 0x33, address.octet 12, address.octet 13, address.octet 14,
    address.octet 15]⟩

end MACAddress

namespace IPv6Address

def zero : IPv6Address :=
  ⟨fun _ => 0⟩

def isMulticast (address : IPv6Address) : Bool :=
  address.octet 0 = 0xFF

def isLinkLocal (address : IPv6Address) : Bool :=
  address.octet 0 = 0xfe ∧ address.octet 1 = 0x80

def isZero (address : IPv6Address) : Bool :=
  ∀ index, address.octet index = 0x00

/-- `type()`: whatever is nothing else is taken for global. -/
def type (address : IPv6Address) : IPv6AddressType :=
  if address.isMulticast then .multicast
  else if address.isLinkLocal then .linkLocal
  else .global

/-- The first 64 bits match. -/
def inSameSubnet (address other : IPv6Address) : Bool :=
  ∀ index : Fin 16, index.val < 8 → address.octet index = other.octet index

/-- Overwrite the first two octets with fe:80. -/
def setLinkLocalPrefix (address : IPv6Address) : IPv6Address :=
  ⟨fun index =>
    if index.val = 0 then 0xfe
    else if index.val = 1 then 0x80
    else address.octet index⟩

/-- Overwrite the last eight octets with the EUI-64 of a MAC address. -/
def setEui64 (address : IPv6Address) (mac : MACAddress) : IPv6Address :=
  ⟨![address.octet 0, address.octet 1, address.octet 2, address.octet 3,
    address.octet 4, address.octet 5, address.octet 6, address.octet 7,
    mac.octet 0 ^^^ 0x02, mac.octet 1, mac.octet 2, 0xff, 0xfe,
    mac.octet 3, mac.octet 4, mac.octet 5]⟩

def linkLocalAllNodes : IPv6Address :=
  ⟨![0xFF, 0x02, 0, 0, 0, 0, 0, 0, 0, 0, 0, 0, 0, 0, 0, 0x01]⟩

def linkLocalAllRouters : IPv6Address :=
  ⟨![0xFF, 0x02, 0, 0, 0, 0, 0, 0, 0, 0, 0, 0, 0, 0, 0, 0x02]⟩

/-- The solicited-node multicast group of an address. -/
def setSolicitedNodeMulticastAddress (address : IPv6Address) : IPv6Address :=
  ⟨![0xFF, 0x02, 0, 0, 0, 0, 0, 0, 0, 0, 0, 0x01, 0xFF,
    address.octet 13, address.octet 14, address.octet 15]⟩

def isLinkLocalAllNodes (address : IPv6Address) : Bool :=
  address = linkLocalAllNodes

def isSolicitedNodeMulticastAddress (address other : IPv6Address) : Bool :=
  address = setSolicitedNodeMulticastAddress other

/-- The address `begin()` builds for a MAC address. -/
def linkLocalOf (mac : MACAddress) : IPv6Address :=
  zero.setLinkLocalPrefix.setEui64 mac

theorem linkLocalOf_isLinkLocal (mac : MACAddress) :
    (linkLocalOf mac).isLinkLocal = true := by
  simp [isLinkLocal, linkLocalOf, setEui64, setLinkLocalPrefix]

end IPv6Address

end EtherSiaStack
