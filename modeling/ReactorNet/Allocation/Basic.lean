import ReactorNet.Allocation.Pool
import ReactorNet.Interface.Fault

/-!
# `ReactorNet.Allocation.Basic` · the resources that a federation has claimed

What is claimed by the interfaces and channels of one federation: addresses, the ports of each
address, and serial devices. Every claim is a function that either gives the allocation after it or
the fault for which nothing is claimed; so a claim that fails leaves no trace.

**Ranges.** Free ports are taken from 1024 to 65535, but 65535 may not be asked for. Devices are
numbered from 0 to 255. Loopback addresses are shared by everybody and never recorded.
-/

namespace ReactorNet

/-- The ports of an address. -/
abbrev PortPool := Pool 1024 65535

/-- The greatest port that may be asked for. -/
def lastReservablePort : Nat := 65534

/-- The greatest device number. -/
def lastDevice : Nat := 255

/-- The serial devices. -/
abbrev DevicePool := Pool 0 lastDevice

/-- What a federation has claimed. -/
structure Allocation where
  /-- The addresses. -/
  addresses : List Address := []
  /-- The ports, by address. -/
  ports : List (Address × PortPool) := []
  /-- The devices. -/
  devices : DevicePool := {}

namespace Allocation

/-- The ports of an address. -/
def portsOf (s : Allocation) (a : Address) : PortPool := (s.ports.lookup a).getD {}

/-- Put the ports of an address in the place of those that a table has for it. -/
def setPorts (a : Address) (pool : PortPool) : List (Address × PortPool) → List (Address × PortPool)
  | [] => [(a, pool)]
  | (b, p) :: rest => if b == a then (a, pool) :: rest else (b, p) :: setPorts a pool rest

/-- The allocation with other ports of an address. -/
def withPorts (s : Allocation) (a : Address) (pool : PortPool) : Allocation :=
  { s with ports := setPorts a pool s.ports }

/-- Whether an address is claimed. -/
def hasAddress (s : Allocation) (a : Address) : Bool := s.addresses.contains a

/-- Whether a port of an address is claimed. -/
def isPortUsed (s : Allocation) (a : Address) (port : Nat) : Bool := (s.portsOf a).isUsed port

/-- Whether a device is claimed. -/
def isDeviceUsed (s : Allocation) (device : Nat) : Bool := s.devices.isUsed device

/-- Claim an address. -/
def claimAddress (s : Allocation) (a : Address) : Except InterfaceFault Allocation :=
  if a.isLoopback then .ok s
  else if s.hasAddress a then .error (.duplicateAddress a)
  else .ok { s with addresses := a :: s.addresses }

/-- Claim a certain port of an address. -/
def reservePort (s : Allocation) (a : Address) (port : Nat) : Except InterfaceFault Allocation :=
  if port == 0 || lastReservablePort < port then .error (.portOutOfRange port)
  else
    match (s.portsOf a).reserve? port with
    | some pool => .ok (s.withPorts a pool)
    | none => .error (.portInUse a port)

/-- Claim the least free port of an address. -/
def takePort (s : Allocation) (a : Address) : Except InterfaceFault (Nat × Allocation) :=
  match (s.portsOf a).take? with
  | some (port, pool) => .ok (port, s.withPorts a pool)
  | none => .error (.noPortLeft a)

/-- Claim a certain device. -/
def reserveDevice (s : Allocation) (device : Nat) : Except InterfaceFault Allocation :=
  if lastDevice < device then .error (.deviceOutOfRange device)
  else
    match s.devices.reserve? device with
    | some pool => .ok { s with devices := pool }
    | none => .error (.deviceInUse device)

/-- Claim the least free device. -/
def takeDevice (s : Allocation) : Except InterfaceFault (Nat × Allocation) :=
  match s.devices.take? with
  | some (device, pool) => .ok (device, { s with devices := pool })
  | none => .error .noDeviceLeft

end Allocation

end ReactorNet
