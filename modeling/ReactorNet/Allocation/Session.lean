import ReactorNet.Allocation.Basic

/-!
# `ReactorNet.Allocation.Session` · an allocation that is asked again and again

All that can be asked of an allocation is an `Operation`, and `Allocation.perform` gives the
`Answer` to it and the allocation after it. A session asks one operation after the other;
`transcript` lists what it was told, for any kind of state that operations can be performed on.

A search for a free number that finds none has gone through the rest of the range, and the pool
keeps where it ended. All other refusals leave the allocation as it is.
-/

namespace ReactorNet

/-- What can be asked of an allocation. -/
inductive Operation where
  /-- To claim an address. -/
  | claimAddress (a : Address)
  /-- Whether an address is claimed. -/
  | hasAddress (a : Address)
  /-- To claim a certain port of an address. -/
  | reservePort (a : Address) (port : Nat)
  /-- To claim a free port of an address. -/
  | takePort (a : Address)
  /-- Whether a port of an address is claimed. -/
  | isPortUsed (a : Address) (port : Nat)
  /-- To claim a certain device. -/
  | reserveDevice (device : Nat)
  /-- To claim a free device. -/
  | takeDevice
  /-- Whether a device is claimed. -/
  | isDeviceUsed (device : Nat)
deriving DecidableEq, Repr

/-- What is answered to an operation. -/
inductive Answer where
  /-- The address may be used. -/
  | accepted
  /-- The port or device that was given. -/
  | given (n : Nat)
  /-- Nothing was given. -/
  | refused (fault : InterfaceFault)
  /-- Whether the thing asked for is claimed. -/
  | claimed (yes : Bool)
deriving DecidableEq, Repr

namespace Allocation

/-- Conclude a claim that leaves the given allocation if it is refused. -/
def conclude (refused : Allocation) :
    Except InterfaceFault (Answer × Allocation) → Answer × Allocation
  | .ok r => r
  | .error fault => (.refused fault, refused)

/-- The answer to an operation, and the allocation after it. -/
def perform (s : Allocation) : Operation → Answer × Allocation
  | .claimAddress a => conclude s ((s.claimAddress a).map (.accepted, ·))
  | .hasAddress a => (.claimed (s.hasAddress a), s)
  | .reservePort a n => conclude s ((s.reservePort a n).map (.given n, ·))
  | .takePort a =>
    conclude (s.withPorts a (s.portsOf a).take.2) ((s.takePort a).map fun (n, t) => (.given n, t))
  | .isPortUsed a n => (.claimed (s.isPortUsed a n), s)
  | .reserveDevice d => conclude s ((s.reserveDevice d).map (.given d, ·))
  | .takeDevice =>
    conclude { s with devices := s.devices.take.2 } (s.takeDevice.map fun (d, t) => (.given d, t))
  | .isDeviceUsed d => (.claimed (s.isDeviceUsed d), s)

end Allocation

/-! ## Sessions -/

section Sessions

variable {σ : Type} (perform : σ → Operation → Answer × σ)

/-- The operations of a session, each with its answer. -/
def transcript : σ → List Operation → List (Operation × Answer)
  | _, [] => []
  | s, op :: ops => (op, (perform s op).1) :: transcript (perform s op).2 ops

/-- The state after a session. -/
def stateAfter : σ → List Operation → σ
  | s, [] => s
  | s, op :: ops => stateAfter (perform s op).2 ops

/-- A session that goes on does so from the state after its first part. -/
theorem stateAfter_append (s : σ) (ops more : List Operation) :
    stateAfter perform s (ops ++ more) = stateAfter perform (stateAfter perform s ops) more := by
  induction ops generalizing s with
  | nil => rfl
  | cons op ops ih => rw [List.cons_append, stateAfter, stateAfter, ih]

end Sessions

end ReactorNet
