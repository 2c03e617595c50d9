/-!
# `ReactorNet.ClockSync` · clock synchronization

The parameters by which a federate synchronizes its clock, their defaults, and the number of system
events that the synchronization needs.
-/

namespace ReactorNet

/-- The clock synchronization of a federate. -/
structure ClockSync where
  /-- The federate keeps its own time. -/
  disabled : Bool := false
  /-- The federate's clock is the one that all others follow. -/
  grandmaster : Bool := false
  /-- Nanoseconds between two synchronizations. -/
  periodNs : Int := 1000000000
  /-- The greatest adjustment, in parts per billion. -/
  maxAdjust : Int := 200000000
  /-- The proportional gain of the controller. -/
  kp : Float := 0.7
  /-- The integral gain of the controller. -/
  ki : Float := 0.3

/-- Whether the clock is synchronized. -/
def ClockSync.enabled (c : ClockSync) : Bool := !c.disabled

/-- The system events of a federate: three for each bundle it takes part in, and two more. -/
def ClockSync.systemEvents (bundles : Nat) : Nat := 3 * bundles + 2

/-- When a federate joins a running federation. -/
inductive JoiningPolicy where
  /-- At once. -/
  | immediately
  /-- At the next release of its timers. -/
  | timerAligned
deriving DecidableEq, Repr

/-- The name in descriptions. -/
def JoiningPolicy.name : JoiningPolicy → String
  | immediately => "immediately"
  | timerAligned => "timer_aligned"

end ReactorNet
