import ReactorNet.Allocation.Session
import ReactorNet.Channel.Synthesis

/-!
# `ReactorNet.Channel.Session` · channels laid among other claims

A `Site` has the interfaces of several federates and the claims of all of them, and is asked for one
thing after the other: an operation on the claims, or a channel from one federate to another.
`Site.perform` changes the site in place, and gives it back as it is then, whether a channel was
laid or not; `Site.outcomes` lists what a series of tasks leads to.

A channel is laid as `synthesize` says, and refused when an interface is looked up, when protocols
are compared, or when a port is claimed. In the last case the allocation is left as the operation
leaves it that was refused (`Ground.afterRefusal`). Endpoints are minted only after that.
-/

namespace ReactorNet

/-- The operation that claims the port a side listens on: the one asked for, or a free one. -/
def portOperation (asked : Option Nat) (a : Address) : Operation :=
  match asked with
  | some port => .reservePort a port
  | none => .takePort a

/-- The allocation that a channel between two bindings leaves, whether it can be laid or not. -/
def Channel.allocationAfter (link : Link) (source destination : Binding) (s : Allocation) :
    Allocation :=
  match source, destination with
  | .tcp a, .tcp b => (s.perform (portOperation link.serverPort (link.serverSide.choose a b))).2
  | _, _ => s

/-- What a channel is laid on: the interfaces at either end, and the claims. -/
structure Ground where
  /-- The interfaces of the source. -/
  source : Interfaces
  /-- The interfaces of the destination. -/
  destination : Interfaces
  /-- The claims. -/
  allocation : Allocation

/-- The ground after a channel was refused on it: where both interfaces are found, a port may have
been searched for. -/
def Ground.afterRefusal (g : Ground) (link : Link) : Ground :=
  match g.source.resolve link.left, g.destination.resolve link.right with
  | .ok i, .ok j =>
    { g with allocation := Channel.allocationAfter link i.binding j.binding g.allocation }
  | _, _ => g

/-- Lay a channel in place: the channel or the fault, and the ground as it is left. -/
def Ground.lay (g : Ground) (link : Option Link) : Except InterfaceFault LaidChannel × Ground :=
  match synthesize link g.source g.destination g.allocation with
  | .ok r => (.ok r.laid, ⟨r.source, r.destination, r.allocation⟩)
  | .error fault => (.error fault, g.afterRefusal (link.getD {}))

/-! ## Several federates -/

/-- The interfaces of several federates, and the claims of all of them. -/
structure Site where
  /-- The interfaces of each federate. -/
  tables : List Interfaces
  /-- The claims. -/
  allocation : Allocation

/-- What can be asked of a site. -/
inductive Task where
  /-- An operation on the claims. -/
  | operate (op : Operation)
  /-- To lay a channel between the interfaces of two federates. -/
  | lay (link : Option Link) (source destination : Nat)

/-- What a task leads to. -/
inductive Outcome where
  /-- The answer to an operation. -/
  | answered (answer : Answer)
  /-- The channel that was laid. -/
  | laid (channel : LaidChannel)
  /-- No channel was laid. -/
  | refused (fault : InterfaceFault)
  /-- There are no two different federates with these numbers. -/
  | noSuchPair
deriving DecidableEq, Repr

/-- The outcome of laying a channel. -/
def Outcome.ofLaying : Except InterfaceFault LaidChannel → Outcome
  | .ok channel => .laid channel
  | .error fault => .refused fault

namespace Site

/-- The outcome of a task, and the site after it. -/
def perform (site : Site) : Task → Outcome × Site
  | .operate op =>
    (.answered (site.allocation.perform op).1,
      { site with allocation := (site.allocation.perform op).2 })
  | .lay link i j =>
    match site.tables[i]?, site.tables[j]? with
    | some source, some destination =>
      if i = j then (.noSuchPair, site)
      else
        let (outcome, ground) := Ground.lay ⟨source, destination, site.allocation⟩ link
        (.ofLaying outcome,
          ⟨(site.tables.set i ground.source).set j ground.destination, ground.allocation⟩)
    | _, _ => (.noSuchPair, site)

/-- What a series of tasks leads to. -/
def outcomes : Site → List Task → List Outcome
  | _, [] => []
  | site, task :: tasks => (site.perform task).1 :: outcomes (site.perform task).2 tasks

/-- The site after a series of tasks. -/
def after : Site → List Task → Site
  | site, [] => site
  | site, task :: tasks => after (site.perform task).2 tasks

end Site

end ReactorNet
