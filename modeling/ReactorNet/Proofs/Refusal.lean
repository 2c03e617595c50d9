import ReactorNet.Channel.Session
import ReactorNet.Proofs.Interfaces
import ReactorNet.Proofs.Ledger

/-!
# `ReactorNet.Proofs.Refusal` · a channel that is refused leaves no trace

Two allocations are alike if the same resources are claimed in both, wherever their searches stand.
Nothing that is asked of them tells them apart (`Site.Alike.outcomes_eq`), and a channel that is
refused leaves the allocation alike (`lay_of_error`) and every interface as it is. So
`refused_channel_leaves_no_trace` can say that all later answers are those that would have been
given without it.

**Why not equality.** A search for a free port that finds none has moved on through its range, so
the allocation that it leaves is another one. That this cannot be noticed rests on ledgers:
allocations that are alike match the same ledger, and a ledger does not change where it refuses.
-/

namespace ReactorNet

variable {s t : Allocation} {l : Ledger} {op : Operation} {fault : InterfaceFault} {a : Address}
  {asked : Option Nat} {link : Link} {x y : Binding}

/-! ## Allocations with the same claims -/

/-- The answer to a claim of a port. -/
def Answer.ofPort : Except InterfaceFault Nat → Answer
  | .ok port => .given port
  | .error fault => .refused fault

/-- The answer tells what the claim has led to. -/
theorem Answer.ofPort_inj {claim claim' : Except InterfaceFault Nat} :
    ofPort claim = ofPort claim' ↔ claim = claim' := by
  cases claim <;> cases claim' <;> simp [ofPort]

namespace Allocation

/-- The same resources are claimed in two allocations. -/
def Alike (s t : Allocation) : Prop := ∀ r, s.holds r = t.holds r

/-- Allocations that match one ledger are alike. -/
theorem Alike.of_matches (hs : s.Matches l) (ht : t.Matches l) : s.Alike t := by
  intro r
  rw [Bool.eq_iff_iff, hs r, ht r]

/-- An allocation matches the ledgers of those that are like it. -/
theorem Alike.matches (h : s.Alike t) (ht : t.Matches l) : s.Matches l := by
  intro r
  rw [h r, ht r]

/-- The claims of an allocation can be written down as plain sets. -/
theorem exists_matches (s : Allocation) : ∃ l : Ledger, s.Matches l := by
  -- a number that is used is a bit of the set, so it is less than the set read as a number
  have bounded : ∀ (used : NumberSet) (n : Nat),
      n ∈ (Finset.range used.bits).filter (fun k => used.contains k = true) ↔
        used.contains n = true := by
    intro used n
    rw [Finset.mem_filter, Finset.mem_range]
    refine and_iff_right_of_imp fun claimed => ?_
    exact Nat.lt_of_lt_of_le Nat.lt_two_pow_self (Nat.ge_two_pow_of_testBit claimed)
  let numbers := fun used : NumberSet =>
    (Finset.range used.bits).filter fun k => used.contains k = true
  refine ⟨⟨s.addresses.toFinset, fun a => numbers (s.portsOf a).used, numbers s.devices.used⟩, ?_⟩
  rintro (a | ⟨a, n⟩ | d)
  · simp [holds, hasAddress, Ledger.Has]
  · exact (bounded (s.portsOf a).used n).symm
  · exact (bounded s.devices.used d).symm

/-- Allocations that are alike give the same answer to an operation, and are alike after it. -/
theorem Alike.perform (h : s.Alike t) (op : Operation) :
    (s.perform op).1 = (t.perform op).1 ∧ (s.perform op).2.Alike (t.perform op).2 := by
  obtain ⟨l, ht⟩ := t.exists_matches
  obtain ⟨answer, state⟩ := perform_follows (h.matches ht) op
  obtain ⟨answer', state'⟩ := perform_follows ht op
  exact ⟨answer.trans answer'.symm, Alike.of_matches state state'⟩

/-- An operation that is refused leaves the allocation alike. -/
theorem alike_perform_of_refused (refused : (s.perform op).1 = .refused fault) :
    (s.perform op).2.Alike s := by
  obtain ⟨l, hs⟩ := s.exists_matches
  obtain ⟨answer, state⟩ := perform_follows hs op
  rw [Ledger.perform_of_refused (answer.symm.trans refused)] at state
  exact Alike.of_matches state hs

/-! ## Claiming the port that a side listens on -/

/-- The operation is answered by what the claim leads to. -/
theorem answer_portOperation (asked : Option Nat) (a : Address) (s : Allocation) :
    (s.perform (portOperation asked a)).1 = Answer.ofPort ((claimServerPort asked a s).map (·.1)) := by
  cases asked with
  | some port =>
      simp only [portOperation, perform, claimServerPort]
      cases s.reservePort a port <;> rfl
  | none =>
      simp only [portOperation, perform, claimServerPort]
      cases s.takePort a <;> rfl

/-- Where the port is given, the operation leaves what the claim leaves. -/
theorem perform_portOperation_of_ok {port : Nat} (h : claimServerPort asked a s = .ok (port, t)) :
    (s.perform (portOperation asked a)).2 = t := by
  cases asked with
  | some asked =>
      obtain ⟨u, reserved, same⟩ := map_eq_ok_iff.mp h
      cases same
      simp only [portOperation, perform, reserved]
      rfl
  | none =>
      have taken : s.takePort a = .ok (port, t) := h
      simp only [portOperation, perform, taken]
      rfl

end Allocation

/-! ## Laying a channel -/

namespace Channel

/-- Allocations that are alike let the same channels be laid. -/
theorem map_lay_congr (h : s.Alike t) (link : Link) (x y : Binding) :
    (lay link x y s).map (·.1) = (lay link x y t).map (·.1) := by
  unfold lay
  split
  · rename_i a b
    have same := (h.perform (portOperation link.serverPort (link.serverSide.choose a b))).1
    rw [Allocation.answer_portOperation, Allocation.answer_portOperation, Answer.ofPort_inj] at same
    have channels := congrArg (Except.map (tcp a b link.serverSide)) same
    revert channels
    cases claimServerPort link.serverPort (link.serverSide.choose a b) s <;>
      cases claimServerPort link.serverPort (link.serverSide.choose a b) t <;> exact id
  all_goals rfl

/-- Allocations that are alike are left alike. -/
theorem alike_allocationAfter (h : s.Alike t) (link : Link) (x y : Binding) :
    (allocationAfter link x y s).Alike (allocationAfter link x y t) := by
  unfold allocationAfter
  split
  · exact (h.perform _).2
  · exact h

/-- A channel that is laid leaves the allocation in which its port is claimed. -/
theorem allocationAfter_of_ok {c : Channel} (h : lay link x y s = .ok (c, t)) :
    allocationAfter link x y s = t := by
  unfold lay at h
  unfold allocationAfter
  split at h
  · obtain ⟨⟨port, u⟩, claimed, same⟩ := map_eq_ok_iff.mp h
    cases same
    exact Allocation.perform_portOperation_of_ok claimed
  all_goals cases h
  all_goals rfl

/-- A channel that is refused leaves the allocation alike. -/
theorem alike_allocationAfter_of_error (h : lay link x y s = .error fault) :
    (allocationAfter link x y s).Alike s := by
  unfold allocationAfter
  split
  · rename_i a b
    have claimed : claimServerPort link.serverPort (link.serverSide.choose a b) s = .error fault :=
      map_eq_error_iff.mp h
    have refused := Allocation.answer_portOperation link.serverPort (link.serverSide.choose a b) s
    rw [claimed] at refused
    exact Allocation.alike_perform_of_refused refused
  · exact fun r => rfl

end Channel

/-- Between two interfaces, laying a channel and minting its endpoints goes by the channel. -/
theorem synthesize_of_resolve {asked : Option Link} {source destination : Interfaces} {i j : Interface}
    (hi : source.resolve (asked.getD {}).left = .ok i)
    (hj : destination.resolve (asked.getD {}).right = .ok j) (s : Allocation) :
    synthesize asked source destination s =
      (Channel.lay (asked.getD {}) i.binding j.binding s).map fun r =>
        { laid := ⟨r.1, (asked.getD {}).encryption, i.name, j.name⟩
          source := source.mint i.name (r.1.endpoint .left)
          destination := destination.mint j.name (r.1.endpoint .right)
          allocation := r.2 } := by
  simp only [synthesize, hi, hj, bind, Except.bind]
  cases Channel.lay (asked.getD {}) i.binding j.binding s with
  | error fault => rfl
  | ok r => rfl

/-- Allocations that are alike let the same channels be laid between the same interfaces, and are
left alike by them. -/
theorem synthesize_congr (h : s.Alike t) (asked : Option Link) (source destination : Interfaces) :
    (∃ fault, synthesize asked source destination s = .error fault ∧
      synthesize asked source destination t = .error fault) ∨
    ∃ laid source' destination' s' t', Allocation.Alike s' t' ∧
      synthesize asked source destination s = .ok ⟨laid, source', destination', s'⟩ ∧
      synthesize asked source destination t = .ok ⟨laid, source', destination', t'⟩ := by
  cases hi : source.resolve (asked.getD {}).left with
  | error fault =>
      exact .inl ⟨fault, bind_eq_error_iff.mpr (.inl hi), bind_eq_error_iff.mpr (.inl hi)⟩
  | ok i =>
      cases hj : destination.resolve (asked.getD {}).right with
      | error fault =>
          have refused : ∀ u, synthesize asked source destination u = .error fault := fun u =>
            bind_eq_error_iff.mpr (.inr ⟨i, hi, bind_eq_error_iff.mpr (.inl hj)⟩)
          exact .inl ⟨fault, refused s, refused t⟩
      | ok j =>
          rw [synthesize_of_resolve hi hj, synthesize_of_resolve hi hj]
          have left := Channel.alike_allocationAfter h (asked.getD {}) i.binding j.binding
          have same := Channel.map_lay_congr h (asked.getD {}) i.binding j.binding
          cases laid : Channel.lay (asked.getD {}) i.binding j.binding s with
          | error fault =>
              rw [laid] at same
              rw [map_eq_error_iff.mp same.symm]
              exact .inl ⟨fault, rfl, rfl⟩
          | ok r =>
              obtain ⟨channel, s'⟩ := r
              rw [laid] at same
              obtain ⟨⟨channel', t'⟩, laid', rfl⟩ := map_eq_ok_iff.mp same.symm
              rw [Channel.allocationAfter_of_ok laid, Channel.allocationAfter_of_ok laid'] at left
              rw [laid']
              exact .inr ⟨_, _, _, s', t', left, rfl, rfl⟩

namespace Ground

variable {g : Ground} {asked : Option Link}

/-- A channel that cannot be laid leaves every interface as it is, and the allocation alike. -/
theorem lay_of_error (h : synthesize asked g.source g.destination g.allocation = .error fault) :
    ∃ t, t.Alike g.allocation ∧ g.lay asked = (.error fault, { g with allocation := t }) := by
  unfold lay
  rw [h]
  dsimp only
  unfold afterRefusal
  split
  · rename_i i j hi hj
    -- both interfaces are found, so it is between them that the channel cannot be laid
    rw [synthesize_of_resolve hi hj] at h
    exact ⟨_, Channel.alike_allocationAfter_of_error (map_eq_error_iff.mp h), rfl⟩
  · exact ⟨g.allocation, fun r => rfl, rfl⟩

/-- Between the same interfaces, allocations that are alike let the same channels be laid, and what
they leave differs in the allocation only, which is alike. -/
theorem lay_congr (h : s.Alike t) (source destination : Interfaces) (asked : Option Link) :
    ∃ outcome source' destination' s' t', s'.Alike t' ∧
      lay ⟨source, destination, s⟩ asked = (outcome, ⟨source', destination', s'⟩) ∧
      lay ⟨source, destination, t⟩ asked = (outcome, ⟨source', destination', t'⟩) := by
  rcases synthesize_congr h asked source destination with
    ⟨fault, hs, ht⟩ | ⟨laid, source', destination', s', t', left, hs, ht⟩
  · obtain ⟨s', alike, laid⟩ := lay_of_error (g := ⟨source, destination, s⟩) hs
    obtain ⟨t', alike', laid'⟩ := lay_of_error (g := ⟨source, destination, t⟩) ht
    exact ⟨_, _, _, s', t', fun x => (alike x).trans ((h x).trans (alike' x).symm), laid, laid'⟩
  · refine ⟨.ok laid, source', destination', s', t', left, ?_, ?_⟩
    · rw [lay, hs]
    · rw [lay, ht]

end Ground

/-! ## Sites -/

namespace Site

variable {site site' : Site}

/-- Two sites have the same interfaces and the same claims. -/
structure Alike (site site' : Site) : Prop where
  /-- The interfaces of every federate are the same, with their endpoints. -/
  tables : site.tables = site'.tables
  /-- The same resources are claimed. -/
  allocation : site.allocation.Alike site'.allocation

/-- **One task.** Sites that are alike give the same outcome to a task, and are alike after it. -/
theorem Alike.perform (h : site.Alike site') (task : Task) :
    (site.perform task).1 = (site'.perform task).1 ∧
      (site.perform task).2.Alike (site'.perform task).2 := by
  obtain ⟨tables, s⟩ := site
  obtain ⟨tables', t⟩ := site'
  obtain ⟨same, alike⟩ := h
  cases same
  cases task with
  | operate op =>
      obtain ⟨answer, state⟩ := alike.perform op
      exact ⟨congrArg Outcome.answered answer, rfl, state⟩
  | lay link i j =>
      unfold Site.perform
      dsimp only
      cases tables[i]? with
      | none => exact ⟨rfl, rfl, alike⟩
      | some source =>
          cases tables[j]? with
          | none => exact ⟨rfl, rfl, alike⟩
          | some destination =>
              dsimp only
              split
              · exact ⟨rfl, rfl, alike⟩
              · obtain ⟨outcome, source', destination', s', t', state, hs, ht⟩ :=
                  Ground.lay_congr alike source destination link
                rw [hs, ht]
                exact ⟨rfl, rfl, state⟩

/-- **Many tasks.** Sites that are alike give the same outcomes to a series of tasks, and are alike
after it. -/
theorem Alike.outcomes_eq (h : site.Alike site') (tasks : List Task) :
    site.outcomes tasks = site'.outcomes tasks ∧ (site.after tasks).Alike (site'.after tasks) := by
  induction tasks generalizing site site' with
  | nil => exact ⟨rfl, h⟩
  | cons task tasks ih =>
      obtain ⟨outcome, state⟩ := h.perform task
      obtain ⟨outcomes, final⟩ := ih state
      refine ⟨?_, final⟩
      rw [Site.outcomes, Site.outcomes, outcome, outcomes]

end Site

/-- **A channel that is refused leaves no trace.** Where no channel can be laid between the
interfaces of two federates, the attempt is answered by the fault. It leaves all interfaces as they
are, with their endpoints, and whatever is asked later, operations and channels in any order, has
the outcomes that it would have had without the attempt, and leaves the same interfaces. -/
theorem refused_channel_leaves_no_trace (site : Site) (link : Option Link) (i j : Nat)
    (source destination : Interfaces) (different : i ≠ j) (hi : site.tables[i]? = some source)
    (hj : site.tables[j]? = some destination) (fault : InterfaceFault)
    (refused : synthesize link source destination site.allocation = .error fault) :
    ∃ left, site.perform (.lay link i j) = (.refused fault, left) ∧ left.tables = site.tables ∧
      ∀ later, left.outcomes later = site.outcomes later ∧
        (left.after later).tables = (site.after later).tables := by
  obtain ⟨t, alike, laid⟩ :=
    Ground.lay_of_error (g := ⟨source, destination, site.allocation⟩) refused
  -- putting back the interfaces that were there changes nothing
  have tables : (site.tables.set i source).set j destination = site.tables := by
    obtain ⟨_, atI⟩ := List.getElem?_eq_some_iff.mp hi
    obtain ⟨_, atJ⟩ := List.getElem?_eq_some_iff.mp hj
    rw [← atI, List.set_getElem_self, ← atJ, List.set_getElem_self]
  refine ⟨⟨site.tables, t⟩, ?_, rfl, fun later => ?_⟩
  · simp only [Site.perform, hi, hj, if_neg different, laid, tables]
    rfl
  · have same : Site.Alike ⟨site.tables, t⟩ site := ⟨rfl, alike⟩
    obtain ⟨outcomes, final⟩ := same.outcomes_eq later
    exact ⟨outcomes, final.tables⟩

/-- So many numbers from the given one on. -/
def NumberSet.interval (first count : Nat) : NumberSet := ⟨(2 ^ count - 1) <<< first⟩

/-- An interval holds the numbers between its ends. -/
theorem contains_interval {first count n : Nat} (low : first ≤ n) (high : n < first + count) :
    (NumberSet.interval first count).contains n = true := by
  rw [NumberSet.contains, NumberSet.interval, Nat.testBit_shiftLeft, Nat.testBit_two_pow_sub_one]
  simp only [ge_iff_le, low, decide_true, Bool.true_and, decide_eq_true_eq]
  omega

/-- The ports of an address of which every one was given to a search. -/
def exhaustedPorts : PortPool where
  next := 1024 + 64512
  used := .interval 1024 64512
  first_le_next := Nat.le_add_right _ _
  passed := fun _ => contains_interval

/-- Two federates with an interface on loopback each, where no port is left, and a serial line. -/
def crowdedSite (s : Allocation) : Site where
  tables := [{ first := .loopback, others := [⟨"line", .uart ⟨0, {}⟩, []⟩] },
    { first := .loopback, others := [⟨"line", .uart ⟨1, {}⟩, []⟩] }]
  allocation := s.withPorts .loopback exhaustedPorts

/-- A channel that finds no port there is refused, and nobody notices afterwards. -/
theorem crowdedSite_refused : ∃ left,
    (crowdedSite {}).perform (.lay none 0 1) = (.refused (.noPortLeft .loopback), left) ∧
      left.tables = (crowdedSite {}).tables ∧
      left.outcomes [.lay (some { left := some "line", right := some "line" }) 1 0,
          .operate (.reservePort .loopback 80), .operate (.takePort .loopback)] =
        [.laid ⟨.uart ⟨1, {}⟩ ⟨0, {}⟩, .passThrough, "line", "line"⟩, .answered (.given 80),
          .answered (.refused (.noPortLeft .loopback))] := by
  have refused : synthesize none (crowdedSite {}).tables[0] (crowdedSite {}).tables[1]
      (crowdedSite {}).allocation = .error (.noPortLeft .loopback) :=
    map_eq_error_iff.mp (by decide +kernel : (synthesize none (crowdedSite {}).tables[0]
      (crowdedSite {}).tables[1] (crowdedSite {}).allocation).map (·.laid) =
        .error (.noPortLeft .loopback))
  obtain ⟨left, attempt, tables, later⟩ := refused_channel_leaves_no_trace (crowdedSite {}) none 0 1
    _ _ (by decide) rfl rfl _ refused
  refine ⟨left, attempt, tables, ?_⟩
  rw [(later _).1]
  decide +kernel

end ReactorNet
