import Mathlib.Data.Finset.Max
import Mathlib.Order.Interval.Finset.Nat
import ReactorNet.Allocation.Session
import ReactorNet.Proofs.Allocation

/-!
# `ReactorNet.Proofs.Ledger` · an allocation answers like plain sets

A `Ledger` records what was claimed as plain sets and reads its answers off them: the ports of an
address and the devices are sets of numbers, and the least number outside of the set is given where
none is asked for. `allocation_answers_as_ledger` says that nobody can tell an allocation from a
ledger, whatever is asked and in whatever order.

**Why it is not evident.** A search for a free number goes on where the last one stopped, also where
that one failed, and never looks back; so all rests on the proof that a pool carries, that nothing
is free behind the search.

**Consequences.** A ledger does not change where it refuses, and what it answers about one address,
or about devices, depends on nothing else. Both carry over to allocations.
-/

namespace ReactorNet

/-! ## Plain sets -/

/-- What was claimed, as plain sets. -/
structure Ledger where
  /-- The addresses. -/
  addresses : Finset Address := ∅
  /-- The ports of each address. -/
  ports : Address → Finset Nat := fun _ => ∅
  /-- The devices. -/
  devices : Finset Nat := ∅

/-- The least number of a range that is not in a set; none if there is none. -/
def leastFree? (first last : Nat) (used : Finset Nat) : Option Nat :=
  let free := Finset.Icc first last \ used
  if h : free.Nonempty then some (free.min' h) else none

/-- What an operation takes when it gets an answer: loopback addresses are not taken by anybody. -/
def Operation.taken? : Operation → Answer → Option Resource
  | claimAddress a, .accepted => a.resource?
  | reservePort a _, .given n => some (.port a n)
  | takePort a, .given n => some (.port a n)
  | reserveDevice _, .given d => some (.device d)
  | takeDevice, .given d => some (.device d)
  | _, _ => none

namespace Ledger

/-- Whether a resource is recorded. -/
def Has (l : Ledger) : Resource → Prop
  | .address a => a ∈ l.addresses
  | .port a n => n ∈ l.ports a
  | .device d => d ∈ l.devices

/-- Record a resource. -/
def record (l : Ledger) : Resource → Ledger
  | .address a => { l with addresses := insert a l.addresses }
  | .port a n => { l with ports := Function.update l.ports a (insert n (l.ports a)) }
  | .device d => { l with devices := insert d l.devices }

/-- The answer to an operation. -/
def answer (l : Ledger) : Operation → Answer
  | .claimAddress a =>
    if a.isLoopback = false ∧ a ∈ l.addresses then .refused (.duplicateAddress a) else .accepted
  | .hasAddress a => .claimed (a ∈ l.addresses)
  | .reservePort a n =>
    if n = 0 ∨ 65535 ≤ n then .refused (.portOutOfRange n)
    else if n ∈ l.ports a then .refused (.portInUse a n)
    else .given n
  | .takePort a =>
    match leastFree? 1024 65535 (l.ports a) with
    | some n => .given n
    | none => .refused (.noPortLeft a)
  | .isPortUsed a n => .claimed (n ∈ l.ports a)
  | .reserveDevice d =>
    if 255 < d then .refused (.deviceOutOfRange d)
    else if d ∈ l.devices then .refused (.deviceInUse d)
    else .given d
  | .takeDevice =>
    match leastFree? 0 255 l.devices with
    | some d => .given d
    | none => .refused .noDeviceLeft
  | .isDeviceUsed d => .claimed (d ∈ l.devices)

/-- The answer to an operation, and the ledger in which what it took is recorded. -/
def perform (l : Ledger) (op : Operation) : Answer × Ledger :=
  (l.answer op, (op.taken? (l.answer op)).elim l l.record)

end Ledger

variable {s t u : Allocation} {l l' : Ledger} {a : Address} {n d first last : Nat} {op : Operation}
  {r q : Resource} {used : Finset Nat} {k : Option Address} {fault : InterfaceFault}

/-- The number that is found is the least one of the range outside of the set. -/
theorem leastFree?_eq_some_iff :
    leastFree? first last used = some n ↔ IsLeast {k | first ≤ k ∧ k ≤ last ∧ k ∉ used} n := by
  have free : (↑(Finset.Icc first last \ used) : Set Nat) =
      {k | first ≤ k ∧ k ≤ last ∧ k ∉ used} := by
    ext k
    simp [and_assoc]
  rw [← free, leastFree?]
  split
  · rename_i h
    rw [Option.some.injEq]
    constructor
    · rintro rfl
      exact Finset.isLeast_min' _ h
    · exact (Finset.isLeast_min' _ h).unique
  · rename_i h
    simp only [reduceCtorEq, false_iff]
    intro least
    exact h ⟨n, least.1⟩

/-- No number is found where the set covers the range. -/
theorem leastFree?_eq_none_iff :
    leastFree? first last used = none ↔ ∀ k, first ≤ k → k ≤ last → k ∈ used := by
  rw [leastFree?]
  simp only [dite_eq_right_iff, reduceCtorEq, imp_false, Finset.not_nonempty_iff_eq_empty,
    Finset.sdiff_eq_empty_iff_subset]
  constructor
  · intro h k hk hl
    exact h (Finset.mem_Icc.mpr ⟨hk, hl⟩)
  · intro h k hk
    obtain ⟨hk, hl⟩ := Finset.mem_Icc.mp hk
    exact h k hk hl

/-- Recording a resource records it and no other. -/
theorem Ledger.has_record : (l.record r).Has q ↔ q = r ∨ l.Has q := by
  cases r with
  | address a => cases q <;> simp [record, Has]
  | port a n =>
      cases q with
      | address b => simp [record, Has]
      | port b m =>
          by_cases hb : b = a
          · subst hb
            simp [record, Has]
          · simp [record, Has, hb]
      | device d => simp [record, Has]
  | device d => cases q <;> simp [record, Has]

/-- A ledger that refuses records nothing. -/
theorem Ledger.perform_of_refused (h : l.answer op = .refused fault) : (l.perform op).2 = l := by
  rw [perform, h]
  cases op <;> rfl

/-! ## Pools -/

/-- A pool gives the number that is least outside of the set of what is claimed. -/
theorem Pool.map_take? {p : Pool first last} (h : ∀ k, p.isUsed k = true ↔ k ∈ used) :
    p.take?.map (·.1) = leastFree? first last used := by
  cases taken : p.take? with
  | none =>
      refine (leastFree?_eq_none_iff.mpr fun k hk hl => ?_).symm
      exact (h k).mp (Pool.take?_eq_none_iff.mp taken k hk hl)
  | some x =>
      obtain ⟨n, q⟩ := x
      have least := (Pool.take?_eq_some taken).1
      simp only [← Bool.not_eq_true, h] at least
      exact (leastFree?_eq_some_iff.mpr least).symm

/-! ## The claims of an allocation, case by case -/

namespace Allocation

/-- An address is refused only if it is claimed and not shared. -/
theorem claimAddress_cases (s : Allocation) (a : Address) :
    (a.isLoopback = false ∧ s.hasAddress a = true ∧
      s.claimAddress a = .error (.duplicateAddress a)) ∨
    (¬ (a.isLoopback = false ∧ s.hasAddress a = true) ∧ ∃ t, s.claimAddress a = .ok t) := by
  unfold claimAddress
  by_cases loopback : a.isLoopback = true
  · exact Or.inr ⟨by simp [loopback], s, if_pos loopback⟩
  · rw [if_neg loopback]
    by_cases claimed : s.hasAddress a = true
    · exact Or.inl ⟨Bool.eq_false_iff.mpr loopback, claimed, if_pos claimed⟩
    · exact Or.inr ⟨fun h => claimed h.2, _, if_neg claimed⟩

/-- A port is refused only if it is out of range or claimed. -/
theorem reservePort_cases (s : Allocation) (a : Address) (n : Nat) :
    ((n = 0 ∨ 65535 ≤ n) ∧ s.reservePort a n = .error (.portOutOfRange n)) ∨
    (¬ (n = 0 ∨ 65535 ≤ n) ∧ s.isPortUsed a n = true ∧
      s.reservePort a n = .error (.portInUse a n)) ∨
    (¬ (n = 0 ∨ 65535 ≤ n) ∧ ¬ s.isPortUsed a n = true ∧ ∃ t, s.reservePort a n = .ok t) := by
  have range_iff : (n == 0 || decide (lastReservablePort < n)) = true ↔ n = 0 ∨ 65535 ≤ n := by
    rw [Bool.or_eq_true, beq_iff_eq, decide_eq_true_iff]
    exact Iff.rfl
  unfold reservePort isPortUsed
  by_cases range : n = 0 ∨ 65535 ≤ n
  · exact Or.inl ⟨range, if_pos (range_iff.mpr range)⟩
  · rw [if_neg (mt range_iff.mp range)]
    cases reserved : (s.portsOf a).reserve? n with
    | none => exact Or.inr (Or.inl ⟨range, Pool.reserve?_eq_none_iff.mp reserved, rfl⟩)
    | some pool =>
        refine Or.inr (Or.inr ⟨range, ?_, _, rfl⟩)
        rw [← Pool.reserve?_eq_none_iff, reserved]
        exact Option.some_ne_none pool

/-- A device is refused only if it is out of range or claimed. -/
theorem reserveDevice_cases (s : Allocation) (d : Nat) :
    (255 < d ∧ s.reserveDevice d = .error (.deviceOutOfRange d)) ∨
    (¬ 255 < d ∧ s.isDeviceUsed d = true ∧ s.reserveDevice d = .error (.deviceInUse d)) ∨
    (¬ 255 < d ∧ ¬ s.isDeviceUsed d = true ∧ ∃ t, s.reserveDevice d = .ok t) := by
  unfold reserveDevice isDeviceUsed
  by_cases range : lastDevice < d
  · exact Or.inl ⟨range, if_pos range⟩
  · rw [if_neg range]
    cases reserved : s.devices.reserve? d with
    | none => exact Or.inr (Or.inl ⟨range, Pool.reserve?_eq_none_iff.mp reserved, rfl⟩)
    | some pool =>
        refine Or.inr (Or.inr ⟨range, ?_, _, rfl⟩)
        rw [← Pool.reserve?_eq_none_iff, reserved]
        exact Option.some_ne_none pool

/-- A free port is refused only if every one is claimed, and no claim changes then. -/
theorem takePort_cases (s : Allocation) (a : Address) (h : ∀ n, s.isPortUsed a n = true ↔ n ∈ used) :
    (leastFree? 1024 65535 used = none ∧ s.takePort a = .error (.noPortLeft a) ∧
      ∀ n, (s.portsOf a).take.2.isUsed n = (s.portsOf a).isUsed n) ∨
    (∃ n t, leastFree? 1024 65535 used = some n ∧ s.takePort a = .ok (n, t)) := by
  have found : (s.portsOf a).take?.map (·.1) = leastFree? 1024 65535 used := Pool.map_take? h
  rw [← found, takePort]
  cases taken : (s.portsOf a).take? with
  | none => exact Or.inl ⟨rfl, rfl, Pool.isUsed_take_of_eq_none taken⟩
  | some x => exact Or.inr ⟨x.1, _, rfl, rfl⟩

/-- A free device is refused only if every one is claimed, and no claim changes then. -/
theorem takeDevice_cases (s : Allocation) (h : ∀ d, s.isDeviceUsed d = true ↔ d ∈ used) :
    (leastFree? 0 255 used = none ∧ s.takeDevice = .error .noDeviceLeft ∧
      ∀ d, s.devices.take.2.isUsed d = s.devices.isUsed d) ∨
    (∃ d t, leastFree? 0 255 used = some d ∧ s.takeDevice = .ok (d, t)) := by
  have found : s.devices.take?.map (·.1) = leastFree? 0 255 used := Pool.map_take? h
  rw [← found, takeDevice]
  cases taken : s.devices.take? with
  | none => exact Or.inl ⟨rfl, rfl, Pool.isUsed_take_of_eq_none taken⟩
  | some x => exact Or.inr ⟨x.1, _, rfl, rfl⟩

/-- A pool in the place of one with the same numbers claimed changes nothing that is claimed. -/
theorem holds_withPorts {pool : PortPool} (same : ∀ n, pool.isUsed n = (s.portsOf a).isUsed n)
    (r : Resource) : (s.withPorts a pool).holds r = s.holds r := by
  cases r with
  | address b => rfl
  | port b n =>
      simp only [holds, isPortUsed, portsOf_withPorts]
      by_cases hb : b = a
      · rw [if_pos hb, hb, same]
      · rw [if_neg hb]
  | device d => rfl

/-- The same for devices. -/
theorem holds_withDevices {pool : DevicePool} (same : ∀ d, pool.isUsed d = s.devices.isUsed d)
    (r : Resource) : ({ s with devices := pool } : Allocation).holds r = s.holds r := by
  cases r with
  | address b => rfl
  | port b n => rfl
  | device d => exact same d

/-! ## One operation -/

/-- What is claimed in an allocation is what a ledger has recorded. -/
def Matches (s : Allocation) (l : Ledger) : Prop := ∀ r, s.holds r = true ↔ l.Has r

/-- Nothing is claimed at the start. -/
theorem matches_fresh : ({} : Allocation).Matches {} := by
  rintro (a | ⟨a, n⟩ | d)
  · simp [holds, hasAddress, Ledger.Has]
  · simp [holds, isPortUsed, portsOf, Ledger.Has, Pool.isUsed_fresh]
  · simp [holds, isDeviceUsed, Ledger.Has, Pool.isUsed_fresh]

/-- The answer of an operation is that of a ledger, and so is what is claimed after it. -/
def Follows (x : Answer × Allocation) (y : Answer × Ledger) : Prop :=
  x.1 = y.1 ∧ x.2.Matches y.2

/-- A claim that a ledger grants as well is followed, if it takes what is recorded. -/
theorem follows_of_ok (answer : Answer) {outcome : Except InterfaceFault (Answer × Allocation)}
    (h : s.Matches l) (ok : outcome = .ok (answer, t)) (granted : l.answer op = answer)
    (grants : s.Grants (op.taken? answer).toList t) :
    Follows (conclude u outcome) (l.perform op) := by
  subst ok
  refine ⟨granted.symm, fun q => ?_⟩
  rw [Ledger.perform, granted, conclude, grants.holds_iff]
  cases op.taken? answer with
  | none => simpa using h q
  | some r => simpa [Ledger.has_record] using or_congr_right (h q)

/-- A claim that a ledger refuses as well is followed, if what it leaves claims the same as
before. -/
theorem follows_of_error {outcome : Except InterfaceFault (Answer × Allocation)} (h : s.Matches l)
    (refused : outcome = .error fault) (granted : l.answer op = .refused fault)
    (same : ∀ r, u.holds r = s.holds r) : Follows (conclude u outcome) (l.perform op) := by
  subst refused
  refine ⟨granted.symm, fun r => ?_⟩
  rw [Ledger.perform_of_refused granted, conclude, same]
  exact h r

/-- **One operation.** An allocation and a ledger that match give the same answer to an operation,
and match after it. -/
theorem perform_follows (h : s.Matches l) (op : Operation) :
    Follows (s.perform op) (l.perform op) := by
  have addresses : ∀ a, s.hasAddress a = true ↔ a ∈ l.addresses := fun a => h (.address a)
  have ports : ∀ a n, s.isPortUsed a n = true ↔ n ∈ l.ports a := fun a n => h (.port a n)
  have devices : ∀ d, s.isDeviceUsed d = true ↔ d ∈ l.devices := fun d => h (.device d)
  cases op with
  | claimAddress a =>
      rcases s.claimAddress_cases a with ⟨own, claimed, refused⟩ | ⟨free, t, ok⟩
      · refine follows_of_error h (by rw [refused]; rfl) ?_ fun _ => rfl
        exact if_pos ⟨own, (addresses a).mp claimed⟩
      · rw [addresses] at free
        exact follows_of_ok .accepted h (by rw [ok]; rfl) (if_neg free) (grants_of_claimAddress ok)
  | hasAddress a =>
      refine ⟨?_, h⟩
      simp [perform, Ledger.perform, Ledger.answer, ← addresses]
  | reservePort a n =>
      rcases s.reservePort_cases a n with ⟨range, refused⟩ | ⟨range, used, refused⟩ |
        ⟨range, free, t, ok⟩
      · exact follows_of_error h (by rw [refused]; rfl) (if_pos range) fun _ => rfl
      · rw [ports] at used
        refine follows_of_error h (by rw [refused]; rfl) ?_ fun _ => rfl
        rw [Ledger.answer, if_neg range, if_pos used]
      · rw [ports] at free
        refine follows_of_ok (.given n) h (by rw [ok]; rfl) ?_ (grants_of_reservePort ok)
        rw [Ledger.answer, if_neg range, if_neg free]
  | takePort a =>
      rcases s.takePort_cases a (ports a) with ⟨full, refused, same⟩ | ⟨n, t, least, ok⟩
      · refine follows_of_error h (by rw [refused]; rfl) ?_ (holds_withPorts same)
        rw [Ledger.answer, full]
      · refine follows_of_ok (.given n) h (by rw [ok]; rfl) ?_ (grants_of_takePort ok)
        rw [Ledger.answer, least]
  | isPortUsed a n =>
      refine ⟨?_, h⟩
      simp [perform, Ledger.perform, Ledger.answer, ← ports]
  | reserveDevice d =>
      rcases s.reserveDevice_cases d with ⟨range, refused⟩ | ⟨range, used, refused⟩ |
        ⟨range, free, t, ok⟩
      · exact follows_of_error h (by rw [refused]; rfl) (if_pos range) fun _ => rfl
      · rw [devices] at used
        refine follows_of_error h (by rw [refused]; rfl) ?_ fun _ => rfl
        rw [Ledger.answer, if_neg range, if_pos used]
      · rw [devices] at free
        refine follows_of_ok (.given d) h (by rw [ok]; rfl) ?_ (grants_of_reserveDevice ok)
        rw [Ledger.answer, if_neg range, if_neg free]
  | takeDevice =>
      rcases s.takeDevice_cases devices with ⟨full, refused, same⟩ | ⟨d, t, least, ok⟩
      · refine follows_of_error h (by rw [refused]; rfl) ?_ (holds_withDevices same)
        rw [Ledger.answer, full]
      · refine follows_of_ok (.given d) h (by rw [ok]; rfl) ?_ (grants_of_takeDevice ok)
        rw [Ledger.answer, least]
  | isDeviceUsed d =>
      refine ⟨?_, h⟩
      simp [perform, Ledger.perform, Ledger.answer, ← devices]

end Allocation

/-! ## Sessions -/

/-- A session with an allocation is the session with a ledger, if the two match at its start, and
they match at its end. -/
theorem session_follows (h : s.Matches l) (ops : List Operation) :
    transcript Allocation.perform s ops = transcript Ledger.perform l ops ∧
      (stateAfter Allocation.perform s ops).Matches (stateAfter Ledger.perform l ops) := by
  induction ops generalizing s l with
  | nil => exact ⟨rfl, h⟩
  | cons op ops ih =>
      obtain ⟨answer, state⟩ := Allocation.perform_follows h op
      obtain ⟨rest, final⟩ := ih state
      exact ⟨by rw [transcript, transcript, answer, rest], final⟩

/-! ## Subjects -/

/-- The address that an operation is about; none if it is about devices. -/
def Operation.subject : Operation → Option Address
  | claimAddress a => some a
  | hasAddress a => some a
  | reservePort a _ => some a
  | takePort a => some a
  | isPortUsed a _ => some a
  | reserveDevice _ => none
  | takeDevice => none
  | isDeviceUsed _ => none

/-- The address that a resource belongs to; none for a device. -/
def Resource.subject : Resource → Option Address
  | address a => some a
  | port a _ => some a
  | device _ => none

/-- An operation takes nothing but what belongs to its subject. -/
theorem subject_of_taken? {answer : Answer} (h : op.taken? answer = some r) :
    r.subject = op.subject := by
  cases op with
  | claimAddress a =>
      cases answer with
      | accepted =>
          obtain ⟨-, h⟩ := (Option.ite_none_left_eq_some).mp h
          cases h
          rfl
      | _ => cases h
  | _ => cases answer <;> cases h <;> rfl

namespace Ledger

/-- Two ledgers record the same of a subject. -/
def AgreeOn (k : Option Address) (l l' : Ledger) : Prop :=
  ∀ r : Resource, r.subject = k → (l.Has r ↔ l'.Has r)

/-- The answer to an operation depends on what is recorded of its subject. -/
theorem AgreeOn.answer_eq (h : AgreeOn op.subject l l') : l.answer op = l'.answer op := by
  have addresses : ∀ a, op.subject = some a → (a ∈ l.addresses ↔ a ∈ l'.addresses) :=
    fun a ha => h (.address a) ha.symm
  have ports : ∀ a, op.subject = some a → l.ports a = l'.ports a :=
    fun a ha => Finset.ext fun n => h (.port a n) ha.symm
  have devices : op.subject = none → l.devices = l'.devices :=
    fun hd => Finset.ext fun d => h (.device d) hd.symm
  cases op with
  | claimAddress a => simp only [answer, addresses a rfl]
  | hasAddress a => simp only [answer, addresses a rfl]
  | reservePort a n => simp only [answer, ports a rfl]
  | takePort a => simp only [answer, ports a rfl]
  | isPortUsed a n => simp only [answer, ports a rfl]
  | reserveDevice d => simp only [answer, devices rfl]
  | takeDevice => simp only [answer, devices rfl]
  | isDeviceUsed d => simp only [answer, devices rfl]

/-- Ledgers that agree on a subject agree on it after an operation about it. -/
theorem AgreeOn.perform (h : AgreeOn op.subject l l') :
    AgreeOn op.subject (l.perform op).2 (l'.perform op).2 := by
  intro r hr
  rw [Ledger.perform, Ledger.perform, h.answer_eq]
  cases op.taken? (l'.answer op) with
  | none => exact h r hr
  | some q => simp only [Option.elim_some, has_record, h r hr]

/-- An operation changes nothing that is recorded of another subject. -/
theorem agreeOn_perform (h : op.subject ≠ k) : AgreeOn k (l.perform op).2 l := by
  rintro r rfl
  rw [perform]
  cases taken : op.taken? (l.answer op) with
  | none => exact Iff.rfl
  | some q =>
      have other : r ≠ q := fun hrq => h (hrq ▸ (subject_of_taken? taken).symm)
      simp [has_record, other]

/-- What a ledger says of a subject, it says also where it is asked about nothing else. -/
theorem filter_transcript (h : AgreeOn k l l') (ops : List Operation) :
    (transcript Ledger.perform l ops).filter (fun x => x.1.subject = k) =
      transcript Ledger.perform l' (ops.filter fun op => op.subject = k) := by
  induction ops generalizing l l' with
  | nil => rfl
  | cons op ops ih =>
      rw [transcript]
      by_cases hop : op.subject = k
      · subst hop
        rw [List.filter_cons_of_pos (by simp), List.filter_cons_of_pos (by simp), transcript,
          ih h.perform]
        congr 2
        exact h.answer_eq
      · rw [List.filter_cons_of_neg (by simpa using hop), List.filter_cons_of_neg (by simpa using hop)]
        exact ih fun r hr => (agreeOn_perform hop r hr).trans (h r hr)

end Ledger

/-! ## Allocations -/

/-- **An allocation answers like plain sets.** From nothing claimed, every session with an
allocation is the session with a ledger. An operation that is refused changes no later answer, and
the answers about one address, or about devices, are those of a session that is about nothing
else. -/
theorem allocation_answers_as_ledger :
    (∀ ops, transcript Allocation.perform {} ops = transcript Ledger.perform {} ops) ∧
    (∀ earlier op fault later,
      ((stateAfter Allocation.perform {} earlier).perform op).1 = .refused fault →
      transcript Allocation.perform (stateAfter Allocation.perform {} (earlier ++ [op])) later =
        transcript Allocation.perform (stateAfter Allocation.perform {} earlier) later) ∧
    (∀ ops k, (transcript Allocation.perform {} ops).filter (fun x => x.1.subject = k) =
      transcript Allocation.perform {} (ops.filter fun op => op.subject = k)) := by
  have follows := session_follows Allocation.matches_fresh
  refine ⟨fun ops => (follows ops).1, ?_, ?_⟩
  · intro earlier op fault later refused
    have before := (follows earlier).2
    obtain ⟨answer, after⟩ := Allocation.perform_follows before op
    rw [Ledger.perform_of_refused (answer.symm.trans refused)] at after
    rw [stateAfter_append, (session_follows before later).1]
    exact (session_follows after later).1
  · intro ops k
    rw [(follows ops).1, (follows _).1]
    exact Ledger.filter_transcript (fun _ _ => Iff.rfl) ops

/-- Every device: the last one by its number, and then the others as they are free. -/
def everyDevice : List Operation := .reserveDevice 255 :: List.replicate 255 .takeDevice

/-- Where every device is claimed, a search for a free one comes upon the last one in vain. It
leaves its pool in another state, but nothing that is asked later shows it. -/
theorem allocation_answers_where_no_device_is_left :
    ((stateAfter Allocation.perform {} everyDevice).perform .takeDevice).1 =
        .refused .noDeviceLeft ∧
      transcript Allocation.perform
          (stateAfter Allocation.perform {} (everyDevice ++ [.takeDevice]))
          [.isDeviceUsed 7, .reserveDevice 7, .takeDevice, .takePort .loopback] =
        [(.isDeviceUsed 7, .claimed true), (.reserveDevice 7, .refused (.deviceInUse 7)),
          (.takeDevice, .refused .noDeviceLeft), (.takePort .loopback, .given 1024)] := by
  have refused : ((stateAfter Allocation.perform {} everyDevice).perform .takeDevice).1 =
      .refused .noDeviceLeft := by decide +kernel
  refine ⟨refused, ?_⟩
  rw [allocation_answers_as_ledger.2.1 everyDevice .takeDevice .noDeviceLeft _ refused]
  decide +kernel

end ReactorNet
