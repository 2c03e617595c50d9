import Mathlib.Order.Bounds.Basic
import Mathlib.Tactic.Common
import ReactorNet.Allocation.Basic

/-!
# `ReactorNet.Proofs.Allocation` · a claim takes one resource and no other

Addresses, ports and devices are read as resources of one kind, and `Allocation.holds` says which of
them are claimed. `Allocation.Grants s rs t` says that from `s` to `t` exactly the resources `rs`
were claimed: each of them once, none of them held before. Every claim that succeeds grants at most
one resource, and grants compose; so a loop of claims grants the list of what its steps were given,
whatever the order of explicit and automatic claims.

**Pools.** The lemmas about `Pool` say the same of the numbers of one range: taking gives the least
free number, and fails only where no number of the range is free. `take_eq_none` and `take_eq_some`
follow the search; that it need not look back is what a pool carries the proof of.
-/

namespace ReactorNet

/-! ## Numbers of a range -/

namespace Pool

variable {first last : Nat} {p q : Pool first last} {n m : Nat}

/-- Asking for a number fails only if it is claimed. -/
theorem reserve?_eq_none_iff : p.reserve? n = none ↔ p.isUsed n = true := by
  simp [reserve?]

/-- A number that was asked for was not claimed before. -/
theorem isUsed_eq_false_of_reserve? (h : p.reserve? n = some q) : p.isUsed n = false := by
  by_contra used
  rw [Bool.not_eq_false, ← reserve?_eq_none_iff, h] at used
  cases used

/-- Going on behind a number that is claimed changes no claim. -/
theorem isUsed_advance_of_isUsed (used : p.isUsed p.next = true) (k : Nat) :
    p.advance.isUsed k = p.isUsed k := by
  rw [isUsed_advance]
  by_cases hk : k = p.next
  · rw [hk, used, Bool.or_true]
  · rw [beq_eq_false_iff_ne.mpr hk, Bool.false_or]

/-- A search fails only if every number ahead of it is claimed, and it changes no claim then. -/
theorem take_eq_none (h : p.take = (none, q)) :
    (∀ k, p.next ≤ k → k ≤ last → p.isUsed k = true) ∧ ∀ k, q.isUsed k = p.isUsed k := by
  fun_induction take p with
  | case1 p ended =>
      cases h
      refine ⟨?_, fun _ => rfl⟩
      intro k hk hl
      omega
  | case2 p more used ih =>
      obtain ⟨rest, same⟩ := ih h
      have kept := isUsed_advance_of_isUsed used
      refine ⟨?_, fun k => (same k).trans (kept k)⟩
      intro k hk hl
      rcases Nat.eq_or_lt_of_le hk with rfl | hk
      · exact used
      · exact (kept k).symm.trans (rest k hk hl)
  | case3 => cases h

/-- A search finds the first free number ahead of it, and claims it and no other. -/
theorem take_eq_some (h : p.take = (some n, q)) :
    IsLeast {k | p.next ≤ k ∧ k ≤ last ∧ p.isUsed k = false} n ∧
      ∀ k, q.isUsed k = (k == n || p.isUsed k) := by
  fun_induction take p with
  | case1 => cases h
  | case2 p more used ih =>
      obtain ⟨⟨⟨hn, hl, free⟩, least⟩, claims⟩ := ih h
      have kept := isUsed_advance_of_isUsed used
      refine ⟨⟨⟨Nat.le_of_succ_le hn, hl, (kept n).symm.trans free⟩, ?_⟩, fun k => ?_⟩
      · rintro k ⟨hk, hkl, hfree⟩
        rcases Nat.eq_or_lt_of_le hk with rfl | hk
        · rw [used] at hfree
          cases hfree
        · exact least ⟨hk, hkl, (kept k).trans hfree⟩
      · rw [claims, kept]
  | case3 p more free =>
      cases h
      refine ⟨⟨⟨le_rfl, Nat.le_of_not_lt more, Bool.eq_false_iff.mpr free⟩, ?_⟩,
        isUsed_advance p⟩
      exact fun k hk => hk.1

/-- A free number of the range lies ahead of the search. -/
theorem next_le_of_isUsed_eq_false (low : first ≤ n) (free : p.isUsed n = false) : p.next ≤ n := by
  by_contra behind
  have used : p.isUsed n = true := p.passed n low (Nat.lt_of_not_le behind)
  rw [free] at used
  cases used

/-- Taking fails only if every number of the range is claimed. -/
theorem take?_eq_none_iff :
    p.take? = none ↔ ∀ k, first ≤ k → k ≤ last → p.isUsed k = true := by
  unfold take?
  split
  · rename_i n q taken
    obtain ⟨⟨⟨hn, hl, free⟩, -⟩, -⟩ := take_eq_some taken
    simp only [reduceCtorEq, false_iff]
    intro all
    rw [all n (Nat.le_trans p.first_le_next hn) hl] at free
    cases free
  · rename_i q taken
    simp only [true_iff]
    intro k hk hl
    by_contra free
    rw [Bool.not_eq_true] at free
    rw [(take_eq_none taken).1 k (next_le_of_isUsed_eq_false hk free) hl] at free
    cases free

/-- Where taking fails, it changes no claim. -/
theorem isUsed_take_of_eq_none (h : p.take? = none) (k : Nat) : p.take.2.isUsed k = p.isUsed k := by
  unfold take? at h
  split at h
  · cases h
  · rename_i q taken
    rw [taken]
    exact (take_eq_none taken).2 k

/-- Taking gives the least free number of the range, and claims it and no other. -/
theorem take?_eq_some (h : p.take? = some (n, q)) :
    IsLeast {k | first ≤ k ∧ k ≤ last ∧ p.isUsed k = false} n ∧
      ∀ k, q.isUsed k = (k == n || p.isUsed k) := by
  unfold take? at h
  split at h
  · rename_i m r taken
    cases h
    obtain ⟨⟨⟨hn, hl, free⟩, least⟩, claims⟩ := take_eq_some taken
    refine ⟨⟨⟨Nat.le_trans p.first_le_next hn, hl, free⟩, ?_⟩, claims⟩
    rintro k ⟨hk, hkl, hfree⟩
    -- what the search has left behind is not free
    exact least ⟨next_le_of_isUsed_eq_false hk hfree, hkl, hfree⟩
  · cases h

end Pool

/-! ## Resources and grants -/

/-- Anything that only one interface or channel of a federation can have. -/
inductive Resource where
  /-- An address that is not shared. -/
  | address (a : Address)
  /-- A port of an address. -/
  | port (a : Address) (n : Nat)
  /-- A serial device. -/
  | device (d : Nat)
deriving DecidableEq, Repr

/-- Whether a resource is one that may be claimed at all. -/
def Resource.Claimable : Resource → Prop
  | address a => a.isLoopback = false
  | port _ n => 1 ≤ n ∧ n ≤ 65535
  | device d => d ≤ lastDevice

/-- What claiming an address takes: loopback addresses are shared. -/
def Address.resource? (a : Address) : Option Resource :=
  if a.isLoopback then none else some (.address a)

namespace Allocation

variable {s t u : Allocation} {a b : Address} {n d : Nat} {rs qs : List Resource}

/-- Whether a resource is claimed. -/
def holds (s : Allocation) : Resource → Bool
  | .address a => s.hasAddress a
  | .port a n => s.isPortUsed a n
  | .device d => s.isDeviceUsed d

/-- From `s` to `t` exactly the resources `rs` were claimed, each once and none held before. -/
structure Grants (s : Allocation) (rs : List Resource) (t : Allocation) : Prop where
  /-- No resource is given twice. -/
  nodup : rs.Nodup
  /-- Every resource is one that may be claimed. -/
  claimable : ∀ r ∈ rs, r.Claimable
  /-- No resource was held before. -/
  fresh : ∀ r ∈ rs, s.holds r = false
  /-- Held afterwards is what was held before and what was given. -/
  holds_iff : ∀ r, t.holds r = true ↔ r ∈ rs ∨ s.holds r = true

namespace Grants

/-- Claiming nothing. -/
theorem refl (s : Allocation) : s.Grants [] s where
  nodup := List.nodup_nil
  claimable := by simp
  fresh := by simp
  holds_iff := by simp

/-- Claiming one resource. -/
theorem single {r : Resource} (claimable : r.Claimable) (fresh : s.holds r = false)
    (holds_iff : ∀ q, t.holds q = true ↔ q = r ∨ s.holds q = true) : s.Grants [r] t where
  nodup := by simp
  claimable := by simpa using claimable
  fresh := by simpa using fresh
  holds_iff := by simpa using holds_iff

/-- Claims made one after the other. -/
theorem trans (first : s.Grants rs t) (second : t.Grants qs u) : s.Grants (rs ++ qs) u where
  nodup := by
    refine List.nodup_append.mpr ⟨first.nodup, second.nodup, ?_⟩
    rintro r hr q hq rfl
    -- what the first claims gave is held when the second ones are made
    have held := (first.holds_iff r).mpr (Or.inl hr)
    rw [second.fresh r hq] at held
    cases held
  claimable := by
    intro r hr
    rcases List.mem_append.mp hr with hr | hr
    · exact first.claimable r hr
    · exact second.claimable r hr
  fresh := by
    intro r hr
    rcases List.mem_append.mp hr with hr | hr
    · exact first.fresh r hr
    · rw [Bool.eq_false_iff]
      intro held
      have held := (first.holds_iff r).mpr (Or.inr held)
      rw [second.fresh r hr] at held
      cases held
  holds_iff := by
    intro r
    rw [second.holds_iff, first.holds_iff, List.mem_append]
    tauto

end Grants

/-! ## The claims of an allocation -/

/-- The ports of an address in a table in which those of an address were replaced. -/
theorem lookup_setPorts (pool : PortPool) (table : List (Address × PortPool)) :
    (setPorts a pool table).lookup b = if b = a then some pool else table.lookup b := by
  induction table with
  | nil =>
      by_cases h : b = a
      · simp [setPorts, h]
      · have hba : (b == a) = false := beq_eq_false_iff_ne.mpr h
        simp [setPorts, List.lookup_cons, hba, h]
  | cons row rest ih =>
      obtain ⟨c, other⟩ := row
      by_cases hc : c = a
      · subst hc
        by_cases hb : b = c
        · simp [setPorts, hb]
        · have hbc : (b == c) = false := beq_eq_false_iff_ne.mpr hb
          simp [setPorts, List.lookup_cons, hbc, hb]
      · by_cases hb : b = c
        · subst hb
          simp [setPorts, hc]
        · have hbc : (b == c) = false := beq_eq_false_iff_ne.mpr hb
          simp [setPorts, List.lookup_cons, hc, hbc, ih]

/-- Other ports of an address leave the ports of all others as they are. -/
theorem portsOf_withPorts (s : Allocation) (pool : PortPool) :
    (s.withPorts a pool).portsOf b = if b = a then pool else s.portsOf b := by
  unfold portsOf withPorts
  simp only [lookup_setPorts]
  split <;> rfl

/-- A pool of ports in which one more is claimed. -/
theorem Grants.ofPorts {pool : PortPool} (claimable : 1 ≤ n ∧ n ≤ 65535)
    (fresh : (s.portsOf a).isUsed n = false)
    (isUsed_eq : ∀ m, pool.isUsed m = (m == n || (s.portsOf a).isUsed m)) :
    s.Grants [.port a n] (s.withPorts a pool) := by
  refine Grants.single claimable fresh ?_
  rintro (c | ⟨c, m⟩ | d)
  · simp [holds, hasAddress, withPorts]
  · simp only [holds, isPortUsed, portsOf_withPorts]
    by_cases hc : c = a
    · subst hc
      simp [isUsed_eq]
    · simp [hc]
  · simp [holds, isDeviceUsed, withPorts]

/-- A pool of devices in which one more is claimed. -/
theorem Grants.ofDevices {pool : DevicePool} (claimable : d ≤ lastDevice)
    (fresh : s.devices.isUsed d = false)
    (isUsed_eq : ∀ e, pool.isUsed e = (e == d || s.devices.isUsed e)) :
    s.Grants [.device d] { s with devices := pool } := by
  refine Grants.single claimable fresh ?_
  rintro (c | ⟨c, m⟩ | e)
  · simp [holds, hasAddress]
  · simp [holds, isPortUsed, portsOf]
  · simp [holds, isDeviceUsed, isUsed_eq]

/-- Claiming an address takes it, unless it is a loopback address. -/
theorem grants_of_claimAddress (h : s.claimAddress a = .ok t) :
    s.Grants a.resource?.toList t := by
  unfold claimAddress at h
  unfold Address.resource?
  split at h
  · rename_i loopback
    cases h
    simpa [loopback] using Grants.refl s
  · rename_i own
    split at h
    · cases h
    · rename_i fresh
      cases h
      rw [if_neg own]
      refine Grants.single (by simpa [Resource.Claimable] using own) (by simpa [holds] using fresh) ?_
      rintro (c | ⟨c, m⟩ | d)
      · simp [holds, hasAddress]
      · simp [holds, isPortUsed, portsOf]
      · simp [holds, isDeviceUsed]

/-- Asking for a port takes it. -/
theorem grants_of_reservePort (h : s.reservePort a n = .ok t) : s.Grants [.port a n] t := by
  unfold reservePort at h
  split at h
  · cases h
  · rename_i inRange
    split at h
    · rename_i pool reserved
      cases h
      simp only [Bool.or_eq_true, beq_iff_eq, decide_eq_true_eq, not_or] at inRange
      unfold lastReservablePort at inRange
      exact Grants.ofPorts (by omega) (Pool.isUsed_eq_false_of_reserve? reserved)
        (Pool.isUsed_of_reserve? reserved)
    · cases h

/-- Taking a port takes the one that is given. -/
theorem grants_of_takePort (h : s.takePort a = .ok (n, t)) : s.Grants [.port a n] t := by
  unfold takePort at h
  split at h
  · rename_i pool taken
    cases h
    obtain ⟨⟨⟨low, high, fresh⟩, -⟩, isUsed_eq⟩ := Pool.take?_eq_some taken
    exact Grants.ofPorts (by omega) fresh isUsed_eq
  · cases h

/-- Asking for a device takes it. -/
theorem grants_of_reserveDevice (h : s.reserveDevice d = .ok t) : s.Grants [.device d] t := by
  unfold reserveDevice at h
  split at h
  · cases h
  · rename_i inRange
    split at h
    · rename_i pool reserved
      cases h
      exact Grants.ofDevices (Nat.le_of_not_lt inRange) (Pool.isUsed_eq_false_of_reserve? reserved)
        (Pool.isUsed_of_reserve? reserved)
    · cases h

/-- Taking a device takes the one that is given. -/
theorem grants_of_takeDevice (h : s.takeDevice = .ok (d, t)) : s.Grants [.device d] t := by
  unfold takeDevice at h
  split at h
  · rename_i pool taken
    cases h
    obtain ⟨⟨⟨-, high, fresh⟩, -⟩, isUsed_eq⟩ := Pool.take?_eq_some taken
    exact Grants.ofDevices high fresh isUsed_eq
  · cases h

end Allocation

end ReactorNet
