/-!
# `ReactorNet.Allocation.Pool` · numbers of which each is handed out once

A pool hands out numbers of a range. A number is claimed either by asking for it or by taking the
least one that is free; `Pool.isUsed` says which numbers are claimed. Numbers outside the range may
be asked for, but are never taken.

**Why the search never looks back.** Each search for a free number goes on where the last one
stopped. A pool carries the proof that nothing is missed by this: every number of the range behind
it is claimed.
-/

namespace ReactorNet

/-- A set of numbers: those whose bits are set. -/
structure NumberSet where
  /-- The bits. -/
  bits : Nat := 0
deriving DecidableEq, Repr

namespace NumberSet

/-- Whether a number is in a set. -/
def contains (s : NumberSet) (n : Nat) : Bool := s.bits.testBit n

/-- Put a number into a set. -/
def insert (s : NumberSet) (n : Nat) : NumberSet := ⟨s.bits ||| Nat.shiftLeft 1 n⟩

/-- Nothing is in the empty set. -/
theorem contains_empty (n : Nat) : ({} : NumberSet).contains n = false := Nat.zero_testBit n

/-- In a set with a number put into it are that number and those that were in it. -/
theorem contains_insert (s : NumberSet) (n m : Nat) :
    (s.insert n).contains m = (m == n || s.contains m) := by
  have single : (Nat.shiftLeft 1 n).testBit m = (m == n) := by
    change (1 <<< n).testBit m = _
    rw [Nat.one_shiftLeft, Nat.testBit_two_pow, Bool.eq_iff_iff, decide_eq_true_iff, beq_iff_eq]
    exact eq_comm
  rw [contains, insert, Nat.testBit_or, single, Bool.or_comm]
  rfl

end NumberSet

/-- A pool over the numbers from `first` to `last`. -/
structure Pool (first last : Nat) where
  /-- Where the search for a free number goes on. -/
  next : Nat := first
  /-- The numbers that are claimed. -/
  used : NumberSet := {}
  /-- The search does not begin before the range. -/
  first_le_next : first ≤ next := by omega
  /-- The search has left no free number behind. -/
  passed : ∀ n, first ≤ n → n < next → used.contains n = true := by intros; omega
deriving DecidableEq, Repr

namespace Pool

variable {first last : Nat}

/-- Whether a number is claimed. -/
def isUsed (p : Pool first last) (n : Nat) : Bool := p.used.contains n

/-- Nothing is claimed in a fresh pool. -/
theorem isUsed_fresh (n : Nat) : ({} : Pool first last).isUsed n = false :=
  NumberSet.contains_empty n

/-! ## Asking for a number -/

/-- Claim a number; none if it is claimed already. -/
def reserve? (p : Pool first last) (n : Nat) : Option (Pool first last) :=
  if p.isUsed n then none
  else some { p with
    used := p.used.insert n
    passed := fun m low high => by simp [NumberSet.contains_insert, p.passed m low high] }

/-- Claiming a number claims it and no other. -/
theorem isUsed_of_reserve? {p q : Pool first last} {n : Nat} (h : p.reserve? n = some q) (m : Nat) :
    q.isUsed m = (m == n || p.isUsed m) := by
  unfold reserve? at h
  split at h
  · cases h
  · cases h
    exact NumberSet.contains_insert p.used n m

/-! ## Taking a number -/

/-- Claim the number where the search stands, and go on behind it. -/
def advance (p : Pool first last) : Pool first last where
  next := p.next + 1
  used := p.used.insert p.next
  first_le_next := Nat.le_succ_of_le p.first_le_next
  passed := fun n low high => by
    rw [NumberSet.contains_insert, Bool.or_eq_true, beq_iff_eq]
    rcases Nat.eq_or_lt_of_le (Nat.le_of_lt_succ high) with here | behind
    · exact Or.inl here
    · exact Or.inr (p.passed n low behind)

/-- Going on claims the number where the search stood and no other. -/
theorem isUsed_advance (p : Pool first last) (m : Nat) :
    p.advance.isUsed m = (m == p.next || p.isUsed m) :=
  NumberSet.contains_insert p.used p.next m

/-- Search the least free number of the range and claim it; none if there is none. The search goes
through the rest of the range then, and the pool keeps where it ended. -/
def take (p : Pool first last) : Option Nat × Pool first last :=
  if last < p.next then (none, p)
  else if p.isUsed p.next then p.advance.take
  else (some p.next, p.advance)
termination_by last + 1 - p.next
decreasing_by
  simp only [advance]
  omega

/-- Take the least free number of the range; none if there is none. -/
def take? (p : Pool first last) : Option (Nat × Pool first last) :=
  match p.take with
  | (some n, q) => some (n, q)
  | (none, _) => none

end Pool

end ReactorNet
