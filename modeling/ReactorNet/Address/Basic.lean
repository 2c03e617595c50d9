/-!
# `ReactorNet.Address.Basic` · internet addresses

Addresses of both families, the loopback ones among them, the shift of the last component by which
the members of a bank get addresses of their own, and the order of addresses.

**The limits of a shift.** The last octet of a version 4 address stays below 255, because 255 is the
broadcast address of its network; the last segment of a version 6 address may take every value.
-/

namespace ReactorNet

/-- An internet address. -/
inductive Address where
  /-- Version 4: four octets. -/
  | v4 (a b c d : UInt8)
  /-- Version 6: eight segments of sixteen bits. -/
  | v6 (a b c d e f g h : UInt16)
deriving DecidableEq, Repr

/-- A family of addresses. -/
inductive AddressFamily where
  /-- Version 4. -/
  | v4
  /-- Version 6. -/
  | v6
deriving DecidableEq, Repr

/-- The symbol that a channel constructor takes for the family. -/
def AddressFamily.symbol : AddressFamily → String
  | v4 => "AF_INET"
  | v6 => "AF_INET6"

namespace Address

/-- The address that an interface without a declared one binds. -/
def loopback : Address := .v4 127 0 0 1

/-- The family of an address. -/
def family : Address → AddressFamily
  | .v4 .. => .v4
  | .v6 .. => .v6

/-- Whether an address reaches the own host only. Such an address may be shared. -/
def isLoopback : Address → Bool
  | .v4 a _ _ _ => a == 127
  | .v6 a b c d e f g h => a == 0 && b == 0 && c == 0 && d == 0 && e == 0 && f == 0 && g == 0 && h == 1

/-- The greatest value of the last component that a shift may lead to. -/
def lastLimit : AddressFamily → Nat
  | .v4 => 254
  | .v6 => 0xFFFF

/-- The last component of an address. -/
def last : Address → Nat
  | .v4 _ _ _ d => d.toNat
  | .v6 _ _ _ _ _ _ _ h => h.toNat

/-- The address with another last component. -/
def withLast (n : Nat) : Address → Address
  | .v4 a b c _ => .v4 a b c (.ofNat n)
  | .v6 a b c d e f g _ => .v6 a b c d e f g (.ofNat n)

/-- The address whose last component is greater by `n`, if it stays within the limits. -/
def shift? (x : Address) (n : Int) : Option Address :=
  if 0 ≤ x.last + n ∧ x.last + n ≤ lastLimit x.family then some (x.withLast (x.last + n).toNat)
  else none

/-- The components of an address, the most significant first. -/
def components : Address → List Nat
  | .v4 a b c d => [a.toNat, b.toNat, c.toNat, d.toNat]
  | .v6 a b c d e f g h =>
    [a.toNat, b.toNat, c.toNat, d.toNat, e.toNat, f.toNat, g.toNat, h.toNat]

/-- Whether an address does not come after another. Version 4 comes first, and within a family the
order is that of the numbers. -/
def atMost (x y : Address) : Bool :=
  match x, y with
  | .v4 .., .v6 .. => true
  | .v6 .., .v4 .. => false
  | _, _ => !y.components.lex x.components fun m n => m.blt n

/-- The distinct addresses of a list, in order. -/
def sorted (xs : List Address) : List Address := (xs.mergeSort atMost).eraseReps

/-- The last component of a shifted address is shifted. -/
theorem last_shift? {x y : Address} {n : Int} (h : x.shift? n = some y) :
    (y.last : Int) = x.last + n := by
  unfold shift? at h
  split at h
  · rename_i hr
    cases x with
    | v4 a b c d =>
      simp only [last, family, lastLimit] at hr
      cases h
      simp only [withLast, last, UInt8.toNat_ofNat']
      omega
    | v6 a b c d e f g h =>
      simp only [last, family, lastLimit] at hr
      cases h
      simp only [withLast, last, UInt16.toNat_ofNat']
      omega
  · cases h

end Address

end ReactorNet
