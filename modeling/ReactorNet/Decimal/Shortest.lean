/-!
# `ReactorNet.Decimal.Shortest` · the fewest digits that read back

A finite binary64 value as `m · 2 ^ q`, the exact test whether a decimal rounds to it, and the
selection of the shortest decimal that does: the first grid `10 ^ (k - n)`, for `n = 1, 2, …`
digits, on which one of the value's two neighbours reads back; of two such neighbours the nearer,
and the even one on a tie. All arithmetic is on naturals and integers.

How the digits are laid out is the matter of `ReactorNet.Decimal.Layout`.
-/

namespace ReactorNet.Decimal

/-- A finite non-negative binary64 value `m · 2 ^ q`. -/
structure Binary where
  /-- The significand. -/
  m : Nat
  /-- The binary exponent. -/
  q : Int
  /-- Whether the gap to the value below is half the gap to the value above. -/
  narrowBelow : Bool

/-- The value of the bits of a finite double, its sign left out. -/
def Binary.ofBits (bits : UInt64) : Binary :=
  let e := ((bits >>> 52) &&& 0x7FF).toNat
  let f := (bits &&& 0xFFFFFFFFFFFFF).toNat
  if e == 0 then ⟨f, -1074, false⟩
  else ⟨Nat.pow 2 52 + f, (e : Int) - 1075, f == 0 && e > 1⟩

/-- The decimal `digits · 10 ^ exp`. -/
structure Dec where
  /-- The digits, as one number. -/
  digits : Nat
  /-- The power of ten they are scaled by. -/
  exp : Int
deriving Repr, DecidableEq

/-- Compare `a · 10 ^ i` with `n · 2 ^ j` exactly. -/
def compareScaled (a : Nat) (i : Int) (n : Nat) (j : Int) : Ordering :=
  compare (a * Nat.pow 10 i.toNat * Nat.pow 2 (-j).toNat)
    (n * Nat.pow 2 j.toNat * Nat.pow 10 (-i).toNat)

/-- Whether `d` lies among the reals that round to `x`: half-way points included exactly when the
significand is even. -/
def Binary.readsBack (x : Binary) (d : Dec) : Bool :=
  let low := if x.narrowBelow then 4 * x.m - 1 else 4 * x.m - 2
  let high := 4 * x.m + 2
  let closed := x.m % 2 == 0
  let atLow := compareScaled d.digits d.exp low (x.q - 2)
  let atHigh := compareScaled d.digits d.exp high (x.q - 2)
  (atLow == .gt || (closed && atLow == .eq)) && (atHigh == .lt || (closed && atHigh == .eq))

/-- The exponent `k` with `10 ^ (k - 1) ≤ x < 10 ^ k`, for a value that is not zero. -/
def Binary.scale (x : Binary) : Int :=
  let estimate : Int := (((Nat.log2 x.m : Int) + x.q) * 30103).fdiv 100000
  let above := (List.range 5).map fun (i : Nat) => estimate - 1 + (i : Int)
  (above.find? fun k => compareScaled 1 k x.m x.q == .gt).getD (estimate + 4)

/-- The greatest point of the grid `10 ^ g` that is not above `x`, in units of the grid. -/
def Binary.floorOn (x : Binary) (g : Int) : Nat :=
  (x.m * Nat.pow 2 x.q.toNat * Nat.pow 10 (-g).toNat) /
    (Nat.pow 10 g.toNat * Nat.pow 2 (-x.q).toNat)

/-- The better of the two neighbours of `x` on the grid `10 ^ g` that read back, if one does. -/
def Binary.nearestOn? (x : Binary) (g : Int) : Option Dec :=
  let below : Dec := ⟨x.floorOn g, g⟩
  let above : Dec := ⟨x.floorOn g + 1, g⟩
  match x.readsBack below, x.readsBack above with
  | true, false => some below
  | false, true => some above
  | false, false => none
  | true, true =>
    match compareScaled (2 * below.digits + 1) g (2 * x.m) x.q with
    | .gt => some below
    | .lt => some above
    | .eq => some (if below.digits % 2 == 0 then below else above)

/-- Move trailing zeros of the digits into the exponent, at most `fuel` of them. -/
def Dec.strip : Nat → Dec → Dec
  | 0, d => d
  | fuel + 1, d =>
    if d.digits % 10 == 0 && d.digits != 0 then Dec.strip fuel ⟨d.digits / 10, d.exp + 1⟩ else d

/-- The shortest decimal that reads back as `x`; seventeen digits always suffice, and the exact
value is the answer should none of the grids hold one. -/
def Binary.shortest (x : Binary) : Dec :=
  if x.m == 0 then ⟨0, 0⟩
  else
    let k := x.scale
    let found := (List.range 17).findSome? fun (n : Nat) => x.nearestOn? (k - ((n : Int) + 1))
    (found.getD ⟨x.m * Nat.pow 2 x.q.toNat * Nat.pow 5 (-x.q).toNat, min x.q 0⟩).strip 400

end ReactorNet.Decimal
