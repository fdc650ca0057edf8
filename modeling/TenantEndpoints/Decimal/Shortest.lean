/-!
# Shortest decimals

A positive binary fraction `m * 2 ^ q` is written with the fewest significant
digits that lie within the interval of numbers rounding to it; of two such
numbers the nearer one is taken. All of it is exact arithmetic on naturals.
-/
namespace TenantEndpoints.Decimal

/-- The number `digits * 10 ^ exponent`. -/
structure Scaled where
  digits : Nat
  exponent : Int
  deriving DecidableEq, Repr

/-- A positive binary floating-point number with the interval that rounds to
it, as numerators `low ≤ value ≤ high` over one denominator. The ends count
when `closed`. -/
structure Interval where
  low : Nat
  value : Nat
  high : Nat
  denominator : Nat
  closed : Bool
  deriving DecidableEq, Repr

/-- The interval of `m * 2 ^ q`. Below a power of two the neighbour is half as
far away, except at the bottom of the range. -/
def Interval.ofBinary (m : Nat) (q : Int) (narrowBelow : Bool) : Interval :=
  let scale := Nat.pow 2 (q - 2).toNat
  { low := (4 * m - if narrowBelow then 1 else 2) * scale
    value := 4 * m * scale
    high := (4 * m + 2) * scale
    denominator := Nat.pow 2 (2 - q).toNat
    closed := m % 2 = 0 }

/-- Whether `c * 10 ^ e` lies in the interval. -/
def Interval.holds (i : Interval) (c : Nat) (e : Int) : Bool :=
  let x := c * Nat.pow 10 e.toNat * i.denominator
  let unit := Nat.pow 10 (-e).toNat
  if i.closed then i.low * unit ≤ x && x ≤ i.high * unit
  else i.low * unit < x && x < i.high * unit

/-- The decimal on the grid of `10 ^ e` that rounds to the number, if there is
one: of its two neighbours on the grid the nearer one, the upper one at a tie
only when it is even. -/
def Interval.onGrid? (i : Interval) (e : Int) : Option Scaled :=
  let top := i.value * Nat.pow 10 (-e).toNat
  let bottom := i.denominator * Nat.pow 10 e.toNat
  let c := top / bottom
  let twice := 2 * (top % bottom)
  let upper := twice > bottom || (twice = bottom && c % 2 = 1)
  let (near, far) := if upper then (c + 1, c) else (c, c + 1)
  if i.holds near e then some ⟨near, e⟩
  else if i.holds far e then some ⟨far, e⟩
  else none

/-- The number of digits before the decimal point; negative or zero counts the
zeros that follow it. -/
def Interval.magnitude (i : Interval) : Int :=
  let whole := i.value / i.denominator
  if whole = 0 then
    let reaches (k : Nat) : Bool := i.denominator ≤ i.value * Nat.pow 10 (k + 1)
    Int.negOfNat (((List.range 400).find? reaches).getD 400)
  else (Nat.toDigits 10 whole).length

/-- The same number without trailing zeros among its digits. -/
def Scaled.trim (d : Scaled) : Scaled :=
  let zeros := ((Nat.toDigits 10 d.digits).reverse.takeWhile (· = '0')).length
  if d.digits = 0 then d else ⟨d.digits / Nat.pow 10 zeros, d.exponent + zeros⟩

/-- The shortest decimal of the interval, on the first grid from one to
seventeen digits that has one. -/
def Interval.shortest (i : Interval) : Scaled :=
  let k := i.magnitude
  let grid (n : Nat) : Option Scaled := i.onGrid? (k - (n + 1 : Nat))
  (((List.range 17).findSome? grid).getD ⟨0, 0⟩).trim

/-- The shortest decimal of the magnitude of a finite 64-bit floating-point
number other than zero, given by its bits. -/
def ofBits (bits : UInt64) : Scaled :=
  let n := bits.toNat
  let biased : Nat := n / Nat.pow 2 52 % 2048
  let fraction : Nat := n % Nat.pow 2 52
  if biased = 0 then (Interval.ofBinary fraction (-1074) false).shortest
  else (Interval.ofBinary (fraction + Nat.pow 2 52) ((biased : Int) - 1075)
    (fraction = 0 && 1 < biased)).shortest

end TenantEndpoints.Decimal
