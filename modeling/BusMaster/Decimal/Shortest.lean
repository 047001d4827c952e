/-!
# The shortest decimal of a binary fraction

A finite 64-bit float stands for every real that rounds to it: an interval, its ends included
exactly when the significand is even. Among the decimal grids `10 ^ e` the coarsest one with a point
in that interval gives the decimal with the fewest digits that reads back as the float.

* `Binary.ofFloat`: significand and exponent of a float.
* `Binary.contains`: whether a decimal lies in the interval, by cross-multiplied naturals.
* `Binary.shortest`: the decimal.
-/

namespace BusMaster.Decimal

/-- The number `significand * 2 ^ exponent`. `atStep` says that the neighbour below is half as far
away as the one above, as it is below a power of two. -/
structure Binary where
  significand : Nat
  exponent : Int
  atStep : Bool
deriving DecidableEq, Repr

/-- The number `digits * 10 ^ exponent`. -/
structure Scaled where
  digits : Nat
  exponent : Int
deriving DecidableEq, Repr

namespace Binary

/-- The place of the exponent in the bits of a float, as a power of two: 52 bits of the significand
are below it. -/
def exponentUnit : Nat := 0x10000000000000

/-- The magnitude of a finite float. Its exponent has eleven bits; the significand has a leading one
that is not written, unless the exponent is zero. -/
def ofFloat (x : Float) : Binary :=
  let bits := x.toBits.toNat
  let fraction : Nat := bits % exponentUnit
  let field : Nat := bits / exponentUnit % 0x800
  if field = 0 then ⟨fraction, -1074, false⟩
  else ⟨fraction + exponentUnit, (field : Int) - 1075, fraction = 0 ∧ 1 < field⟩

/-- Both sides of the comparison of `digits * 10 ^ e` with `quarters * 2 ^ (b.exponent - 2)`,
brought to naturals by a common factor. -/
def sides (b : Binary) (digits : Nat) (e : Int) (quarters : Nat) : Nat × Nat :=
  (digits * Nat.pow 10 e.toNat * Nat.pow 2 (2 - b.exponent).toNat,
    quarters * Nat.pow 2 (b.exponent - 2).toNat * Nat.pow 10 (-e).toNat)

/-- The decimal rounds to `b`. -/
def contains (b : Binary) (digits : Nat) (e : Int) : Bool :=
  let low := b.sides digits e (4 * b.significand - if b.atStep then 1 else 2)
  let high := b.sides digits e (4 * b.significand + 2)
  if b.significand % 2 = 0 then low.2 ≤ low.1 && high.1 ≤ high.2
  else low.2 < low.1 && high.1 < high.2

/-- The point of the grid `10 ^ e` that rounds to `b` and lies nearest to it, if there is one. Only
the two neighbours of `b` on the grid need a look. -/
def onGrid (b : Binary) (e : Int) : Option Scaled :=
  let unit := (b.sides 1 e 0).1
  let value := (b.sides 0 e (4 * b.significand)).2
  let below := value / unit
  match b.contains below e, b.contains (below + 1) e with
  | false, false => none
  | true, false => some ⟨below, e⟩
  | false, true => some ⟨below + 1, e⟩
  | true, true =>
    let rest := value % unit
    if 2 * rest < unit ∨ (2 * rest = unit ∧ below % 2 = 0) then some ⟨below, e⟩
    else some ⟨below + 1, e⟩

/-- The first hit among `count` grids, each ten times finer than the one before. -/
def firstGrid (b : Binary) : Nat → Int → Scaled
  | 0, _ => ⟨0, 0⟩
  | count + 1, e => (b.onGrid e).getD (firstGrid b count (e - 1))

/-- The decimal with the fewest digits that rounds to `b`. Grids coarser than `10 ^ 309` have no
point below the greatest float, and one no finer than `10 ^ -324` has a point for the least. -/
def shortest (b : Binary) : Scaled :=
  if b.significand = 0 then ⟨0, 0⟩ else b.firstGrid 640 309

end Binary

end BusMaster.Decimal
