import ReleaseGate.Number.Binary64

/-!
# Shortest decimal — the fewest digits that read back as the same double

`digits` looks at the decimal grids with one, two, … seventeen digits. The first grid that has a
point in the interval of reals that round to the number wins; of two such points the one nearer to
the number is taken. `positional` and `scientific` write the digits out.
-/

namespace ReleaseGate.Binary64

/-- Decimal digits and the power of ten of the last one. -/
structure Decimal where
  coefficient : Nat
  power : Int
  deriving Repr, DecidableEq

/-- A natural number times a power of ten, as a ratio. -/
private def tens (n : Nat) : Int → Nat × Nat
  | .ofNat k => (n * Nat.pow 10 k, 1)
  | .negSucc k => (n, Nat.pow 10 (k + 1))

/-- Is the ratio `a` below the ratio `b`? -/
private def below (a b : Nat × Nat) : Bool :=
  a.1 * b.2 < b.1 * a.2

/-- The ends of the interval of reals that round to a positive double, as multiples of a quarter of
its last binary digit. -/
private def interval (x : Binary64) : (Nat × Nat) × (Nat × Nat) :=
  let quarter : Int := x.exponent - 2
  let low := if x.mantissa == Nat.pow 2 52 && x.exponent != -1074 then 4 * x.mantissa - 1
    else 4 * x.mantissa - 2
  (scaled low 1 quarter, scaled (4 * x.mantissa + 2) 1 quarter)

/-- Does the grid point `n * 10 ^ p` round to the double? -/
private def readsBack (x : Binary64) (n : Nat) (p : Int) : Bool :=
  let (lo, hi) := interval x
  let point := tens n p
  if x.mantissa % 2 == 0 then !below point lo && !below hi point
  else below lo point && below point hi

/-- The number of decimal digits of the whole part of a ratio at least one. -/
private def magnitude (x : Nat × Nat) : Int :=
  let whole := x.1 / x.2
  if whole != 0 then (Nat.toDigits 10 whole).length
  else
    let inverse := (x.2 + x.1 - 1) / x.1
    1 - ((Nat.toDigits 10 inverse).length : Int)

/-- The best point for the double on the grid of multiples of `10 ^ p`, if one reads back. -/
private def onGrid (x : Binary64) (p : Int) : Option Decimal :=
  let (num, den) := x.ratio
  let (a, b) := match p with
    | .ofNat k => (num, den * Nat.pow 10 k)
    | .negSucc k => (num * Nat.pow 10 (k + 1), den)
  let low := a / b
  let twice := 2 * (a % b)
  let lowFits := low != 0 && readsBack x low p
  let highFits := readsBack x (low + 1) p
  let highNearer := b < twice || (twice == b && low % 2 == 1)
  if lowFits && (!highFits || !highNearer) then some ⟨low, p⟩
  else if highFits then some ⟨low + 1, p⟩
  else none

/-- The coefficient without the zeros at its end; `fuel` bounds their number. -/
private def dropZeros : Nat → Decimal → Decimal
  | 0, d => d
  | fuel + 1, d =>
    if d.coefficient != 0 && d.coefficient % 10 == 0 then
      dropZeros fuel ⟨d.coefficient / 10, d.power + 1⟩
    else d

/-- The fewest digits that read back as the positive double. -/
def digits (x : Binary64) : Decimal :=
  let m := magnitude x.ratio
  let grids := (List.range 19).map fun (n : Nat) => m - (n : Int)
  dropZeros 20 ((grids.findSome? (onGrid x)).getD ⟨x.mantissa, 0⟩)

private def zeros (n : Nat) : String :=
  String.ofList (List.replicate n '0')

private def sign (x : Binary64) : String :=
  if x.negative then "-" else ""

/-- Positional notation, always with a decimal point. -/
def positional (x : Binary64) : String :=
  if x.mantissa == 0 then sign x ++ "0.0"
  else
    let d := digits x
    let text := toString d.coefficient
    let point : Int := text.length + d.power
    sign x ++
      (if 0 ≤ d.power then text ++ zeros d.power.toNat ++ ".0"
      else if 0 < point then
        (text.take point.toNat).toString ++ "." ++ (text.drop point.toNat).toString
      else "0." ++ zeros (-point).toNat ++ text)

/-- Positional notation for magnitudes from `10 ^ -5` to below `10 ^ 16`, and scientific notation
with a signed exponent for all others. -/
def scientific (x : Binary64) : String :=
  if x.mantissa == 0 then positional x
  else
    let d := digits x
    let text := toString d.coefficient
    let e : Int := text.length + d.power - 1
    if -5 ≤ e && e < 16 then positional x
    else
      let rest := (text.drop 1).toString
      let body := (text.take 1).toString ++ (if rest.isEmpty then "" else "." ++ rest)
      sign x ++ body ++ (if e < 0 then "e-" else "e+") ++ toString e.natAbs

end ReleaseGate.Binary64
