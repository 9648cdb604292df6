/-!
# Binary64 — double-precision numbers in exact arithmetic

A finite magnitude is a whole number `mantissa` times a power of two. `round` gives the double
nearest to a ratio, ties to the even mantissa, and is the only place where precision is lost: the
product and the quotient of two doubles are the exact ones, rounded.
-/

namespace ReleaseGate

/-- A finite double: its sign, and its magnitude `mantissa * 2 ^ exponent` with
`mantissa < 2 ^ 53` and `-1074 ≤ exponent`. -/
structure Binary64 where
  negative : Bool
  mantissa : Nat
  exponent : Int
  deriving Repr, DecidableEq, Inhabited

namespace Binary64

/-- The quotient rounded to the nearest whole number, a half to the even one. -/
def roundDiv (num den : Nat) : Nat :=
  let q := num / den
  let r := num % den
  if 2 * r < den then q
  else if den < 2 * r then q + 1
  else if q % 2 == 0 then q else q + 1

/-- A ratio times a power of two, as a ratio. -/
def scaled (num den : Nat) (e : Int) : Nat × Nat :=
  match e with
  | .ofNat k => (num * Nat.pow 2 k, den)
  | .negSucc k => (num, den * Nat.pow 2 (k + 1))

/-- The exponent at which the mantissa of `num / den` has 53 binary digits, kept in the range of
doubles. -/
def exponentFor (num den : Nat) : Int :=
  let guess : Int := (Nat.log2 num : Int) - (Nat.log2 den : Int) - 52
  let (n, d) := scaled num den (-guess)
  let exact := if n < d * Nat.pow 2 52 then guess - 1 else guess
  max exact (-1074)

/-- The double nearest to `num / den`; none when it lies beyond the largest finite one. -/
def round (negative : Bool) (num den : Nat) : Option Binary64 :=
  if num == 0 then some ⟨negative, 0, 0⟩
  else
    let e := exponentFor num den
    let (n, d) := scaled num den (-e)
    let m := roundDiv n d
    let (m, e) := if m == Nat.pow 2 53 then (Nat.pow 2 52, e + 1) else (m, e)
    if 971 < e then none else some ⟨negative, m, e⟩

/-- The magnitude as a ratio. -/
def ratio (x : Binary64) : Nat × Nat :=
  scaled x.mantissa 1 x.exponent

/-- The product with a positive double, rounded. -/
def mul (x y : Binary64) : Option Binary64 :=
  let (a, b) := x.ratio
  let (c, d) := y.ratio
  round x.negative (a * c) (b * d)

/-- The quotient by a positive double, rounded. -/
def div (x y : Binary64) : Option Binary64 :=
  let (a, b) := x.ratio
  let (c, d) := y.ratio
  round x.negative (a * d) (b * c)

/-- The double nearest to a power of ten. -/
def powerOfTen (k : Nat) : Binary64 :=
  (round false (Nat.pow 10 k) 1).getD ⟨false, 0, 0⟩

/-- `significand * 10 ^ exponent` as a reader computes it that rounds at every step: the significand
first, then one product or quotient with a power of ten up to the 308th, and a first quotient by
that power when the exponent is lower still. -/
def ofDecimal (negative : Bool) (significand : Nat) (exponent : Int) : Option Binary64 := do
  let x ← round negative significand 1
  if x.mantissa == 0 then return x
  match exponent with
  | .ofNat k => if 308 < k then none else x.mul (powerOfTen k)
  | .negSucc k =>
    let n := k + 1
    if n ≤ 308 then x.div (powerOfTen n)
    else do
      let y ← x.div (powerOfTen 308)
      if n ≤ 616 then y.div (powerOfTen (n - 308)) else return ⟨negative, 0, 0⟩

end Binary64

end ReleaseGate
