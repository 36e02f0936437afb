/-!
# Shortest decimals

A binary floating point number stands for all reals that round to it. Among the decimals in that
interval the shortest one is chosen, and of several shortest ones the nearest to the number.

## Main definitions

* `Binary` : a positive number `mantissa * 2 ^ exponent`, as its bits give it.
* `Numeral` : digits and the place of the point.
* `shortest` : the chosen decimal.
* `NumberStyle.render` : a decimal as text, in one of the styles numbers are written in.
-/

namespace Sandbox.Decimal

/-- A positive floating point number `mantissa * 2 ^ exponent` of 53 bits precision. -/
structure Binary where
  /-- The mantissa. -/
  mantissa : Nat
  /-- The power of two. -/
  exponent : Int
  deriving DecidableEq, Repr

/-- The number with these magnitude bits, which are those of a finite number. -/
def Binary.ofBits (bits : Nat) : Binary :=
  let field : Nat := bits / 0x10000000000000 % 2048
  let fraction : Nat := bits % 0x10000000000000
  if field = 0 then ⟨fraction, -1074⟩ else ⟨fraction + 0x10000000000000, (field : Int) - 1075⟩

/-- A decimal `0.d₁d₂… * 10 ^ point`. -/
structure Numeral where
  /-- The digits, the first of which is not zero. -/
  digits : List Nat
  /-- How many digits stand before the point. -/
  point : Int
  deriving DecidableEq, Repr

/-- A positive fraction. -/
structure Fraction where
  /-- The numerator. -/
  num : Nat
  /-- The denominator. -/
  den : Nat
  deriving DecidableEq, Repr

/-- `n * 2 ^ e`. -/
def Fraction.scaleTwo (n : Nat) (e : Int) : Fraction :=
  if 0 ≤ e then ⟨n * Nat.pow 2 e.toNat, 1⟩ else ⟨n, Nat.pow 2 (-e).toNat⟩

/-- `n * 10 ^ e`. -/
def Fraction.scaleTen (n : Nat) (e : Int) : Fraction :=
  if 0 ≤ e then ⟨n * Nat.pow 10 e.toNat, 1⟩ else ⟨n, Nat.pow 10 (-e).toNat⟩

/-- Whether `a ≤ b`. -/
def Fraction.le (a b : Fraction) : Bool :=
  decide (a.num * b.den ≤ b.num * a.den)

/-- Whether `a < b`. -/
def Fraction.lt (a b : Fraction) : Bool :=
  decide (a.num * b.den < b.num * a.den)

/-- The least `k` in reach with `a < 10 ^ k`, upward from `k`. -/
def pointFrom (a : Fraction) : (steps : Nat) → (k : Int) → Int
  | 0, k => k
  | steps + 1, k => if a.lt (Fraction.scaleTen 1 k) then k else pointFrom a steps (k + 1)

/-- The number itself. -/
def Binary.value (x : Binary) : Fraction :=
  Fraction.scaleTwo (4 * x.mantissa) (x.exponent - 2)

/-- The upper end of the reals that round to the number. -/
def Binary.upper (x : Binary) : Fraction :=
  Fraction.scaleTwo (4 * x.mantissa + 2) (x.exponent - 2)

/-- The lower end: half a step below, or a quarter below a power of two, where the steps change. -/
def Binary.lower (x : Binary) : Fraction :=
  let gap := if x.mantissa = 0x10000000000000 ∧ -1074 < x.exponent then 1 else 2
  Fraction.scaleTwo (4 * x.mantissa - gap) (x.exponent - 2)

/-- Whether a real rounds to the number. The ends round to an even mantissa. -/
def Binary.covers (x : Binary) (r : Fraction) : Bool :=
  if x.mantissa % 2 = 0 then x.lower.le r && r.le x.upper else x.lower.lt r && r.lt x.upper

/-- The multiple of `10 ^ e` to be chosen for `x`: of the two around `x`, those that round to `x`,
and the nearer one if both do, the even one if both are as near. -/
def Binary.onGrid? (x : Binary) (e : Int) : Option Nat :=
  let v := x.value
  let unit := Fraction.scaleTen 1 e
  let below := v.num * unit.den / (v.den * unit.num)
  let covered := fun n => x.covers (Fraction.scaleTen n e)
  if covered below && covered (below + 1) then
    let twice := 2 * (v.num * unit.den)
    let middle := (2 * below + 1) * (v.den * unit.num)
    if twice < middle then some below
    else if middle < twice then some (below + 1)
    else some (if below % 2 = 0 then below else below + 1)
  else if covered below && decide (0 < below) then some below
  else if covered (below + 1) then some (below + 1)
  else none

/-- The digits of `n`, without zeros at the end. -/
def significantDigits (n : Nat) : List Nat :=
  ((Nat.toDigits 10 n).reverse.dropWhile (· == '0')).reverse.map fun c => c.toNat - 48

/-- The first grid, from `count` digits on, that holds a decimal for `x`. -/
def shortestFrom (x : Binary) (point : Int) : (tries count : Nat) → Numeral
  | 0, _ => ⟨[], point⟩
  | tries + 1, count =>
    match x.onGrid? (point - count) with
    | some n =>
      ⟨significantDigits n, point - count + (Nat.toDigits 10 n).length⟩
    | none => shortestFrom x point tries (count + 1)

/-- The shortest decimal that rounds to `x`, the nearest of those. -/
def shortest (x : Binary) : Numeral :=
  shortestFrom x (pointFrom x.value 700 (-330)) 18 1

/-! ### Writing decimals -/

/-- How a decimal is written. -/
structure NumberStyle where
  /-- The least place of the point that is written without an exponent. -/
  least : Int
  /-- The greatest such place. -/
  greatest : Int
  /-- Whether a whole number ends in a point and a zero. -/
  keepsPoint : Bool
  /-- Whether a positive exponent has a sign. -/
  signsExponent : Bool
  deriving DecidableEq, Repr

/-- A digit as a character. -/
def digitChar (d : Nat) : Char :=
  Char.ofNat (48 + d)

/-- The text of a decimal. -/
def NumberStyle.render (style : NumberStyle) (d : Numeral) : String :=
  let digits := d.digits.map digitChar
  let count := digits.length
  if 0 < d.point ∧ d.point ≤ style.greatest then
    if (count : Int) ≤ d.point then
      String.ofList (digits ++ List.replicate (d.point.toNat - count) '0') ++
        (if style.keepsPoint then ".0" else "")
    else
      String.ofList (digits.take d.point.toNat ++ ['.'] ++ digits.drop d.point.toNat)
  else if style.least ≤ d.point ∧ d.point ≤ 0 then
    String.ofList (['0', '.'] ++ List.replicate (-d.point).toNat '0' ++ digits)
  else
    let exponent := d.point - 1
    String.ofList (digits.take 1 ++ (if count = 1 then [] else '.' :: digits.drop 1)) ++ "e" ++
      (if style.signsExponent && decide (0 ≤ exponent) then "+" else "") ++ toString exponent

end Sandbox.Decimal
