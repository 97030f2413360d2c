import Excerpt.Text.Blank

/-!
Binary floating-point numbers of 64 bits, as exact values. Reading a decimal takes the nearest such
number, ties to the even significand. Writing takes the fewest digits that read back, and the
nearest of those.
-/
namespace Excerpt

/-- A finite number is `significand * 2 ^ exponent`, with a sign of its own so that zero has two. -/
inductive Binary64 where
  | finite (negative : Bool) (significand : Nat) (exponent : Int)
  | infinite (negative : Bool)
  | notANumber
deriving DecidableEq, Repr

namespace Binary64

/-- The quotient rounded to the nearest whole number, ties to even. -/
def roundDiv (num den : Nat) : Nat :=
  let q := num / den
  let r := num % den
  if 2 * r > den || (2 * r == den && q % 2 == 1) then q + 1 else q

/-- The least exponent of a finite number. -/
def minExponent : Int := -1074

def maxExponent : Int := 971

/-- `num / den * 2 ^ -e`, rounded. -/
def scaled (num den : Nat) (e : Int) : Nat :=
  if e ≥ 0 then roundDiv num (den * Nat.pow 2 e.toNat)
  else roundDiv (num * Nat.pow 2 (-e).toNat) den

/-- The number nearest to `num / den`. -/
def ofQuotient (negative : Bool) (num den : Nat) : Binary64 :=
  if num == 0 then finite negative 0 minExponent
  else
    let guess : Int := (Nat.log2 num : Int) - (Nat.log2 den : Int) - 53
    let e₀ := max guess minExponent
    let m₀ := scaled num den e₀
    let e := if m₀ ≥ Nat.pow 2 53 then e₀ + 1 else e₀
    let m := scaled num den e
    let (m, e) := if m ≥ Nat.pow 2 53 then (Nat.pow 2 52, e + 1) else (m, e)
    if e > maxExponent then infinite negative else finite negative m e

/-- The number nearest to `digits * 10 ^ power`. -/
def ofDecimal (negative : Bool) (digits : Nat) (power : Int) : Binary64 :=
  let size : Int := (Nat.log2 (digits + 1) : Int) * 3 / 10
  if digits == 0 || size + power < -420 then finite negative 0 minExponent
  else if size + power > 320 then infinite negative
  else if power ≥ 0 then ofQuotient negative (digits * Nat.pow 10 power.toNat) 1
  else ofQuotient negative digits (Nat.pow 10 (-power).toNat)

/-- Decimal digits and the power of ten of the last one. -/
structure Decimal where
  digits : Nat
  power : Int
deriving DecidableEq, Repr

/-- Compares `a * 10 ^ p` with `n / d`. -/
def decimalCmp (a : Nat) (p : Int) (n d : Nat) : Ordering :=
  if p ≥ 0 then compare (a * Nat.pow 10 p.toNat * d) n
  else compare (a * d) (n * Nat.pow 10 (-p).toNat)

/-- The halfway points around `m * 2 ^ e`, and the value itself, over one denominator. -/
structure Neighbourhood where
  low : Nat
  value : Nat
  high : Nat
  den : Nat
  closed : Bool

def neighbourhood (m : Nat) (e : Int) : Neighbourhood :=
  let up := if e ≥ 0 then Nat.pow 2 e.toNat else 1
  let den := if e ≥ 0 then 4 else 4 * Nat.pow 2 (-e).toNat
  let narrow := m == Nat.pow 2 52 && e > minExponent
  { low := (4 * m - (if narrow then 1 else 2)) * up
    value := 4 * m * up
    high := (4 * m + 2) * up
    den
    closed := m % 2 == 0 }

def Neighbourhood.contains (b : Neighbourhood) (a : Nat) (p : Int) : Bool :=
  let lo := decimalCmp a p b.low b.den
  let hi := decimalCmp a p b.high b.den
  (lo == .gt || (b.closed && lo == .eq)) && (hi == .lt || (b.closed && hi == .eq))

/-- The largest multiple of `10 ^ p` not above the value, in units of `10 ^ p`. -/
def Neighbourhood.floorAt (b : Neighbourhood) (p : Int) : Nat :=
  if p ≥ 0 then b.value / (b.den * Nat.pow 10 p.toNat) else b.value * Nat.pow 10 (-p).toNat / b.den

/-- Is `a + 1` nearer to the value than `a`, in units of `10 ^ p`? A tie goes to the even one. -/
def Neighbourhood.upperNearer (b : Neighbourhood) (a : Nat) (p : Int) : Bool :=
  let mid := if p ≥ 0 then compare ((2 * a + 1) * Nat.pow 10 p.toNat * b.den) (2 * b.value)
    else compare ((2 * a + 1) * b.den) (2 * b.value * Nat.pow 10 (-p).toNat)
  mid == .lt || (mid == .eq && a % 2 == 1)

/-- The decimal on the grid of `10 ^ p` that reads back, if there is one; the nearer of two. -/
def Neighbourhood.onGrid? (b : Neighbourhood) (p : Int) : Option Nat :=
  let a := b.floorAt p
  match a != 0 && b.contains a p, b.contains (a + 1) p with
  | true, true => some (if b.upperNearer a p then a + 1 else a)
  | true, false => some a
  | false, true => some (a + 1)
  | false, false => none

/-- Tries ever finer grids, from `10 ^ p` down. -/
def Neighbourhood.shortest (b : Neighbourhood) : Nat → Int → Decimal
  | 0, p => ⟨b.floorAt p, p⟩
  | tries + 1, p =>
    match b.onGrid? p with
    | some a => ⟨a, p⟩
    | none => b.shortest tries (p - 1)

/-- The fewest digits that read back as `m * 2 ^ e`. -/
def shortestDecimal (m : Nat) (e : Int) : Decimal :=
  let b := neighbourhood m e
  let magnitude : Int := ((Nat.log2 m : Int) + e) * 30103 / 100000
  b.shortest 24 (magnitude + 2)

/-- Where positional notation begins and ends, as the exponent of the first digit. -/
def positional (exponent : Int) : Bool := -4 ≤ exponent && exponent < 16

/-- Drops the zeros at the end of a digit list. -/
def dropZeros (ds : Text) : Text := (ds.reverse.dropWhile (· == '0')).reverse

def exponentText (x : Int) : Text :=
  let digits := (toString x.natAbs).toList
  let padded := if digits.length < 2 then '0' :: digits else digits
  'e' :: (if x < 0 then '-' else '+') :: padded

def decimalText (d : Decimal) : Text :=
  let all := (toString d.digits).toList
  let ds := dropZeros all
  let exponent := d.power + (all.length : Int) - 1
  if positional exponent then
    if exponent < 0 then '0' :: '.' :: List.replicate (-exponent - 1).toNat '0' ++ ds
    else
      let whole := exponent.toNat + 1
      let front := ds.take whole
      let back := ds.drop whole
      front ++ List.replicate (whole - front.length) '0' ++ '.' :: (if back.isEmpty then ['0'] else back)
  else
    match ds with
    | [] => []
    | [c] => c :: exponentText exponent
    | c :: r => c :: '.' :: r ++ exponentText exponent

/-- The text of a number: shortest digits, positional from `1e-4` up to `1e16`, a point or an
exponent always there. -/
def text : Binary64 → Text
  | notANumber => ['n', 'a', 'n']
  | infinite negative => (if negative then ['-'] else []) ++ ['i', 'n', 'f']
  | finite negative m e =>
    (if negative then ['-'] else []) ++
      (if m == 0 then ['0', '.', '0'] else decimalText (shortestDecimal m e))

/-- The exact value as a sign and a quotient, for finite numbers. -/
def quotient? : Binary64 → Option (Int × Nat)
  | finite negative m e =>
    let num : Int := if negative then -(m : Int) else m
    some (if e ≥ 0 then (num * Nat.pow 2 e.toNat, 1) else (num, Nat.pow 2 (-e).toNat))
  | _ => none

/-- Equality of values: the zeros agree, and nothing equals the number that is none. -/
def valueEq (a b : Binary64) : Bool :=
  match a, b with
  | infinite x, infinite y => x == y
  | x, y =>
    match x.quotient?, y.quotient? with
    | some (n, d), some (m, k) => n * k == m * d
    | _, _ => false

/-- Equality with a whole number. -/
def eqInt (a : Binary64) (n : Int) : Bool :=
  match a.quotient? with
  | some (m, d) => m == n * d
  | none => false

def isZero : Binary64 → Bool
  | finite _ m _ => m == 0
  | _ => false

end Binary64

end Excerpt
