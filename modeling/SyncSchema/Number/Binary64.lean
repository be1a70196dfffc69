import SyncSchema.Number.Decimal

namespace SyncSchema.Binary64

def roundQuotient (num den : Nat) : Nat :=
  let quotient := num / den
  let twice := 2 * (num % den)
  if den < twice || twice == den && quotient % 2 == 1 then quotient + 1 else quotient

def scale (num den : Nat) (shift : Int) : Nat × Nat :=
  if 0 ≤ shift then (num <<< shift.toNat, den) else (num, den <<< (-shift).toNat)

/--
The nearest `m · 2 ^ q` to the positive fraction `num / den`, with `m < 2 ^ 53` and `-1074 ≤ q`;
none beyond the largest finite number.
-/
def round? (num den : Nat) : Option (Nat × Int) :=
  let estimate : Int := num.log2 - den.log2
  let (a, b) := scale num den (-estimate)
  let top := if a < b then estimate - 1 else estimate
  let q := max (-1074) (top - 52)
  let (a, b) := scale num den (-q)
  let m := roundQuotient a b
  let (m, q) := if m == 1 <<< 53 then (1 <<< 52, q + 1) else (m, q)
  if 971 < q then none else some (m, q)

structure Grid where
  value : Nat
  low : Nat
  high : Nat
  closed : Bool
  spacing : Nat

/-- A quarter of the last binary place is the unit, so both ends of the rounding interval are whole. -/
def grid (m : Nat) (q t : Int) : Grid :=
  let (unit, below) := scale 1 1 (q - 2)
  let (tens, divisor) := if 0 ≤ t then (Nat.pow 10 t.toNat, 1) else (1, Nat.pow 10 (-t).toNat)
  let under := if m == 1 <<< 52 && -1074 < q then 1 else 2
  let place (quarters : Nat) := quarters * unit * divisor
  ⟨place (4 * m), place (4 * m - under), place (4 * m + 2), m % 2 == 0, tens * below⟩

def Grid.holds (g : Grid) (k : Nat) : Bool :=
  let x := k * g.spacing
  k != 0 && if g.closed then g.low ≤ x && x ≤ g.high else g.low < x && x < g.high

def Grid.best? (g : Grid) : Option Nat :=
  let k := g.value / g.spacing
  match g.holds k, g.holds (k + 1) with
  | true, false => some k
  | false, true => some (k + 1)
  | false, false => none
  | true, true =>
    let down := g.value - k * g.spacing
    let up := (k + 1) * g.spacing - g.value
    if down < up || down == up && k % 2 == 0 then some k else some (k + 1)

def search (m : Nat) (q : Int) : Nat → Int → Nat × Int
  | 0, t => (m <<< q.toNat, t)
  | steps + 1, t =>
    match (grid m q t).best? with
    | some k => (k, t)
    | none => search m q steps (t - 1)

/-- Digits and exponent of the shortest decimal that rounds to `m · 2 ^ q`. Seventeen digits always do. -/
def shortest (m : Nat) (q : Int) : Nat × Int :=
  search m q 21 ((m.log2 + q + 1) * 30103 / 100000 + 1)

end Binary64

inductive Floating where
  | finite (value : Decimal)
  | infinite (negative : Bool)
  | nan
deriving DecidableEq

namespace Floating

def fraction (digits : Nat) (exponent : Int) : Nat × Nat :=
  if 0 ≤ exponent then (digits * Nat.pow 10 exponent.toNat, 1) else (digits, Nat.pow 10 (-exponent).toNat)

def nearest (negative : Bool) (num den : Nat) : Floating :=
  if num = 0 then finite (.zero negative)
  else
    match Binary64.round? num den with
    | none => infinite negative
    | some (m, q) =>
      if m = 0 then finite (.zero negative)
      else
        let (digits, exponent) := Binary64.shortest m q
        finite (.ofParts negative digits exponent)

def ofParts (negative : Bool) (digits : Nat) (exponent : Int) : Floating :=
  let size := (Nat.toDigits 10 digits).length + exponent
  if digits = 0 || size < -400 then finite (.zero negative)
  else if 400 < size then infinite negative
  else
    let (num, den) := fraction digits exponent
    nearest negative num den

def exact (d : Decimal) : Int × Nat :=
  let (num, den) := fraction d.digits d.exponent
  let (num, den) :=
    match Binary64.round? num den with
    | some (m, q) => Binary64.scale m 1 q
    | none => (num, den)
  (if d.negative then -num else num, den)

def add : Floating → Floating → Floating
  | finite a, finite b =>
    let (m, d) := exact a
    let (n, e) := exact b
    let sum := m * e + n * d
    nearest (decide (sum < 0) || a.negative && b.negative) sum.natAbs (d * e)
  | infinite a, infinite b => if a = b then infinite a else nan
  | infinite a, finite _ | finite _, infinite a => infinite a
  | _, _ => nan

def times (n : Nat) : Floating → Floating
  | finite a =>
    let (m, d) := exact a
    nearest a.negative (m.natAbs * n) d
  | x => x

def negate : Floating → Floating
  | finite a => finite { a with negative := !a.negative }
  | infinite negative => infinite !negative
  | nan => nan

def text (infinity notANumber : List Char) : Floating → List Char
  | finite d => d.text
  | infinite negative => (if negative then ['-'] else []) ++ infinity
  | nan => notANumber

end Floating

end SyncSchema
