namespace SyncSchema

/-- The number `± digits · 10 ^ exponent`. The digits never end in zero, so no number has two forms. -/
structure Decimal where
  negative : Bool
  digits : Nat
  exponent : Int
  normal : digits % 10 ≠ 0 ∨ digits = 0 ∧ exponent = 0
deriving DecidableEq

namespace Decimal

def stripZeros (digits : Nat) (exponent : Int) : Nat × Int :=
  if digits = 0 then (0, 0)
  else if digits % 10 = 0 then stripZeros (digits / 10) (exponent + 1)
  else (digits, exponent)
termination_by digits
decreasing_by omega

theorem stripZeros_normal (digits : Nat) (exponent : Int) :
    (stripZeros digits exponent).1 % 10 ≠ 0 ∨
      (stripZeros digits exponent).1 = 0 ∧ (stripZeros digits exponent).2 = 0 := by
  fun_induction stripZeros digits exponent with
  | case1 => simp
  | case2 _ _ _ _ ih => exact ih
  | case3 _ _ _ last => exact .inl last

def ofParts (negative : Bool) (digits : Nat) (exponent : Int) : Decimal :=
  ⟨negative, (stripZeros digits exponent).1, (stripZeros digits exponent).2, stripZeros_normal _ _⟩

def zero (negative : Bool) : Decimal :=
  ⟨negative, 0, 0, .inr ⟨rfl, rfl⟩⟩

def exponentText (exponent : Int) : List Char :=
  let digits := Nat.toDigits 10 exponent.natAbs
  (if exponent < 0 then '-' else '+') :: (if digits.length < 2 then '0' :: digits else digits)

def positional (digits : List Char) (point : Int) : List Char :=
  if point ≤ 0 then '0' :: '.' :: (List.replicate (-point).toNat '0' ++ digits)
  else if point < digits.length then digits.take point.toNat ++ '.' :: digits.drop point.toNat
  else digits ++ List.replicate (point.toNat - digits.length) '0' ++ ['.', '0']

def scientific (digits : List Char) (point : Int) : List Char :=
  digits.take 1 ++ (if digits.length < 2 then [] else '.' :: digits.drop 1) ++
    'e' :: exponentText (point - 1)

def text (d : Decimal) : List Char :=
  let digits := Nat.toDigits 10 d.digits
  let point := digits.length + d.exponent
  (if d.negative then ['-'] else []) ++
    if -4 < point && point ≤ 16 then positional digits point else scientific digits point

end Decimal

end SyncSchema
