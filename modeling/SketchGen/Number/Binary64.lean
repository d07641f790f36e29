namespace SketchGen.Number

/-! Double-precision numbers as exact values. A finite double is `± s · 2 ^ e` with a
significand below `2 ^ 53`; it is normal when the significand has 53 bits, and otherwise its
exponent is the least one, `-1074`. Reading a decimal rounds the exact quotient to the nearest
double, a tie going to the even significand, and a magnitude of `2 ^ 1024` or more after
rounding is infinite. -/

/-- A double-precision value. -/
inductive Binary64 where
  | finite (negative : Bool) (significand : Nat) (exponent : Int)
  | infinite (negative : Bool)
  | nan
deriving Repr, DecidableEq, Inhabited

def Binary64.minExponent : Int := -1074

def Binary64.maxExponent : Int := 971

def Binary64.zero (negative : Bool) : Binary64 := .finite negative 0 Binary64.minExponent

def powTwoLe (k : Int) (num den : Nat) : Bool :=
  if 0 ≤ k then den * Nat.pow 2 k.toNat ≤ num else den ≤ num * Nat.pow 2 (-k).toNat

def floorLog2 (num den : Nat) : Int :=
  let k : Int := (num.log2 : Int) - den.log2
  if powTwoLe k num den then k else k - 1

def roundHalfEven (num den : Nat) : Nat :=
  let q := num / den
  let r := num % den
  if 2 * r > den ∨ (2 * r = den ∧ q % 2 = 1) then q + 1 else q

def Binary64.nearest (negative : Bool) (num den : Nat) : Binary64 :=
  if num = 0 then Binary64.zero negative
  else
    let t := max (floorLog2 num den - 52) Binary64.minExponent
    let q :=
      if 0 ≤ t then roundHalfEven num (den * Nat.pow 2 t.toNat)
      else roundHalfEven (num * Nat.pow 2 (-t).toNat) den
    let (q, t) := if q = Nat.pow 2 53 then (Nat.pow 2 52, t + 1) else (q, t)
    if t > Binary64.maxExponent then .infinite negative else .finite negative q t

def decimalLength (n : Nat) : Nat := (Nat.toDigits 10 n).length

/-- The double nearest to `± m · 10 ^ e`. Magnitudes that are certainly beyond the largest
double, or below half the least one, are settled before any power is formed. -/
def Binary64.ofDecimal (negative : Bool) (m : Nat) (e : Int) : Binary64 :=
  if m = 0 then Binary64.zero negative
  else
    let top := (decimalLength m : Int) + e
    if top > 309 then .infinite negative
    else if top < -324 then Binary64.zero negative
    else if 0 ≤ e then Binary64.nearest negative (m * Nat.pow 10 e.toNat) 1
    else Binary64.nearest negative m (Nat.pow 10 (-e).toNat)

example : Binary64.ofDecimal false 15 (-1) = .finite false 6755399441055744 (-52) := by decide
example : Binary64.ofDecimal false 1 400 = .infinite false := by decide

end SketchGen.Number
