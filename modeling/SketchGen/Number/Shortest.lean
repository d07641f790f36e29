import SketchGen.Number.Binary64

namespace SketchGen.Number

/-! The shortest decimal of a positive double. The reals that round to `q · 2 ^ t` form an
interval around it, with both ends included exactly when `q` is even. For one digit, then two,
and so on, the two neighbours of the value on the grid of that many significant digits are
tested; the first grid with a neighbour inside the interval gives the digits, the nearer
neighbour when both are inside, and the even one on an exact tie. Seventeen digits always
suffice. -/

def compareScaled (a : Nat) (i : Int) (b : Nat) (j : Int) : Ordering :=
  let lhs := a * Nat.pow 10 i.toNat * Nat.pow 2 (-j).toNat
  let rhs := b * Nat.pow 2 j.toNat * Nat.pow 10 (-i).toNat
  compare lhs rhs

def powTenLe (k : Int) (q : Nat) (t : Int) : Bool :=
  compareScaled 1 k q t != .gt

/-- The largest `k` with `10 ^ k ≤ q · 2 ^ t`, for positive `q`. The estimate from the binary
length is off by at most one either way. -/
def floorLog10 (q : Nat) (t : Int) : Int :=
  let k : Int := (q.log2 : Int) + t
  let guess := (k * 30103) / 100000
  if powTenLe (guess + 1) q t then
    if powTenLe (guess + 2) q t then guess + 2 else guess + 1
  else if powTenLe guess q t then guess else guess - 1

/-- The rounding interval of `q · 2 ^ t`, in units of `2 ^ (t - 2)`: its low end, its high end,
and whether the ends belong to it. The gap below is halved at a power of two above the
subnormal range. -/
def roundingInterval (q : Nat) (t : Int) : Nat × Nat × Bool :=
  let below := if q = Nat.pow 2 52 ∧ t > Binary64.minExponent then 1 else 2
  (4 * q - below, 4 * q + 2, q % 2 == 0)

def roundsTo (q : Nat) (t : Int) (d : Nat) (e : Int) : Bool :=
  let (lo, hi, closed) := roundingInterval q t
  match compareScaled d e lo (t - 2), compareScaled d e hi (t - 2) with
  | .gt, .lt => true
  | .eq, .lt => closed
  | .gt, .eq => closed
  | _, _ => false

/-- The neighbour of `q · 2 ^ t` on the grid `10 ^ e` from below, and whether it is the value
itself. -/
def gridFloor (q : Nat) (t : Int) (e : Int) : Nat × Bool :=
  let num := q * Nat.pow 2 t.toNat * Nat.pow 10 (-e).toNat
  let den := Nat.pow 2 (-t).toNat * Nat.pow 10 e.toNat
  (num / den, num % den == 0)

/-- The grid neighbour of `q · 2 ^ t` to choose on the grid `10 ^ e`, when both of `lo` and
`lo + 1` read back: the nearer one, the even one on a tie. -/
def nearerNeighbour (q : Nat) (t : Int) (e : Int) (lo : Nat) : Nat :=
  match compareScaled (2 * lo + 1) e (8 * q) (t - 2) with
  | .gt => lo
  | .lt => lo + 1
  | .eq => if lo % 2 = 0 then lo else lo + 1

def digitsOnGrid (q : Nat) (t : Int) (e : Int) : Option Nat :=
  let (lo, exact) := gridFloor q t e
  if exact then some lo
  else
    match roundsTo q t lo e, roundsTo q t (lo + 1) e with
    | true, true => some (nearerNeighbour q t e lo)
    | true, false => some lo
    | false, true => some (lo + 1)
    | false, false => none

/-- The first grid from `p` significant digits up to seventeen that has a neighbour reading
back; seventeen digits take the nearer neighbour. -/
def shortestFrom (q : Nat) (t : Int) (top : Int) : Nat → Nat → Nat × Int
  | 0, p =>
    let e := top - p + 1
    (nearerNeighbour q t e (gridFloor q t e).1, e)
  | fuel + 1, p =>
    let e := top - p + 1
    match digitsOnGrid q t e with
    | some d => (d, e)
    | none => shortestFrom q t top fuel (p + 1)

/-- The fewest significant digits that read back as `q · 2 ^ t` (positive), as a number and
the power of ten of its last digit. -/
def shortestDigits (q : Nat) (t : Int) : Nat × Int :=
  shortestFrom q t (floorLog10 q t) 16 1

def dropTrailingZeros (s : List Char) : List Char × Nat :=
  let kept := (s.reverse.dropWhile (· = '0')).reverse
  (kept, s.length - kept.length)

/-- The significant digits of a positive double, without trailing zeros, and the position of
the decimal point relative to the first digit: the value is `0.d₁d₂… · 10 ^ point`. -/
def Binary64.decimalDigits (q : Nat) (t : Int) : List Char × Int :=
  let (d, e) := shortestDigits q t
  let s := Nat.toDigits 10 d
  let (kept, _) := dropTrailingZeros s
  (kept, e + s.length)

example : Binary64.decimalDigits 6755399441055744 (-52) = (['1', '5'], 1) := by rfl
example : Binary64.decimalDigits 1 (-1074) = (['5'], -323) := by decide +kernel

end SketchGen.Number
