import SketchGen.Number.Shortest

namespace SketchGen.Number

/-! The text of a double. The shortest digits are written positionally when the decimal point
falls within a window around the first digit, and otherwise as one digit, the rest after a
point, and a signed exponent. The choices of the window, the exponent's form and the words
for the special values are one record. -/

/-- How a double is spelled. -/
structure FloatStyle where
  lowestPoint : Int
  highestPoint : Int
  exponentMark : String
  exponentMinDigits : Nat
  pointZero : Bool
  infinity : String
  notANumber : String

/-- Points from `-3` to `16` are positional; the exponent has a sign and at least two digits; a
whole number ends in `.0`; the special values are `inf` and `nan`. -/
def FloatStyle.shortest : FloatStyle :=
  ⟨-4, 16, "e", 2, true, "inf", "nan"⟩

def padDigits (width n : Nat) : String :=
  let s := Nat.toDigits 10 n
  String.ofList (List.replicate (width - s.length) '0' ++ s)

def positional (style : FloatStyle) (ds : List Char) (point : Int) : String :=
  if point ≤ 0 then
    "0." ++ String.ofList (List.replicate (-point).toNat '0' ++ ds)
  else if ds.length ≤ point.toNat then
    String.ofList (ds ++ List.replicate (point.toNat - ds.length) '0') ++
      (if style.pointZero then ".0" else "")
  else
    String.ofList (ds.take point.toNat) ++ "." ++ String.ofList (ds.drop point.toNat)

def scientific (style : FloatStyle) (ds : List Char) (point : Int) : String :=
  let mantissa := match ds with
    | [] => "0"
    | [d] => String.ofList [d]
    | d :: rest => String.ofList (d :: '.' :: rest)
  let exp := point - 1
  mantissa ++ style.exponentMark ++ (if exp < 0 then "-" else "+") ++
    padDigits style.exponentMinDigits exp.natAbs

def Binary64.textIn (style : FloatStyle) : Binary64 → String
  | .nan => style.notANumber
  | .infinite neg => (if neg then "-" else "") ++ style.infinity
  | .finite neg q t =>
    let sign := if neg then "-" else ""
    if q = 0 then sign ++ positional style ['0'] 1
    else
      let (ds, point) := Binary64.decimalDigits q t
      if style.lowestPoint < point ∧ point ≤ style.highestPoint then sign ++ positional style ds point
      else sign ++ scientific style ds point

def Binary64.text (x : Binary64) : String := x.textIn FloatStyle.shortest

example : (Binary64.ofDecimal false 15 299).text = "1.5e+300" := by decide +kernel
example : (Binary64.ofDecimal false 1 (-5)).text = "1e-05" := by rfl
example : (Binary64.ofDecimal true 0 0).text = "-0.0" := by rfl

end SketchGen.Number
