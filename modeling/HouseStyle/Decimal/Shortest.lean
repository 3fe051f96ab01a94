import HouseStyle.Decimal.Double

/-!
The fewest decimal digits that read back as a number, of equally many the nearest, and how they are written:
positionally from a ten-thousandth up to ten to the sixteenth, with a power of ten otherwise.
-/

set_option autoImplicit false
namespace HouseStyle.Double

structure Decimal where
  digits : Nat
  power : Int
  deriving DecidableEq, Repr

def Quotient.le (a b : Quotient) : Bool := a.top * b.bottom ≤ b.top * a.bottom

def Quotient.lt (a b : Quotient) : Bool := a.top * b.bottom < b.top * a.bottom

def Decimal.quotient (d : Decimal) : Quotient := Quotient.scale ⟨d.digits, 1⟩ 10 d.power

/-- The numbers that round to a significand and power: their ends, and whether the ends are among them. -/
structure Basin where
  low : Quotient
  high : Quotient
  closed : Bool

def basin (significand : Nat) (power : Int) : Basin :=
  let quarters (n : Nat) : Quotient := Quotient.scale ⟨n, 1⟩ 2 (power - 2)
  -- the number below a power of two is only half as far away
  let below := if significand == fullLength && power > lowestPower then 1 else 2
  ⟨quarters (4 * significand - below), quarters (4 * significand + 2), significand % 2 == 0⟩

def Basin.holds (b : Basin) (q : Quotient) : Bool :=
  if b.closed then b.low.le q && q.le b.high else b.low.lt q && q.lt b.high

/-- The least power of ten above a number. -/
def decimalPlace (q : Quotient) : Int :=
  let places := (List.range 700).map fun n => Int.ofNat n - 340
  (places.find? fun place => q.lt (Quotient.scale ⟨1, 1⟩ 10 place)).getD 0

/-- Of the two neighbours with so many digits, the nearest that reads back. -/
def withDigits (b : Basin) (q : Quotient) (place : Int) (count : Nat) : Option Decimal :=
  let power := place - count
  let scaled := q.scale 10 (-power)
  let low := scaled.top / scaled.bottom
  let nearest := scaled.nearest
  let other := if nearest == low then low + 1 else low
  let reads (digits : Nat) : Bool := digits != 0 && b.holds (Decimal.quotient ⟨digits, power⟩)
  if reads nearest then some ⟨nearest, power⟩
  else if reads other then some ⟨other, power⟩
  else none

def Decimal.trimmed : Nat → Decimal → Decimal
  | 0, d => d
  | fuel + 1, d => if d.digits % 10 == 0 then trimmed fuel ⟨d.digits / 10, d.power + 1⟩ else d

def shortest (significand : Nat) (power : Int) : Decimal :=
  let q := Quotient.scale ⟨significand, 1⟩ 2 power
  let found := (List.range 17).findSome? fun n =>
    withDigits (basin significand power) q (decimalPlace q) (n + 1)
  (found.getD ⟨significand, 0⟩).trimmed 20

def zeros (count : Int) : String := String.ofList (List.replicate count.toNat '0')

def positional (d : Decimal) : String :=
  let digits := toString d.digits
  let point := (digits.length : Int) + d.power
  if 0 ≤ d.power then digits ++ zeros d.power ++ ".0"
  else if point ≤ 0 then "0." ++ zeros (-point) ++ digits
  else
    String.ofList (digits.toList.take point.toNat) ++ "." ++ String.ofList (digits.toList.drop point.toNat)

def scientific (d : Decimal) : String :=
  let digits := (toString d.digits).toList
  let power := d.power + digits.length - 1
  String.ofList (digits.take 1) ++
    (if digits.length > 1 then "." ++ String.ofList (digits.drop 1) else "") ++ "e" ++ toString power

def positionalPlaces : Int := 16

def positionalZeros : Int := -4

def text : Double → String
  | .nan => "NaN"
  | .infinite negative => if negative then "-inf" else "inf"
  | .finite negative significand power =>
    let sign := if negative then "-" else ""
    if significand == 0 then sign ++ "0.0"
    else
      let decimal := shortest significand power
      let point := ((toString decimal.digits).length : Int) + decimal.power
      sign ++ if positionalZeros < point && point ≤ positionalPlaces then positional decimal
        else scientific decimal

end HouseStyle.Double
