/-!
Numbers of double precision as exact integers: a sign, a significand below `2 ^ 53` and a power of two.
A decimal becomes the nearest such number, of two equally near ones the one with the even significand.
-/

set_option autoImplicit false
namespace HouseStyle

inductive Double where
  /-- The significand times two to the power. -/
  | finite (negative : Bool) (significand : Nat) (power : Int)
  | infinite (negative : Bool)
  | nan
  deriving DecidableEq, Repr

namespace Double

structure Quotient where
  top : Nat
  bottom : Nat
  deriving DecidableEq, Repr

def Quotient.scale (q : Quotient) (base : Nat) (power : Int) : Quotient :=
  if 0 ≤ power then ⟨q.top * Nat.pow base power.toNat, q.bottom⟩
  else ⟨q.top, q.bottom * Nat.pow base (-power).toNat⟩

/-- The nearest natural number, a half to the even one. -/
def Quotient.nearest (q : Quotient) : Nat :=
  let whole := q.top / q.bottom
  let twice := 2 * (q.top % q.bottom)
  if twice > q.bottom || (twice == q.bottom && whole % 2 == 1) then whole + 1 else whole

def lowestPower : Int := -1074

def fullLength : Nat := Nat.pow 2 52

/-- The power of two that leaves a significand of full length, or the lowest there is. -/
def powerOf (q : Quotient) : Int :=
  let guess := (Nat.log2 q.top : Int) - Nat.log2 q.bottom - 52
  let scaled := q.scale 2 (-guess)
  -- the guess is one too high at most
  let power := if scaled.top < fullLength * scaled.bottom then guess - 1 else guess
  if power < lowestPower then lowestPower else power

def ofQuotient (negative : Bool) (q : Quotient) : Double :=
  if q.top == 0 then .finite negative 0 lowestPower
  else
    let power := powerOf q
    let significand := (q.scale 2 (-power)).nearest
    -- rounding up may make it one binary digit longer
    let (significand, power) :=
      if significand == 2 * fullLength then (fullLength, power + 1) else (significand, power)
    if power > 971 then .infinite negative else .finite negative significand power

/-- Decimals above ten to this power are infinite, and those below its inverse zero. -/
def decimalReach : Int := 400

def ofDecimal (negative : Bool) (digits : Nat) (power : Int) : Double :=
  let reach := power + (toString digits).length
  if digits == 0 || reach < -decimalReach then .finite negative 0 lowestPower
  else if reach > decimalReach then .infinite negative
  else ofQuotient negative (Quotient.scale ⟨digits, 1⟩ 10 power)

end Double
end HouseStyle
