/-! Dates, times and offsets, and how they are written. -/

set_option autoImplicit false
namespace HouseStyle.Toml

structure Date where
  year : Nat
  month : Nat
  day : Nat
  deriving DecidableEq, Repr

structure Time where
  hour : Nat
  minute : Nat
  second : Nat
  nanosecond : Nat
  deriving DecidableEq, Repr

inductive Offset where
  | universal
  | minutes (negative : Bool) (count : Nat)
  deriving DecidableEq, Repr

inductive Datetime where
  | date (date : Date)
  | time (time : Time)
  | dated (date : Date) (time : Time) (offset : Option Offset)
  deriving DecidableEq, Repr

def isLeap (year : Nat) : Bool :=
  year % 4 == 0 && (year % 100 != 0 || year % 400 == 0)

def daysIn (year month : Nat) : Nat :=
  if month == 2 then (if isLeap year then 29 else 28)
  else if [4, 6, 9, 11].contains month then 30
  else 31

def padded (width n : Nat) : String :=
  let digits := toString n
  String.ofList (List.replicate (width - digits.length) '0') ++ digits

def Date.text (d : Date) : String :=
  padded 4 d.year ++ "-" ++ padded 2 d.month ++ "-" ++ padded 2 d.day

/-- A fraction is written without zeros at its end. -/
def Time.text (t : Time) : String :=
  let fraction := ((padded 9 t.nanosecond).toList.reverse.dropWhile (· == '0')).reverse
  padded 2 t.hour ++ ":" ++ padded 2 t.minute ++ ":" ++ padded 2 t.second ++
    if fraction.isEmpty then "" else "." ++ String.ofList fraction

def Offset.text : Offset → String
  | universal => "Z"
  | minutes negative count =>
    (if negative && count != 0 then "-" else "+") ++ padded 2 (count / 60) ++ ":" ++ padded 2 (count % 60)

def Datetime.text : Datetime → String
  | date d => d.text
  | time t => t.text
  | dated d t offset => d.text ++ "T" ++ t.text ++ (offset.map Offset.text).getD ""

end HouseStyle.Toml
