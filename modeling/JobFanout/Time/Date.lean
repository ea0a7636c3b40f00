/-!
Calendar days, leap years by the Gregorian rule throughout, and the days beside them.
-/
namespace JobFanout

def isLeap (year : Int) : Bool := year % 4 = 0 && (year % 100 ≠ 0 || year % 400 = 0)

def daysIn (year : Int) : Nat → Nat
  | 2 => if isLeap year then 29 else 28
  | 4 | 6 | 9 | 11 => 30
  | _ => 31

def earliestYear : Int := -262143
def latestYear : Int := 262142

structure Date where
  year : Int
  month : Nat
  day : Nat
  year_in_range : earliestYear ≤ year ∧ year ≤ latestYear
  month_in_range : 1 ≤ month ∧ month ≤ 12
  day_in_range : 1 ≤ day ∧ day ≤ daysIn year month
deriving DecidableEq

namespace Date

def of? (year : Int) (month day : Nat) : Option Date :=
  if years : earliestYear ≤ year ∧ year ≤ latestYear then
    if months : 1 ≤ month ∧ month ≤ 12 then
      if days : 1 ≤ day ∧ day ≤ daysIn year month then
        some ⟨year, month, day, years, months, days⟩
      else none
    else none
  else none

def dayAfter? (date : Date) : Option Date :=
  if date.day < daysIn date.year date.month then of? date.year date.month (date.day + 1)
  else if date.month < 12 then of? date.year (date.month + 1) 1
  else of? (date.year + 1) 1 1

def dayBefore? (date : Date) : Option Date :=
  if 1 < date.day then of? date.year date.month (date.day - 1)
  else if 1 < date.month then
    of? date.year (date.month - 1) (daysIn date.year (date.month - 1))
  else of? (date.year - 1) 12 31

end Date
end JobFanout
