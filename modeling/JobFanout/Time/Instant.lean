import JobFanout.Time.Date
/-!
Moments in universal time. `ofLocal?` brings a clock reading with an offset to universal time;
offsets are whole minutes of less than a day, so the day moves by one at most.
-/
namespace JobFanout

/-- A clock reading; second 60 is a leap second. -/
structure ClockTime where
  hour : Nat
  minute : Nat
  second : Nat
  nanosecond : Nat
  hour_lt : hour < 24
  minute_lt : minute < 60
  second_le : second ≤ 60
  nanosecond_lt : nanosecond < 1000000000
deriving DecidableEq

namespace ClockTime

def of? (hour minute second nanosecond : Nat) : Option ClockTime :=
  if h : hour < 24 ∧ minute < 60 ∧ second ≤ 60 ∧ nanosecond < 1000000000 then
    some ⟨hour, minute, second, nanosecond, h.1, h.2.1, h.2.2.1, h.2.2.2⟩
  else none

def minuteOfDay (time : ClockTime) : Nat := time.hour * 60 + time.minute

def atMinute (time : ClockTime) (minute : Nat) (inDay : minute < 1440) : ClockTime where
  hour := minute / 60
  minute := minute % 60
  second := time.second
  nanosecond := time.nanosecond
  hour_lt := by omega
  minute_lt := by omega
  second_le := time.second_le
  nanosecond_lt := time.nanosecond_lt

end ClockTime

structure Instant where
  date : Date
  time : ClockTime
deriving DecidableEq

namespace Instant

def minutesPerDay : Int := 1440

/-- `offset` is in minutes, east of universal time. Nothing past the first or last day. -/
def ofLocal? (date : Date) (time : ClockTime) (offset : Int) : Option Instant :=
  if offset = 0 then some ⟨date, time⟩
  else
    let minute := (time.minuteOfDay : Int) - offset
    let shifted := time.atMinute (minute % 1440).toNat (by omega)
    if minute < 0 then date.dayBefore?.map (⟨·, shifted⟩)
    else if minutesPerDay ≤ minute then date.dayAfter?.map (⟨·, shifted⟩)
    else some ⟨date, shifted⟩

end Instant
end JobFanout
