import TypedFilter.Calendar.Date

/-!
Times of day, and timestamps made of a day and a time.
-/

namespace TypedFilter

/-- A time of day. A leap second belongs to the last second of its minute, whose nanoseconds run on
from one billion. -/
structure Time where
  hour : Nat
  minute : Nat
  second : Nat
  nano : Nat
  hour_lt : hour < 24
  minute_lt : minute < 60
  second_lt : second < 60
  nano_lt : nano < if second = 59 then 2000000000 else 1000000000
  deriving DecidableEq

namespace Time

/-- The time with these numbers, if there is one. -/
def ofParts? (hour minute second nano : Nat) : Option Time :=
  if h : hour < 24 ∧ minute < 60 ∧ second < 60 ∧
      nano < if second = 59 then 2000000000 else 1000000000 then
    some ⟨hour, minute, second, nano, h.1, h.2.1, h.2.2.1, h.2.2.2⟩
  else none

/-- The start of the day. -/
def midnight : Time := ⟨0, 0, 0, 0, by decide, by decide, by decide, by decide⟩

/-- The order of two times. -/
def compare (a b : Time) : Ordering :=
  (Ord.compare a.hour b.hour).then ((Ord.compare a.minute b.minute).then
    ((Ord.compare a.second b.second).then (Ord.compare a.nano b.nano)))

theorem compare_swap (a b : Time) : b.compare a = (a.compare b).swap := by
  unfold compare
  rw [Ordering.swap_then, Ordering.swap_then, Ordering.swap_then,
    Std.OrientedOrd.eq_swap (a := b.hour), Std.OrientedOrd.eq_swap (a := b.minute),
    Std.OrientedOrd.eq_swap (a := b.second), Std.OrientedOrd.eq_swap (a := b.nano)]

end Time

/-- A day and a time of that day. -/
structure Timestamp where
  date : Date
  time : Time
  deriving DecidableEq

namespace Timestamp

/-- The order of two timestamps. -/
def compare (a b : Timestamp) : Ordering :=
  (a.date.compare b.date).then (a.time.compare b.time)

/-- The timestamp so many milliseconds after the start of 1970. -/
def ofMillis? (millis : Int) : Option Timestamp :=
  let second := (millis / 1000 % 86400).toNat
  (Date.ofDayNumber? (millis / 86400000)).bind fun date =>
    (Time.ofParts? (second / 3600) (second / 60 % 60) (second % 60)
      ((millis % 1000).toNat * 1000000)).map fun time => ⟨date, time⟩

theorem compare_swap (a b : Timestamp) : b.compare a = (a.compare b).swap := by
  unfold compare
  rw [Ordering.swap_then, Date.compare_swap, Time.compare_swap]

end Timestamp

end TypedFilter
