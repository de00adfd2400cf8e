import HomePortal.Value.Basic
/-!
Days counted by the calendar, and the points in time that moments with an offset name.
-/

namespace HomePortal

def daysInMonth (year month : Nat) : Nat :=
  if month == 2 then
    if year % 4 == 0 && (year % 100 != 0 || year % 400 == 0) then 29 else 28
  else if [4, 6, 9, 11].contains month then 30
  else 31

namespace Moment

def dayNumber (m : Moment) : Nat :=
  let years := m.year - 1
  let months := (List.range (m.month - 1)).foldl (fun n k => n + daysInMonth m.year (k + 1)) 0
  365 * years + years / 4 - years / 100 + years / 400 + months + m.day

/-- The microseconds from the first day on in universal time, if the offset is known. -/
def instant? (m : Moment) : Option Int :=
  m.clock.bind fun c => c.offset.map fun offset =>
    let seconds : Int := m.dayNumber * 86400 + c.hour * 3600 + c.minute * 60 + c.second - offset
    seconds * 1000000 + c.micro

def same (m n : Moment) : Bool :=
  match m.instant?, n.instant? with
  | some a, some b => a == b
  | _, _ => m == n

end Moment

end HomePortal
