import ArgosCyberTools.Python.Text

/-!
# Datetimes

A `datetime` is a wall-clock reading together with an optional UTC offset;
without one it is naive.  Comparing a naive and an aware value raises, and
arithmetic that leaves the years 1 to 9999 overflows.  A timezone is
represented by the offset it gives to the reading.
-/

namespace Python

/-- Microseconds between `datetime.min` and the end of the year 9999. -/
def wallClockEnd : Nat := 315537897600000000

/-- Microseconds in `timedelta(minutes=1)`. -/
def oneMinute : Nat := 60000000

/-- A `datetime.datetime`, counted in microseconds from `datetime.min`. -/
structure PyDateTime where
  wallClock : Nat
  utcOffset : Option Int
  inRange : wallClock < wallClockEnd
deriving DecidableEq

namespace PyDateTime

/-- `self.tzinfo is not None`. -/
def isAware (moment : PyDateTime) : Bool := moment.utcOffset.isSome

/-- The point in time an aware value denotes, in microseconds of UTC. -/
def instant (moment : PyDateTime) : Int :=
  moment.wallClock - moment.utcOffset.getD 0

/-- `left > right`. -/
def gt (left right : PyDateTime) : Except BuiltinError Bool :=
  if left.isAware = right.isAware then
    .ok (decide (right.instant < left.instant))
  else
    .error .typeError

/-- `moment - timedelta(minutes=1)`. -/
def minusMinute (moment : PyDateTime) : Except BuiltinError PyDateTime :=
  if oneMinute ≤ moment.wallClock then
    .ok
      { moment with
        wallClock := moment.wallClock - oneMinute
        inRange := lt_of_le_of_lt (Nat.sub_le _ _) moment.inRange }
  else
    .error .overflowError

theorem gt_eq_ok_iff {left right : PyDateTime} {answer : Bool} :
    left.gt right = .ok answer ↔
      left.isAware = right.isAware ∧
        answer = decide (right.instant < left.instant) := by
  unfold gt
  split_ifs with same <;> simp [same, eq_comm]

theorem gt_of_isAware_eq {left right : PyDateTime}
    (same : left.isAware = right.isAware) :
    left.gt right = .ok (decide (right.instant < left.instant)) := by
  simp [gt, same]

theorem minusMinute_isAware {moment earlier : PyDateTime}
    (result : moment.minusMinute = .ok earlier) :
    earlier.isAware = moment.isAware := by
  unfold minusMinute at result
  split_ifs at result with early
  simp only [← Except.ok.inj result, isAware]

/-- One minute earlier, on the same clock. -/
theorem exists_minusMinute {moment : PyDateTime}
    (late : oneMinute ≤ moment.wallClock) :
    ∃ earlier, moment.minusMinute = .ok earlier ∧
      earlier.isAware = moment.isAware ∧
      earlier.instant = moment.instant - oneMinute := by
  simp only [minusMinute, if_pos late, Except.ok.injEq, exists_eq_left']
  constructor
  · simp only [isAware]
  · simp only [instant]
    omega

end PyDateTime

end Python
