import ArgosCyberTools.Python.Runtime

/-!
# A reference runtime

One computable instance of the interpreter's tables, with which the model
can be run: timestamps of the form `2026-01-31T12:00:00+00:00`, with or
without the offset, ASCII character classes, and floats that denote an
integer below 10^16.  It reads and writes these as the interpreter does and
refuses every other timestamp.
-/

namespace Python.Reference

/-! ## Civil dates -/

/-- Days from 1 January of the year 1 to 1 January of `year`. -/
def daysBeforeYear (year : Nat) : Nat :=
  let past := year - 1
  past * 365 + past / 4 - past / 100 + past / 400

def isLeap (year : Nat) : Bool :=
  year % 4 = 0 && (year % 100 ≠ 0 || year % 400 = 0)

def monthLengths (year : Nat) : List Nat :=
  [31, if isLeap year then 29 else 28, 31, 30, 31, 30, 31, 31, 30, 31, 30,
    31]

/-- The wall clock of a civil time of day, in microseconds. -/
def wallClockOf (year month day hour minute second : Nat) : Nat :=
  let days := daysBeforeYear year +
    ((monthLengths year).take (month - 1)).sum + (day - 1)
  (((days * 24 + hour) * 60 + minute) * 60 + second) * 1000000

/-- The month and day of the zero-based day of a year. -/
def monthAndDay : List Nat → Nat → Nat × Nat
  | [], day => (1, day + 1)
  | length :: rest, day =>
      if day < length then (1, day + 1)
      else
        let later := monthAndDay rest (day - length)
        (later.1 + 1, later.2)

/-- The year of a day counted from 1 January of the year 1. -/
def yearOf (days : Nat) : Nat :=
  let guess := days / 366 + 1
  (List.range 30).foldl
    (fun year _ => if daysBeforeYear (year + 1) ≤ days then year + 1 else year)
    guess

/-! ## Reading and writing -/

def digitValue (point : CodePoint) : Option Nat :=
  if 0x30 ≤ point.val ∧ point.val ≤ 0x39 then some (point.val - 0x30)
  else none

def readNumber (digits : PyStr) : Option Nat :=
  digits.foldlM
    (fun number point => (digitValue point).map (number * 10 + ·)) 0

/-- The digits of `text` in a field of the fixed layout. -/
def readPart (text : PyStr) (start length : Nat) : Option Nat :=
  readNumber ((text.drop start).take length)

/-- The separators of the fixed layout. -/
def separators (text : PyStr) : List (Option CodePoint) :=
  [text[4]?, text[7]?, text[10]?, text[13]?, text[16]?]

/-- The offset in microseconds, `none` when there is none. -/
def readOffset (suffix : PyStr) : Option (Option Int) :=
  if suffix = [] then some none
  else if suffix = ("+00:00" : PyStr) then some (some 0)
  else none

def fromisoformat (text : PyStr) : Option PyDateTime := do
  let year ← readPart text 0 4
  let month ← readPart text 5 2
  let day ← readPart text 8 2
  let hour ← readPart text 11 2
  let minute ← readPart text 14 2
  let second ← readPart text 17 2
  let offset ← readOffset (text.drop 19)
  let length ← (monthLengths year)[month - 1]?
  let wallClock := wallClockOf year month day hour minute second
  if inRange : wallClock < wallClockEnd then
    if separators text = [some 0x2D, some 0x2D, some 0x54, some 0x3A, some 0x3A]
        ∧ text.length ≥ 19 ∧ 1 ≤ year ∧ 1 ≤ month ∧ 1 ≤ day ∧ day ≤ length
        ∧ hour < 24 ∧ minute < 60 ∧ second < 60 then
      some ⟨wallClock, offset, inRange⟩
    else none
  else none

/-- `number`, padded with zeros to `width` digits. -/
def padded (width number : Nat) : String :=
  let digits := toString number
  String.ofList (List.replicate (width - digits.length) '0') ++ digits

/-- The layout of `isoformat`, microseconds left out when they are zero. -/
def isoformat (moment : PyDateTime) : String :=
  let seconds := moment.wallClock / 1000000
  let days := seconds / 86400
  let year := yearOf days
  let date := monthAndDay (monthLengths year) (days - daysBeforeYear year)
  let micros := moment.wallClock % 1000000
  padded 4 year ++ "-" ++ padded 2 date.1 ++ "-" ++ padded 2 date.2 ++ "T" ++
    padded 2 (seconds / 3600 % 24) ++ ":" ++ padded 2 (seconds / 60 % 60) ++
    ":" ++ padded 2 (seconds % 60) ++
    (if micros = 0 then "" else "." ++ padded 6 micros) ++
    (match moment.utcOffset with
      | none => ""
      | some _ => "+00:00")

/-- A float that denotes an integer, such as `1.0`. -/
def floatText (number : PyFloat) : String :=
  toString number.value.num ++ ".0"

/-- The tables on ASCII text, integral floats and whole seconds. -/
@[reducible]
def runtime : PyRuntime where
  isPrintable _ := false
  isDecimal point := (digitValue point).isSome
  floatRepr := floatText
  fromisoformat := fromisoformat
  isoformat := isoformat
  sqliteFloatText := floatText

/-- The ASCII digits. -/
@[reducible]
def numerals : PyNumerals where
  toPyRuntime := runtime
  isDigit point := (digitValue point).isSome
  decimalValue point := (digitValue point).map (Fin.ofNat 10)
  isDecimal_iff point := by
    rw [Option.isSome_map]
    exact Iff.rfl
  isDigit_of_isDecimal _ := id

example :
    (fromisoformat "2026-08-18T12:30:00+00:00").map isoformat =
        some "2026-08-18T12:30:00+00:00" ∧
      (fromisoformat "2026-08-18T12:30:00").map (·.isAware) = some false ∧
      fromisoformat "2026-02-29T12:30:00+00:00" = none := by
  decide +kernel

end Python.Reference
