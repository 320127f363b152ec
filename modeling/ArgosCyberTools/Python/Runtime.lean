import ArgosCyberTools.Python.Value
import ArgosCyberTools.Python.Datetime

/-!
# The interpreter's tables

Which characters are printable or digits, how a float is written, which timestamp
texts `datetime.fromisoformat` reads and what SQLite stores for a float
depend on the interpreter and its libraries, not on the program.  They are
gathered in one class; everything built on top of them is defined here:
`str`, `repr` and the f-string rendering of a value.
-/

namespace Python

/-- The library facts that vary with the interpreter. -/
class PyRuntime where
  /-- `str.isprintable` of one code point outside ASCII. -/
  isPrintable : CodePoint → Bool
  /-- `str.isdecimal` of one code point, the class `\d` of a pattern. -/
  isDecimal : CodePoint → Bool
  /-- `float.__repr__`. -/
  floatRepr : PyFloat → String
  /-- `datetime.fromisoformat`; `none` is `ValueError`. -/
  fromisoformat : PyStr → Option PyDateTime
  /-- `datetime.isoformat`. -/
  isoformat : PyDateTime → String
  /-- The text a TEXT column keeps for a float. -/
  sqliteFloatText : PyFloat → String

/-- The lower-case hexadecimal digits of a number, at least `width` many. -/
def hexDigits (width number : Nat) : PyStr :=
  (List.range width).reverse.map fun position =>
    lowerHexDigit (number / 16 ^ position % 16)

def PyStr.joinWith (separator : PyStr) : List PyStr → PyStr
  | [] => []
  | [only] => only
  | head :: next :: rest =>
      head ++ separator ++ joinWith separator (next :: rest)

section Rendering

variable [PyRuntime]

/-- One character inside `repr(text)`, quoted with `quote`. -/
def reprChar (quote point : CodePoint) : PyStr :=
  let number := point.val
  if point = quote ∨ number = 0x5C then "\\" ++ [point]
  else if number = 0x09 then "\\t"
  else if number = 0x0A then "\\n"
  else if number = 0x0D then "\\r"
  else if number < 0x20 ∨ number = 0x7F then "\\x" ++ hexDigits 2 number
  else if number < 0x7F then [point]
  else if point.isSurrogate = false ∧ PyRuntime.isPrintable point then [point]
  else if number ≤ 0xFF then "\\x" ++ hexDigits 2 number
  else if number ≤ 0xFFFF then "\\u" ++ hexDigits 4 number
  else "\\U" ++ hexDigits 8 number

/-- `repr(text)`: single quotes unless only they occur in the text. -/
def reprText (text : PyStr) : PyStr :=
  let quote : CodePoint :=
    if (0x27 : CodePoint) ∈ text ∧ (0x22 : CodePoint) ∉ text then 0x22
    else 0x27
  [quote] ++ text.flatMap (reprChar quote) ++ [quote]

mutual

/-- `repr(value)`. -/
def Json.repr : Json → PyStr
  | .null => "None"
  | .bool value => if value then "True" else "False"
  | .int value => PyStr.ofInt value
  | .float value => PyRuntime.floatRepr value
  | .str value => reprText value
  | .list items => "[" ++ PyStr.joinWith ", " (Json.reprItems items) ++ "]"
  | .dict entries =>
      "\x7b" ++ PyStr.joinWith ", " (Json.reprEntries entries) ++ "\x7d"

def Json.reprItems : List Json → List PyStr
  | [] => []
  | item :: rest => item.repr :: Json.reprItems rest

def Json.reprEntries : List (PyStr × Json) → List PyStr
  | [] => []
  | (key, value) :: rest =>
      (reprText key ++ ": " ++ value.repr) :: Json.reprEntries rest

end

/-- `repr` of a value that may be absent. -/
def Json.reprOption (value : Option Json) : PyStr :=
  match value with
  | none => "None"
  | some held => held.repr

/-- `str(value)`, the rendering inside an f-string. -/
def Json.toStr : Json → PyStr
  | .str value => value
  | value => value.repr

theorem Json.toStr_int (number : Int) :
    (Json.int number).toStr = PyStr.ofInt number := by
  simp only [Json.toStr, Json.repr]

/-- `repr` of a tuple of strings. -/
def reprTextTuple : List PyStr → PyStr
  | [only] => "(" ++ reprText only ++ ",)"
  | items => "(" ++ PyStr.joinWith ", " (items.map reprText) ++ ")"

end Rendering

/-! ## Reading integers -/

/-- What `str.isdigit` and `int` know of digits beyond `str.isdecimal`. -/
class PyNumerals extends PyRuntime where
  /-- `str.isdigit` of one code point. -/
  isDigit : CodePoint → Bool
  /-- `unicodedata.decimal`. -/
  decimalValue : CodePoint → Option (Fin 10)
  isDecimal_iff (point : CodePoint) :
    isDecimal point = true ↔ (decimalValue point).isSome = true
  isDigit_of_isDecimal (point : CodePoint) :
    isDecimal point = true → isDigit point = true

/-- `sys.get_int_max_str_digits()`, unless configured otherwise. -/
def maxStrDigits : Nat := 4300

section Integers

variable [PyNumerals]

/-- `text.isdigit()`. -/
def PyStr.isdigit (text : PyStr) : Bool :=
  !text.isEmpty && text.all PyNumerals.isDigit

/-- `int(text)`, of a text without sign, blanks and underscores. -/
def PyStr.toInt (text : PyStr) : Except BuiltinError Nat :=
  if maxStrDigits < text.length then .error .valueError
  else
    match text.mapM PyNumerals.decimalValue with
    | none => .error .valueError
    | some digits =>
        .ok (Nat.ofDigits 10 (digits.reverse.map fun digit => digit.val))

/-- A nonempty text of decimal digits. -/
def IsDecimalText (text : PyStr) : Prop :=
  text ≠ [] ∧ ∀ point ∈ text, PyRuntime.isDecimal point = true

instance (text : PyStr) : Decidable (IsDecimalText text) :=
  decidable_of_iff (text ≠ [] ∧ text.all PyRuntime.isDecimal = true)
    (by rw [List.all_eq_true, IsDecimalText])

theorem IsDecimalText.isdigit {text : PyStr} (decimal : IsDecimalText text) :
    text.isdigit = true := by
  have digits : text.all PyNumerals.isDigit = true :=
    List.all_eq_true.mpr fun point member =>
      PyNumerals.isDigit_of_isDecimal point (decimal.2 point member)
  simp [PyStr.isdigit, digits, decimal.1]

/-- `int` reads a decimal text that is not too long. -/
theorem IsDecimalText.exists_toInt {text : PyStr}
    (decimal : IsDecimalText text) (short : text.length ≤ maxStrDigits) :
    ∃ number, text.toInt = .ok number := by
  have readable : ∃ digits, text.mapM PyNumerals.decimalValue = some digits := by
    have points := decimal.2
    clear short decimal
    induction text with
    | nil => exact ⟨[], rfl⟩
    | cons point rest induction =>
        obtain ⟨digits, read⟩ := induction fun other member =>
          points other (List.mem_cons_of_mem _ member)
        have value := (PyNumerals.isDecimal_iff point).mp
          (points point List.mem_cons_self)
        obtain ⟨digit, isDigit⟩ := Option.isSome_iff_exists.mp value
        exact ⟨digit :: digits, by simp [List.mapM_cons, isDigit, read]⟩
  obtain ⟨digits, read⟩ := readable
  exact ⟨_, by rw [PyStr.toInt, if_neg (by omega), read]⟩

end Integers

end Python
