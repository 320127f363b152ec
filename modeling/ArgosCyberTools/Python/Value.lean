import ArgosCyberTools.Python.Dict

/-!
# JSON values as Python sees them

The documents handed to the program are what `json.loads` builds: `None`,
booleans, integers, finite floats, strings, lists and string-keyed
dictionaries.  This module fixes the language's truth test, the membership
operator and the hashing that sets and dictionary keys rely on, which
identifies `True`, `1` and `1.0`.
-/

namespace Python

/-- A finite IEEE 754 double. -/
structure PyFloat where
  bits : BitVec 64
  finite : bits.extractLsb' 52 11 ≠ 0x7FF#11
deriving DecidableEq

/-- The rational number a finite double denotes; both zeros denote `0`. -/
def PyFloat.value (number : PyFloat) : ℚ :=
  let sign : ℚ := if number.bits.msb then -1 else 1
  let exponent := (number.bits.extractLsb' 52 11).toNat
  let fraction := (number.bits.extractLsb' 0 52).toNat
  if exponent = 0 then
    sign * fraction / 2 ^ 1074
  else
    sign * (2 ^ 52 + fraction) * 2 ^ exponent / 2 ^ 1075

/-- A value read from a JSON text. -/
inductive Json where
  | null
  | bool (value : Bool)
  | int (value : Int)
  | float (value : PyFloat)
  | str (value : PyStr)
  | list (items : List Json)
  | dict (entries : List (PyStr × Json))

/-- A JSON object: the `dict` that carries a document. -/
abbrev JsonObject := PyDict PyStr Json

namespace Json

/-! ## Truth and membership -/

/-- `bool(value)`. -/
def truthy : Json → Bool
  | .null => false
  | .bool value => value
  | .int value => value ≠ 0
  | .float value => value.value ≠ 0
  | .str value => !value.isEmpty
  | .list items => !items.isEmpty
  | .dict entries => !entries.isEmpty

/-- `value == text`. -/
def isStr (value : Json) (text : PyStr) : Bool :=
  match value with
  | .str held => held = text
  | _ => false

/-- `value or []`, where an absent value is `None`. -/
def orEmptyList (value : Option Json) : Json :=
  match value with
  | none => .list []
  | some held => if held.truthy then held else .list []

/--
`text in value`: an element of a list, a key of a dictionary, but a
substring of a string; on a number or a boolean it raises.
-/
def holds (value : Json) (text : PyStr) : Except BuiltinError Bool :=
  match value with
  | .list items => .ok (items.any (·.isStr text))
  | .dict entries => .ok (entries.any fun entry => entry.1 = text)
  | .str held => .ok (held.contains text)
  | _ => .error .typeError

@[simp]
theorem isStr_iff (value : Json) (text : PyStr) :
    value.isStr text = true ↔ value = .str text := by
  cases value <;> simp [isStr]

@[simp]
theorem isStr_eq_false_iff (value : Json) (text : PyStr) :
    value.isStr text = false ↔ value ≠ .str text := by
  rw [← Bool.not_eq_true, isStr_iff]

/-- `document.get(key) == text`, where an absent value is `None`. -/
def hasStr (document : JsonObject) (key text : PyStr) : Bool :=
  match document.get? key with
  | none => false
  | some held => held.isStr text

@[simp]
theorem hasStr_iff (document : JsonObject) (key text : PyStr) :
    hasStr document key text = true ↔
      document.get? key = some (.str text) := by
  unfold hasStr
  cases document.get? key <;> simp

/-- The value, if it is a string: `isinstance(value, str)`. -/
def strOf (value : Option Json) : Option PyStr :=
  match value with
  | some (.str held) => some held
  | _ => none

@[simp]
theorem strOf_eq_some_iff (value : Option Json) (text : PyStr) :
    strOf value = some text ↔ value = some (.str text) := by
  rcases value with _ | (_ | _ | _ | _ | _ | _ | _) <;> simp [strOf]

/-- `(value or [])` can be searched without raising. -/
def Searchable (value : Option Json) : Prop :=
  match orEmptyList value with
  | .list _ | .dict _ | .str _ => True
  | _ => False

instance (value : Option Json) : Decidable (Searchable value) := by
  unfold Searchable
  split <;> infer_instance

end Json

/-- What a hashable scalar is identified by in a set or as a key. -/
inductive HashKey where
  | none
  | number (value : ℚ)
  | text (value : PyStr)
deriving DecidableEq

/-- `hash(value)`: lists and dictionaries are unhashable. -/
def Json.hashKey : Json → Except BuiltinError HashKey
  | .null => .ok .none
  | .bool value => .ok (.number (if value then 1 else 0))
  | .int value => .ok (.number value)
  | .float value => .ok (.number value.value)
  | .str value => .ok (.text value)
  | .list _ => .error .typeError
  | .dict _ => .error .typeError

end Python
