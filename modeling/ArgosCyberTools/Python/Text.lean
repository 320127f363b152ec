import ArgosCyberTools.Coding.SelfDelimiting

/-!
# Python strings

A Python `str` is a sequence of Unicode code points.  Lean's `String` holds
scalar values only, whereas a document read by `json.loads` may hold lone
surrogates, and encoding such a text raises.  Strings are therefore modelled
as lists of code points; string literals of the source are coerced.
-/

namespace Python

open Coding

/-- A Unicode code point; the surrogates are code points like any other. -/
abbrev CodePoint := Fin 0x110000

instance CodePoint.neZero : NeZero 0x110000 := ⟨by decide⟩

instance CodePoint.lawfulBEq : LawfulBEq CodePoint := inferInstance

/-- A Python `str`. -/
abbrev PyStr := List CodePoint

instance PyStr.lawfulBEq : LawfulBEq PyStr := inferInstance

def CodePoint.ofChar (char : Char) : CodePoint :=
  ⟨char.toNat, by
    have valid := char.valid
    simp only [UInt32.isValidChar, Nat.isValidChar] at valid
    show char.val.toNat < 0x110000
    omega⟩

theorem CodePoint.ofChar_injective :
    Function.Injective CodePoint.ofChar := by
  intro left right equal
  have numbers : left.val.toNat = right.val.toNat :=
    congrArg (fun point : CodePoint => point.val) equal
  exact Char.ext (UInt32.toNat_inj.mp numbers)

/-- The `str` a source literal denotes. -/
def PyStr.ofString (text : String) : PyStr :=
  text.toList.map CodePoint.ofChar

instance : Coe String PyStr := ⟨PyStr.ofString⟩

theorem PyStr.ofString_injective :
    Function.Injective PyStr.ofString := by
  intro left right equal
  apply String.toList_inj.mp
  exact CodePoint.ofChar_injective.list_map equal

@[simp]
theorem PyStr.ofString_inj {left right : String} :
    PyStr.ofString left = PyStr.ofString right ↔ left = right :=
  PyStr.ofString_injective.eq_iff

/-! ## Exceptions of the language and its standard library -/

/-- The built-in exceptions the modelled code can raise. -/
inductive BuiltinError where
  | keyError (key : PyStr)
  | typeError
  | valueError
  | overflowError
  | unicodeEncodeError
  | assertionError
deriving DecidableEq

/-! ## Substrings and numerals -/

/-- `needle in haystack` for two strings. -/
def PyStr.contains (haystack needle : PyStr) : Bool :=
  decide (needle <:+: haystack)

/-- `text.split(separator)[-1]`: what follows the last separator. -/
def PyStr.afterLast (text : PyStr) (separator : CodePoint) : PyStr :=
  (text.reverse.takeWhile (· ≠ separator)).reverse

/--
A pattern ending in `$`: the whole text, or the text up to a final newline,
belongs to the language of the pattern.
-/
def matchesToEnd (language : PyStr → Bool) (text : PyStr) : Bool :=
  language text ||
    (decide (text.getLast? = some 0x0A) && language text.dropLast)

/-- The digit `0`-`9` or `a`-`f` of a number below sixteen. -/
def lowerHexDigit (digit : Nat) : CodePoint :=
  if digit < 10 then Fin.ofNat _ (0x30 + digit)
  else Fin.ofNat _ (0x57 + digit)

theorem lowerHexDigit_injective {left right : Nat}
    (leftBound : left < 16) (rightBound : right < 16)
    (equal : lowerHexDigit left = lowerHexDigit right) :
    left = right := by
  interval_cases left <;> interval_cases right <;>
    first
      | rfl
      | exact absurd equal (by decide)

/-- `str(n)` of a natural number. -/
def PyStr.ofNat (number : Nat) : PyStr :=
  if number = 0 then "0"
  else (Nat.digits 10 number).reverse.map lowerHexDigit

/-- `str(n)` of an integer. -/
def PyStr.ofInt (number : Int) : PyStr :=
  match number with
  | .ofNat magnitude => PyStr.ofNat magnitude
  | .negSucc magnitude => "-" ++ PyStr.ofNat (magnitude + 1)

theorem lowerHexDigit_val {digit : Nat} (bound : digit < 10) :
    (lowerHexDigit digit).val = 0x30 + digit := by
  interval_cases digit <;> rfl

/-- The digits behind a decimal text, the last one first. -/
def decimalDigits (number : Nat) : List Nat :=
  if number = 0 then [0] else Nat.digits 10 number

theorem decimalDigits_lt {number : Nat} :
    ∀ digit ∈ decimalDigits number, digit < 10 := by
  intro digit member
  unfold decimalDigits at member
  split_ifs at member
  · simp only [List.mem_singleton] at member
    omega
  · exact Nat.digits_lt_base (by decide) member

theorem PyStr.ofNat_eq (number : Nat) :
    PyStr.ofNat number =
      (decimalDigits number).reverse.map lowerHexDigit := by
  unfold PyStr.ofNat decimalDigits
  split_ifs <;> rfl

/-- A decimal text consists of digits. -/
theorem PyStr.ofNat_digits (number : Nat) :
    ∀ point ∈ PyStr.ofNat number, 0x30 ≤ point.val ∧ point.val < 0x3A := by
  intro point member
  rw [PyStr.ofNat_eq] at member
  obtain ⟨digit, digitMember, rfl⟩ := List.mem_map.mp member
  have bound := decimalDigits_lt digit (List.mem_reverse.mp digitMember)
  rw [lowerHexDigit_val bound]
  omega

/-- The number a text of ASCII digits denotes. -/
def PyStr.decimalNumber (text : PyStr) : Nat :=
  Nat.ofDigits 10 (text.reverse.map fun point => point.val - 0x30)

/-- A decimal text can be read back. -/
theorem PyStr.decimalNumber_ofNat (number : Nat) :
    (PyStr.ofNat number).decimalNumber = number := by
  have digits :
      ((PyStr.ofNat number).reverse.map fun point => point.val - 0x30) =
        decimalDigits number := by
    rw [PyStr.ofNat_eq, ← List.map_reverse, List.reverse_reverse,
      List.map_map]
    conv_rhs => rw [← List.map_id (decimalDigits number)]
    refine List.map_congr_left fun digit member => ?_
    simp [lowerHexDigit_val (decimalDigits_lt digit member)]
  rw [PyStr.decimalNumber, digits, decimalDigits]
  split_ifs with zero
  · simp [zero]
  · exact Nat.ofDigits_digits 10 number

theorem PyStr.ofNat_injective : Function.Injective PyStr.ofNat := by
  intro left right equal
  rw [← PyStr.decimalNumber_ofNat left, equal, PyStr.decimalNumber_ofNat]

/-- Equal decimal texts denote equal integers. -/
theorem PyStr.ofInt_injective : Function.Injective PyStr.ofInt := by
  have unsigned (text : PyStr) (magnitude : Nat) :
      PyStr.ofNat magnitude ≠ "-" ++ text := by
    intro equal
    have minus : (0x2D : CodePoint) ∈ PyStr.ofNat magnitude := by
      rw [equal]
      exact List.mem_append_left _ (by decide)
    exact absurd (PyStr.ofNat_digits magnitude _ minus).1 (by decide)
  intro left right equal
  cases left with
  | ofNat magnitude =>
      cases right with
      | ofNat other => exact congrArg Int.ofNat (PyStr.ofNat_injective equal)
      | negSucc other => exact absurd equal (unsigned _ _)
  | negSucc magnitude =>
      cases right with
      | ofNat other => exact absurd equal.symm (unsigned _ _)
      | negSucc other =>
          have same := PyStr.ofNat_injective (List.append_cancel_left equal)
          exact congrArg Int.negSucc (Nat.succ.inj same)

/-- A decimal text consists of digits and the minus sign. -/
theorem PyStr.ofInt_symbols (number : Int) :
    ∀ point ∈ PyStr.ofInt number, 0x2D ≤ point.val ∧ point.val < 0x3A := by
  intro point member
  cases number with
  | ofNat magnitude =>
      have digit := PyStr.ofNat_digits magnitude point member
      omega
  | negSucc magnitude =>
      rcases List.mem_append.mp member with sign | later
      · have minus : point = CodePoint.ofChar '-' := List.mem_singleton.mp sign
        subst minus
        decide
      · have digit := PyStr.ofNat_digits _ point later
        omega

theorem PyStr.ofInt_ne_nil (number : Int) : PyStr.ofInt number ≠ [] := by
  cases number with
  | ofNat magnitude =>
      show PyStr.ofNat magnitude ≠ []
      unfold PyStr.ofNat
      split_ifs with zero
      · exact List.cons_ne_nil _ _
      · simpa [Nat.digits_ne_nil_iff_ne_zero] using zero
  | negSucc magnitude => exact List.cons_ne_nil _ _

/-- A word with a letter is no numeral. -/
theorem PyStr.ofInt_ne_word {number : Int} {word : PyStr} {letter : CodePoint}
    (member : letter ∈ word) (late : 0x3A ≤ letter.val) :
    PyStr.ofInt number ≠ word := by
  rintro rfl
  have early := (PyStr.ofInt_symbols number letter member).2
  omega

/-! ## UTF-8 -/

/-- U+D800 to U+DFFF, the code points UTF-8 cannot encode. -/
def CodePoint.isSurrogate (point : CodePoint) : Bool :=
  decide (0xD800 ≤ point.val ∧ point.val ≤ 0xDFFF)

/-- No lone surrogates: every code point is a Unicode scalar value. -/
def SurrogateFree (text : PyStr) : Prop :=
  ∀ point ∈ text, point.isSurrogate = false

instance (text : PyStr) : Decidable (SurrogateFree text) := by
  unfold SurrogateFree
  infer_instance

@[simp]
theorem surrogateFree_nil : SurrogateFree [] := by
  simp [SurrogateFree]

@[simp]
theorem surrogateFree_cons (point : CodePoint) (text : PyStr) :
    SurrogateFree (point :: text) ↔
      point.isSurrogate = false ∧ SurrogateFree text := by
  simp [SurrogateFree]

@[simp]
theorem surrogateFree_append (left right : PyStr) :
    SurrogateFree (left ++ right) ↔
      SurrogateFree left ∧ SurrogateFree right := by
  simp [SurrogateFree, or_imp, forall_and]

/-- Source literals hold Unicode scalar values only. -/
@[simp]
theorem surrogateFree_ofString (text : String) :
    SurrogateFree (PyStr.ofString text) := by
  intro point member
  obtain ⟨char, -, rfl⟩ := List.mem_map.mp member
  have valid := char.valid
  simp only [UInt32.isValidChar, Nat.isValidChar] at valid
  have scalar :
      ¬ (0xD800 ≤ char.val.toNat ∧ char.val.toNat ≤ 0xDFFF) := by
    omega
  exact decide_eq_false scalar

theorem surrogateFree_lowerHexDigit {digit : Nat} (bound : digit < 16) :
    (lowerHexDigit digit).isSurrogate = false := by
  interval_cases digit <;> decide

theorem surrogateFree_ofNat (number : Nat) :
    SurrogateFree (PyStr.ofNat number) := by
  intro point member
  have digit := PyStr.ofNat_digits number point member
  apply decide_eq_false
  omega

theorem surrogateFree_ofInt (number : Int) :
    SurrogateFree (PyStr.ofInt number) := by
  cases number with
  | ofNat magnitude => exact surrogateFree_ofNat magnitude
  | negSucc magnitude =>
      exact (surrogateFree_append _ _).mpr
        ⟨surrogateFree_ofString "-", surrogateFree_ofNat _⟩

/-- The UTF-8 code word of one code point. -/
def utf8Bytes (point : CodePoint) : List UInt8 :=
  let number := point.val
  if number < 0x80 then
    [.ofNat number]
  else if number < 0x800 then
    [.ofNat (0xC0 + number / 0x40), .ofNat (0x80 + number % 0x40)]
  else if number < 0x10000 then
    [.ofNat (0xE0 + number / 0x1000),
      .ofNat (0x80 + number / 0x40 % 0x40),
      .ofNat (0x80 + number % 0x40)]
  else
    [.ofNat (0xF0 + number / 0x40000),
      .ofNat (0x80 + number / 0x1000 % 0x40),
      .ofNat (0x80 + number / 0x40 % 0x40),
      .ofNat (0x80 + number % 0x40)]

/-- `text.encode()`, which refuses lone surrogates. -/
def PyStr.encode (text : PyStr) : Except BuiltinError (List UInt8) :=
  if SurrogateFree text then
    .ok (text.flatMap utf8Bytes)
  else
    .error .unicodeEncodeError

theorem utf8Bytes_ne_nil (point : CodePoint) : utf8Bytes point ≠ [] := by
  unfold utf8Bytes
  simp only
  split_ifs <;> simp

/-- The first byte of a UTF-8 code word fixes its length. -/
theorem utf8Bytes_selfDelimiting :
    SelfDelimiting utf8Bytes Set.univ := by
  intro left _ right _ leftRest rightRest equal
  have leftBound := left.isLt
  have rightBound := right.isLt
  unfold utf8Bytes at equal
  simp only at equal
  split_ifs at equal <;>
    simp only [List.cons_append, List.nil_append, List.cons.injEq,
      ← UInt8.toNat_inj, UInt8.toNat_ofNat'] at equal <;>
    refine ⟨Fin.ext ?_, ?_⟩ <;>
    first
      | omega
      | exact equal.2
      | exact equal.2.2
      | exact equal.2.2.2
      | exact equal.2.2.2.2

theorem PyStr.encode_eq_ok_iff {text : PyStr} {bytes : List UInt8} :
    text.encode = .ok bytes ↔
      SurrogateFree text ∧ text.flatMap utf8Bytes = bytes := by
  unfold PyStr.encode
  split_ifs with scalar <;> simp [scalar]

theorem PyStr.encode_of_surrogateFree {text : PyStr}
    (scalar : SurrogateFree text) :
    text.encode = .ok (text.flatMap utf8Bytes) := by
  simp [PyStr.encode, scalar]

/-- UTF-8 loses nothing. -/
theorem PyStr.utf8_injective :
    Function.Injective (List.flatMap utf8Bytes) := by
  intro left right equal
  exact utf8Bytes_selfDelimiting.flatMap_injOn
    (fun point _ => utf8Bytes_ne_nil point)
    (by simp) (by simp) equal

end Python
