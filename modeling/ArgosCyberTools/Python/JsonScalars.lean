import ArgosCyberTools.Python.JsonReader

/-!
# Strings and numerals are read back

A string literal has printable ASCII characters only.  `json.loads` takes a literal back to its text as long as no lone
surrogate occurs in it, and the numeral of an integer back to the integer,
up to the first symbol that may follow a value.
-/

namespace Python

open Coding

/-! ## String literals are printed -/

section Printed

/-- Printable ASCII characters and line feeds. -/
def PrintedPoint (point : CodePoint) : Prop :=
  0x20 ≤ point.val ∧ point.val < 0x7F ∨ point.val = 0x0A

instance (point : CodePoint) : Decidable (PrintedPoint point) :=
  inferInstanceAs (Decidable (_ ∨ _))

def IsPrinted (text : PyStr) : Prop := ∀ point ∈ text, PrintedPoint point

theorem isPrinted_append {front back : PyStr} :
    IsPrinted (front ++ back) ↔ IsPrinted front ∧ IsPrinted back :=
  List.forall_mem_append

theorem isPrinted_cons {point : CodePoint} {text : PyStr} :
    IsPrinted (point :: text) ↔ PrintedPoint point ∧ IsPrinted text :=
  List.forall_mem_cons

theorem isPrinted_nil : IsPrinted [] := by
  rintro point (_ | _)

theorem isPrinted_of_all {text : PyStr}
    (all : (text.all fun point => decide (PrintedPoint point)) = true) :
    IsPrinted text := by
  simpa [IsPrinted] using all

theorem isPrinted_intercalate {separator : PyStr} (ascii : IsPrinted separator)
    {pieces : List PyStr} (each : ∀ piece ∈ pieces, IsPrinted piece) :
    IsPrinted (separator.intercalate pieces) := by
  induction pieces with
  | nil => exact isPrinted_nil
  | cons piece pieces induction =>
      obtain ⟨head, tail⟩ := List.forall_mem_cons.mp each
      cases pieces with
      | nil =>
          rw [List.intercalate_singleton]
          exact head
      | cons next pieces =>
          rw [List.intercalate_cons_cons, isPrinted_append, isPrinted_append]
          exact ⟨⟨head, ascii⟩, induction tail⟩

theorem isPrinted_hexDigits (width number : Nat) :
    IsPrinted (hexDigits width number) := by
  intro point member
  obtain ⟨position, -, rfl⟩ := List.mem_map.mp member
  have bound : number / 16 ^ position % 16 < 16 := Nat.mod_lt _ (by decide)
  interval_cases number / 16 ^ position % 16 <;> decide

theorem isPrinted_unicodeEscape (unit : Nat) : IsPrinted (unicodeEscape unit) := by
  simp only [unicodeEscape, isPrinted_cons]
  exact ⟨by decide, by decide, isPrinted_hexDigits 4 unit⟩

/-- Only printable characters are written as themselves. -/
theorem printable_of_escapeChar {point : CodePoint}
    (code : escapeChar point = [point]) : 0x20 ≤ point.val := by
  unfold escapeChar at code
  cases escape : shortEscape point with
  | some letter => simp [escape] at code
  | none =>
      simp only [escape] at code
      split_ifs at code with printable
      · exact printable.1
      · simp [unicodeEscape, hexDigits, List.range_succ] at code
      · simp [unicodeEscape] at code

theorem isPrinted_escapeChar (point : CodePoint) : IsPrinted (escapeChar point) := by
  rcases escapeChar_cases point with
    ⟨code, ascii, -⟩ | ⟨letter, escape, code⟩ | ⟨code, -⟩ | ⟨code, -⟩ <;>
    rw [code]
  · have printable := printable_of_escapeChar code
    exact isPrinted_cons.mpr ⟨.inl ⟨printable, by omega⟩, isPrinted_nil⟩
  · have row := shortEscape_table escape
    have printed : PrintedPoint letter := .inl ⟨by omega, by omega⟩
    exact isPrinted_cons.mpr
      ⟨by decide, isPrinted_cons.mpr ⟨printed, isPrinted_nil⟩⟩
  · exact isPrinted_unicodeEscape _
  · exact isPrinted_append.mpr
      ⟨isPrinted_unicodeEscape _, isPrinted_unicodeEscape _⟩

theorem isPrinted_quoteJson (text : PyStr) : IsPrinted (quoteJson text) := by
  have quote : IsPrinted ("\"" : PyStr) :=
    isPrinted_cons.mpr ⟨by decide, isPrinted_nil⟩
  rw [quoteJson, isPrinted_append, isPrinted_append]
  refine ⟨⟨quote, ?_⟩, quote⟩
  intro point member
  obtain ⟨source, -, escaped⟩ := List.mem_flatMap.mp member
  exact isPrinted_escapeChar source point escaped

end Printed

/-! ## Strings are read back -/

section Strings

variable {ends : Set CodePoint}

theorem hexValue_lowerHexDigit {digit : Nat} (bound : digit < 16) :
    hexValue (lowerHexDigit digit) = some digit := by
  interval_cases digit <;> decide

/-- Four hexadecimal digits are read as the unit they write. -/
theorem readUnit_hexDigits {unit : Nat} (bound : unit < 0x10000)
    (rest : PyStr) :
    readUnit (hexDigits 4 unit ++ rest) = some (unit, rest) := by
  have digit (position : Nat) :
      hexValue (lowerHexDigit (unit / 16 ^ position % 16)) =
        some (unit / 16 ^ position % 16) :=
    hexValue_lowerHexDigit (Nat.mod_lt _ (by decide))
  simp only [hexDigits, List.range_succ, List.range_zero, List.nil_append,
    List.cons_append, List.reverse_cons, List.reverse_nil, List.map_cons,
    List.map_nil, readUnit, digit, Option.bind_eq_bind, Option.bind_some]
  have number :
      ((unit / 16 ^ 3 % 16 * 16 + unit / 16 ^ 2 % 16) * 16 +
          unit / 16 ^ 1 % 16) * 16 + unit / 16 ^ 0 % 16 = unit := by
    omega
  rw [number]
  rfl

/-- A unit that is no half of a pair stands for itself. -/
theorem readUnicode_of_scalar {unit : Nat} (bound : unit < 0x10000)
    (scalar : ¬ (0xD800 ≤ unit ∧ unit ≤ 0xDBFF)) (rest : PyStr) :
    readUnicode (hexDigits 4 unit ++ rest) =
      some (.ofNat _ unit, rest) := by
  rw [readUnicode, readUnit_hexDigits bound]
  simp only [Option.bind_eq_bind, Option.bind_some, if_neg scalar]
  rfl

theorem readLowHalf_unicodeEscape {offset : Nat} (bound : offset < 0x400)
    (rest : PyStr) :
    readLowHalf (unicodeEscape (0xDC00 + offset) ++ rest) =
      some (0xDC00 + offset, rest) := by
  have read := readUnit_hexDigits (show 0xDC00 + offset < 0x10000 by omega) rest
  have low : 0xDC00 ≤ 0xDC00 + offset ∧ 0xDC00 + offset ≤ 0xDFFF := by omega
  simp only [unicodeEscape, List.cons_append, readLowHalf, List.take_succ_cons,
    List.take_zero, List.drop_succ_cons, List.drop_zero, if_true, read,
    if_pos low]

/-- Both halves of a pair are read as the character they encode. -/
theorem readUnicode_pair {high low : Nat} (highBound : high < 0x400)
    (lowBound : low < 0x400) (rest : PyStr) :
    readUnicode
        (hexDigits 4 (0xD800 + high) ++
          (unicodeEscape (0xDC00 + low) ++ rest)) =
      some (.ofNat _ (0x10000 + high * 0x400 + low), rest) := by
  have isHigh : 0xD800 ≤ 0xD800 + high ∧ 0xD800 + high ≤ 0xDBFF := by omega
  rw [readUnicode, readUnit_hexDigits (by omega)]
  simp only [Option.bind_eq_bind, Option.bind_some, if_pos isHigh,
    readLowHalf_unicodeEscape lowBound, Nat.add_sub_cancel_left]
  rfl

theorem unescaped_of_shortEscape {point letter : CodePoint}
    (escape : shortEscape point = some letter) :
    unescaped letter = some point := by
  have row := shortEscape_table escape
  unfold unescaped
  split_ifs <;> first | omega | (congr 1; apply Fin.ext; simp; omega)

/-- An escaped character is read back, unless it is a lone surrogate. -/
theorem readsAs_escapeChar {point : CodePoint}
    (scalar : point.isSurrogate = false) :
    ReadsAs ends readChar (escapeChar point) point := by
  intro rest follows
  have bound := point.isLt
  have notSurrogate : ¬ (0xD800 ≤ point.val ∧ point.val ≤ 0xDFFF) :=
    of_decide_eq_false scalar
  rcases escapeChar_cases point with
    ⟨code, -, -, plain⟩ | ⟨letter, short, code⟩ | ⟨code, basic⟩ |
      ⟨code, astral⟩ <;> rw [code]
  · have printable := printable_of_escapeChar code
    show (if point.val = 0x5C then _
      else if point.val < 0x20 then none
      else some (point, rest)) = _
    rw [if_neg plain, if_neg (not_lt.mpr printable)]
  · have notUnicode : letter.val ≠ 0x75 := by
      intro unicode
      exact shortEscape_ne_u short (Fin.ext unicode)
    show (if letter.val = 0x75 then readUnicode rest
      else (unescaped letter).map fun meant => (meant, rest)) = _
    rw [if_neg notUnicode, unescaped_of_shortEscape short]
    rfl
  · have read := readUnicode_of_scalar basic (by omega) rest
    rw [Fin.ofNat_val_eq_self] at read
    exact read
  · have read := readUnicode_pair
      (show (point.val - 0x10000) / 0x400 < 0x400 by omega)
      (show (point.val - 0x10000) % 0x400 < 0x400 by omega) rest
    have number : 0x10000 + (point.val - 0x10000) / 0x400 * 0x400 +
        (point.val - 0x10000) % 0x400 = point.val := by
      omega
    rw [number, Fin.ofNat_val_eq_self] at read
    rw [List.append_assoc]
    exact read

/-- A quoted string is read back, from behind its opening quote. -/
theorem readsAs_string {text : PyStr} (scalar : SurrogateFree text) :
    ReadsAs ends readString (text.flatMap escapeChar ++ [0x22]) text := by
  intro rest follows
  have escapes : text.length ≤ (text.flatMap escapeChar).length := by
    clear scalar
    induction text with
    | nil => exact le_rfl
    | cons point text induction =>
        obtain ⟨first, more, code, -⟩ := escapeChar_starts_without_quote point
        simp only [List.flatMap_cons, List.length_append, code,
          List.length_cons]
        omega
  have run : ReadsAs ends (readRun 0x22 readChar
      (text.flatMap escapeChar ++ [0x22] ++ rest).length.succ)
      (text.flatMap escapeChar ++ [0x22]) text := by
    apply readsAs_run
    · intro point member
      exact escapeChar_starts_without_quote point
    · intro point member
      exact readsAs_escapeChar (scalar point member)
    · simp only [List.length_append, List.length_singleton]
      omega
  exact run follows

end Strings

/-! ## Numerals are read back -/

/-- What may follow a value: a blank, a comma or a closing bracket. -/
def jsonEnds : Set CodePoint :=
  {point | isJsonBlank point = true} ∪ Json.valueEnds

/-- No numeral goes on with a symbol that may follow it. -/
theorem endsNumeral_of_mem_jsonEnds {symbol : CodePoint}
    (member : symbol ∈ jsonEnds) :
    isJsonDigit symbol = false ∧ symbol.val ≠ 0x2E ∧ symbol.val ≠ 0x65 ∧
      symbol.val ≠ 0x45 := by
  rcases member with blank | rfl | rfl | rfl
  · have blank : isJsonBlank symbol = true := blank
    simp only [isJsonBlank, Bool.or_eq_true, decide_eq_true_eq] at blank
    simp only [isJsonDigit, Bool.and_eq_false_iff, decide_eq_false_iff_not]
    omega
  · decide
  · decide
  · decide

section Numerals

variable {rest : PyStr}

theorem isJsonDigit_of_mem_ofNat {number : Nat} :
    ∀ point ∈ PyStr.ofNat number, isJsonDigit point = true := by
  intro point member
  have digit := PyStr.ofNat_digits number point member
  simp only [isJsonDigit, Bool.and_eq_true, decide_eq_true_eq]
  omega

theorem takeWhile_digits (follows : Follows jsonEnds rest) :
    rest.takeWhile isJsonDigit = [] ∧ rest.dropWhile isJsonDigit = rest := by
  cases rest with
  | nil => exact ⟨rfl, rfl⟩
  | cons symbol rest =>
      have stops := (endsNumeral_of_mem_jsonEnds (follows_cons.mp follows)).1
      simp [stops]

/-- The leading digit of a positive number is not zero. -/
theorem ofNat_leading {number : Nat} (positive : number ≠ 0) :
    ∃ first digits, PyStr.ofNat number = first :: digits ∧
      first.val ≠ 0x30 := by
  have nonempty : Nat.digits 10 number ≠ [] :=
    Nat.digits_ne_nil_iff_ne_zero.mpr positive
  have leading := Nat.getLast_digit_ne_zero 10 positive
  have bound :=
    Nat.digits_lt_base (by decide) (List.getLast_mem nonempty)
  obtain ⟨digits, last, split⟩ := List.eq_nil_or_concat'
    (Nat.digits 10 number) |>.resolve_left nonempty
  simp only [split, List.getLast_append_singleton] at leading bound
  refine ⟨lowerHexDigit last, digits.reverse.map lowerHexDigit, ?_, ?_⟩
  · rw [PyStr.ofNat, if_neg positive, split, List.reverse_append]
    rfl
  · rw [lowerHexDigit_val bound]
    omega

theorem readWhole_ofNat (number : Nat) (follows : Follows jsonEnds rest) :
    readWhole (PyStr.ofNat number ++ rest) =
      some (PyStr.ofNat number, rest) := by
  obtain ⟨taken, dropped⟩ := takeWhile_digits follows
  by_cases zero : number = 0
  · subst zero
    rfl
  · obtain ⟨first, digits, spelled, leading⟩ := ofNat_leading zero
    have all := @isJsonDigit_of_mem_ofNat number
    rw [spelled] at all ⊢
    obtain ⟨firstDigit, others⟩ := List.forall_mem_cons.mp all
    rw [List.cons_append, readWhole, if_neg leading, if_pos firstDigit,
      List.takeWhile_append_of_pos others, List.dropWhile_append_of_pos others,
      taken, dropped, List.append_nil]

theorem readFraction_of_follows (follows : Follows jsonEnds rest) :
    readFraction rest = ([], rest) := by
  cases rest with
  | nil => rfl
  | cons symbol rest =>
      have stops :=
        (endsNumeral_of_mem_jsonEnds (follows_cons.mp follows)).2.1
      simp only [readFraction, if_neg stops]

theorem readExponent_of_follows (follows : Follows jsonEnds rest) :
    readExponent rest = ([], rest) := by
  cases rest with
  | nil => rfl
  | cons symbol rest =>
      have stops :=
        (endsNumeral_of_mem_jsonEnds (follows_cons.mp follows)).2.2
      simp only [readExponent, if_neg (not_or.mpr stops)]

variable [FloatReader]

/-- A numeral behind its sign, without fraction and exponent. -/
theorem readNumber_of_sign {magnitude : Nat} {text sign : PyStr}
    (short : (PyStr.ofNat magnitude).length ≤ maxStrDigits)
    (follows : Follows jsonEnds rest)
    (signed : readSign text = (sign, PyStr.ofNat magnitude ++ rest)) :
    readNumber text =
      some (.int (if sign = [] then magnitude else -magnitude), rest) := by
  simp only [readNumber, signed, readWhole_ofNat magnitude follows,
    Option.bind_eq_bind, Option.bind_some, readFraction_of_follows follows,
    readExponent_of_follows follows, and_self, if_true,
    if_neg (not_lt.mpr short), PyStr.decimalNumber_ofNat]
  split_ifs <;> rfl

/-- An integer of at most 4300 digits is read back. -/
theorem readsAs_ofInt {number : Int}
    (short : (PyStr.ofNat number.natAbs).length ≤ maxStrDigits) :
    ReadsAs jsonEnds readNumber (PyStr.ofInt number) (.int number) := by
  intro rest follows
  cases number with
  | ofNat magnitude =>
      have unsigned : readSign (PyStr.ofNat magnitude ++ rest) =
          ([], PyStr.ofNat magnitude ++ rest) := by
        cases spelled : PyStr.ofNat magnitude with
        | nil => exact absurd spelled (PyStr.ofInt_ne_nil (.ofNat magnitude))
        | cons first digits =>
            have digit := PyStr.ofNat_digits magnitude first
              (by rw [spelled]; exact List.mem_cons_self)
            rw [List.cons_append, readSign, if_neg (by omega)]
      exact readNumber_of_sign short follows unsigned
  | negSucc magnitude =>
      have signed : readSign (PyStr.ofInt (.negSucc magnitude) ++ rest) =
          ([0x2D], PyStr.ofNat (magnitude + 1) ++ rest) :=
        rfl
      exact readNumber_of_sign short follows signed

end Numerals

end Python
