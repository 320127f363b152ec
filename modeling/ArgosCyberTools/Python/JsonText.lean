import ArgosCyberTools.Python.Runtime

/-!
# `json.dumps(..., sort_keys=True, separators=(",", ":"))`

The canonical text of a value: keys sorted at every level, no blanks, and
every character outside printable ASCII written as a `\u` escape, astral
characters as a surrogate pair.  A quoted string is self-delimiting as long
as no lone surrogate occurs in it; two lone surrogates would be written like
the astral character they encode.
-/

namespace Python

open Coding

/-- `\uXXXX`. -/
def unicodeEscape (unit : Nat) : PyStr := 0x5C :: 0x75 :: hexDigits 4 unit

/-- The letter after the backslash, for the characters that have one. -/
def shortEscape (point : CodePoint) : Option CodePoint :=
  if point.val = 0x22 then some 0x22
  else if point.val = 0x5C then some 0x5C
  else if point.val = 0x08 then some 0x62
  else if point.val = 0x0C then some 0x66
  else if point.val = 0x0A then some 0x6E
  else if point.val = 0x0D then some 0x72
  else if point.val = 0x09 then some 0x74
  else none

/-- One character inside a JSON string, with `ensure_ascii`. -/
def escapeChar (point : CodePoint) : PyStr :=
  match shortEscape point with
  | some letter => [0x5C, letter]
  | none =>
      let number := point.val
      if 0x20 ≤ number ∧ number ≤ 0x7E then [point]
      else if number < 0x10000 then unicodeEscape number
      else
        unicodeEscape (0xD800 + (number - 0x10000) / 0x400) ++
          unicodeEscape (0xDC00 + (number - 0x10000) % 0x400)

/-- A JSON string literal. -/
def quoteJson (text : PyStr) : PyStr :=
  "\"" ++ text.flatMap escapeChar ++ "\""

/-- Objects are written with their keys in code point order. -/
def sortByKey (entries : List (PyStr × PyStr)) : List (PyStr × PyStr) :=
  entries.insertionSort fun left right => left.1 ≤ right.1

section Dumps

variable [PyRuntime]

mutual

/-- The canonical JSON text of a value. -/
def Json.dumps : Json → PyStr
  | .null => "null"
  | .bool value => if value then "true" else "false"
  | .int value => PyStr.ofInt value
  | .float value => PyRuntime.floatRepr value
  | .str value => quoteJson value
  | .list items => "[" ++ PyStr.joinWith "," (Json.dumpsItems items) ++ "]"
  | .dict entries =>
      "\x7b" ++
        PyStr.joinWith ","
          ((sortByKey (Json.dumpsEntries entries)).map fun entry =>
            quoteJson entry.1 ++ ":" ++ entry.2) ++
        "\x7d"

def Json.dumpsItems : List Json → List PyStr
  | [] => []
  | item :: rest => item.dumps :: Json.dumpsItems rest

def Json.dumpsEntries : List (PyStr × Json) → List (PyStr × PyStr)
  | [] => []
  | (key, value) :: rest =>
      (key, value.dumps) :: Json.dumpsEntries rest

end

end Dumps

/-! ## String literals are self-delimiting -/

/-- Four hexadecimal digits determine a 16-bit unit. -/
theorem unicodeEscape_selfDelimiting :
    SelfDelimiting unicodeEscape {unit | unit < 0x10000} := by
  intro left leftBound right rightBound leftRest rightRest equal
  replace leftBound : left < 0x10000 := leftBound
  replace rightBound : right < 0x10000 := rightBound
  have digits :
      hexDigits 4 left ++ leftRest = hexDigits 4 right ++ rightRest := by
    simpa only [unicodeEscape, List.cons_append, List.cons.injEq,
      true_and] using equal
  simp only [hexDigits, List.range_succ, List.range_zero,
    List.nil_append, List.cons_append, List.reverse_cons,
    List.reverse_nil, List.map_cons, List.map_nil,
    List.cons.injEq] at digits
  obtain ⟨third, second, first, zeroth, rests⟩ := digits
  refine ⟨?_, rests⟩
  have digitBound (number position : Nat) :
      number / 16 ^ position % 16 < 16 := Nat.mod_lt _ (by decide)
  have third :=
    lowerHexDigit_injective (digitBound _ _) (digitBound _ _) third
  have second :=
    lowerHexDigit_injective (digitBound _ _) (digitBound _ _) second
  have first :=
    lowerHexDigit_injective (digitBound _ _) (digitBound _ _) first
  have zeroth :=
    lowerHexDigit_injective (digitBound _ _) (digitBound _ _) zeroth
  norm_num at third second first zeroth
  omega

/-- The table of short escapes, read as numbers. -/
theorem shortEscape_table {point letter : CodePoint}
    (escape : shortEscape point = some letter) :
    point.val = 0x22 ∧ letter.val = 0x22 ∨
      point.val = 0x5C ∧ letter.val = 0x5C ∨
      point.val = 0x08 ∧ letter.val = 0x62 ∨
      point.val = 0x0C ∧ letter.val = 0x66 ∨
      point.val = 0x0A ∧ letter.val = 0x6E ∨
      point.val = 0x0D ∧ letter.val = 0x72 ∨
      point.val = 0x09 ∧ letter.val = 0x74 := by
  unfold shortEscape at escape
  split_ifs at escape with h₁ h₂ h₃ h₄ h₅ h₆ h₇ <;> cases escape
  · exact .inl ⟨h₁, rfl⟩
  · exact .inr (.inl ⟨h₂, rfl⟩)
  · exact .inr (.inr (.inl ⟨h₃, rfl⟩))
  · exact .inr (.inr (.inr (.inl ⟨h₄, rfl⟩)))
  · exact .inr (.inr (.inr (.inr (.inl ⟨h₅, rfl⟩))))
  · exact .inr (.inr (.inr (.inr (.inr (.inl ⟨h₆, rfl⟩)))))
  · exact .inr (.inr (.inr (.inr (.inr (.inr ⟨h₇, rfl⟩)))))

theorem shortEscape_injective {left right letter : CodePoint}
    (leftEscape : shortEscape left = some letter)
    (rightEscape : shortEscape right = some letter) :
    left = right := by
  have leftRow := shortEscape_table leftEscape
  have rightRow := shortEscape_table rightEscape
  exact Fin.ext (by omega)

theorem shortEscape_ne_u {point letter : CodePoint}
    (escape : shortEscape point = some letter) : letter ≠ 0x75 := by
  have row := shortEscape_table escape
  rintro rfl
  have number : ((0x75 : CodePoint) : Nat) = 0x75 := rfl
  omega

theorem shortEscape_ascii {point letter : CodePoint}
    (escape : shortEscape point = some letter) : letter.val < 0x80 := by
  have row := shortEscape_table escape
  omega

/--
The three shapes of an escape: a printable character as itself, a backslash
and a letter, or one or two `\u` units.
-/
theorem escapeChar_cases (point : CodePoint) :
    (escapeChar point = [point] ∧ point.val ≤ 0x7E ∧
        point.val ≠ 0x22 ∧ point.val ≠ 0x5C) ∨
      (∃ letter, shortEscape point = some letter ∧
        escapeChar point = [0x5C, letter]) ∨
      (escapeChar point = unicodeEscape point.val ∧ point.val < 0x10000) ∨
      (escapeChar point =
          unicodeEscape (0xD800 + (point.val - 0x10000) / 0x400) ++
            unicodeEscape (0xDC00 + (point.val - 0x10000) % 0x400) ∧
        0x10000 ≤ point.val) := by
  cases escape : shortEscape point with
  | some letter =>
      exact .inr (.inl ⟨letter, rfl, by simp [escapeChar, escape]⟩)
  | none =>
      unfold escapeChar
      simp only [escape]
      split_ifs with printable basic
      · left
        unfold shortEscape at escape
        split_ifs at escape with isQuote isBackslash
        exact ⟨rfl, printable.2, isQuote, isBackslash⟩
      · exact .inr (.inr (.inl ⟨rfl, basic⟩))
      · exact .inr (.inr (.inr ⟨rfl, by omega⟩))

/-- A unit below U+10000 is not half of a pair unless it is a surrogate. -/
theorem isSurrogate_of_pair_unit {point : CodePoint} {offset : Nat}
    (bound : offset < 0x400) (unit : point.val = 0xD800 + offset) :
    point.isSurrogate = true := by
  simp only [CodePoint.isSurrogate, decide_eq_true_eq]
  omega

theorem escapeChar_selfDelimiting :
    SelfDelimiting escapeChar {point | point.isSurrogate = false} := by
  intro left leftScalar right rightScalar leftRest rightRest equal
  replace leftScalar : left.isSurrogate = false := leftScalar
  replace rightScalar : right.isSurrogate = false := rightScalar
  have leftBound := left.isLt
  have rightBound := right.isLt
  rcases escapeChar_cases left with
    ⟨leftCode, -, -, leftPlain⟩ | ⟨leftLetter, leftShort, leftCode⟩ |
      ⟨leftCode, leftBasic⟩ | ⟨leftCode, leftAstral⟩ <;>
    rcases escapeChar_cases right with
      ⟨rightCode, -, -, rightPlain⟩ | ⟨rightLetter, rightShort, rightCode⟩ |
        ⟨rightCode, rightBasic⟩ | ⟨rightCode, rightAstral⟩ <;>
    rw [leftCode, rightCode] at equal
  -- A plain character is no backslash, so it meets only its equal.
  · simpa using equal
  · simp only [List.cons_append, List.cons.injEq] at equal
    exact absurd (congrArg Fin.val equal.1) leftPlain
  · simp only [unicodeEscape, List.cons_append, List.cons.injEq] at equal
    exact absurd (congrArg Fin.val equal.1) leftPlain
  · simp only [unicodeEscape, List.cons_append, List.cons.injEq] at equal
    exact absurd (congrArg Fin.val equal.1) leftPlain
  · simp only [List.cons_append, List.cons.injEq] at equal
    exact absurd (congrArg Fin.val equal.1).symm rightPlain
  · simp only [List.cons_append, List.nil_append, List.cons.injEq,
      true_and] at equal
    obtain ⟨rfl, rests⟩ := equal
    exact ⟨shortEscape_injective leftShort rightShort, rests⟩
  · simp only [unicodeEscape, List.cons_append, List.cons.injEq,
      true_and] at equal
    exact (shortEscape_ne_u leftShort equal.1).elim
  · simp only [unicodeEscape, List.cons_append, List.cons.injEq,
      true_and] at equal
    exact (shortEscape_ne_u leftShort equal.1).elim
  · simp only [unicodeEscape, List.cons_append, List.cons.injEq] at equal
    exact absurd (congrArg Fin.val equal.1).symm rightPlain
  · simp only [unicodeEscape, List.cons_append, List.cons.injEq,
      true_and] at equal
    exact (shortEscape_ne_u rightShort equal.1.symm).elim
  · obtain ⟨numbers, rests⟩ :=
      unicodeEscape_selfDelimiting leftBasic rightBasic _ _ equal
    exact ⟨Fin.ext numbers, rests⟩
  · rw [List.append_assoc] at equal
    obtain ⟨unit, -⟩ :=
      unicodeEscape_selfDelimiting leftBasic
        (show _ < 0x10000 by omega) _ _ equal
    have surrogate :=
      isSurrogate_of_pair_unit
        (show (right.val - 0x10000) / 0x400 < 0x400 by omega) unit
    simp [leftScalar] at surrogate
  · simp only [unicodeEscape, List.cons_append, List.cons.injEq] at equal
    exact absurd (congrArg Fin.val equal.1).symm rightPlain
  · simp only [unicodeEscape, List.cons_append, List.cons.injEq,
      true_and] at equal
    exact (shortEscape_ne_u rightShort equal.1.symm).elim
  · rw [List.append_assoc] at equal
    obtain ⟨unit, -⟩ :=
      unicodeEscape_selfDelimiting
        (show _ < 0x10000 by omega) rightBasic _ _ equal
    have surrogate :=
      isSurrogate_of_pair_unit
        (show (left.val - 0x10000) / 0x400 < 0x400 by omega) unit.symm
    simp [rightScalar] at surrogate
  · rw [List.append_assoc, List.append_assoc] at equal
    obtain ⟨high, tails⟩ :=
      unicodeEscape_selfDelimiting (show _ < 0x10000 by omega)
        (show _ < 0x10000 by omega) _ _ equal
    obtain ⟨low, rests⟩ :=
      unicodeEscape_selfDelimiting (show _ < 0x10000 by omega)
        (show _ < 0x10000 by omega) _ _ tails
    exact ⟨Fin.ext (by omega), rests⟩

/-- No escape begins with the quote that closes a string. -/
theorem escapeChar_starts_without_quote (point : CodePoint) :
    ∃ first rest,
      escapeChar point = first :: rest ∧ first ≠ (0x22 : CodePoint) := by
  rcases escapeChar_cases point with
    ⟨code, -, notQuote, -⟩ | ⟨letter, -, code⟩ | ⟨code, -⟩ | ⟨code, -⟩
  · exact ⟨point, [], code, fun equal => notQuote (by simp [equal])⟩
  · exact ⟨0x5C, [letter], code, by decide⟩
  · exact ⟨0x5C, _, code, by decide⟩
  · exact ⟨0x5C, _, code, by decide⟩

/-- A quoted string can be read back from the front of any text. -/
theorem quoteJson_selfDelimiting :
    SelfDelimiting quoteJson {text | SurrogateFree text} :=
  (escapeChar_selfDelimiting.flatMap_terminated (0x22 : CodePoint)
    (fun point _ => escapeChar_starts_without_quote point)).prepend [0x22]

/-! ## The canonical text can be encoded -/

theorem surrogateFree_hexDigits (width number : Nat) :
    SurrogateFree (hexDigits width number) := by
  intro point member
  obtain ⟨position, -, rfl⟩ := List.mem_map.mp member
  exact surrogateFree_lowerHexDigit (Nat.mod_lt _ (by decide))

theorem surrogateFree_unicodeEscape (unit : Nat) :
    SurrogateFree (unicodeEscape unit) := by
  simp only [unicodeEscape, surrogateFree_cons]
  exact ⟨by decide, by decide, surrogateFree_hexDigits 4 unit⟩

/-- Escaping writes lone surrogates as ASCII as well. -/
theorem surrogateFree_escapeChar (point : CodePoint) :
    SurrogateFree (escapeChar point) := by
  rcases escapeChar_cases point with
    ⟨code, ascii, -⟩ | ⟨letter, escape, code⟩ | ⟨code, -⟩ | ⟨code, -⟩ <;>
    rw [code]
  · simp only [surrogateFree_cons, surrogateFree_nil, and_true]
    exact decide_eq_false (by omega)
  · have ascii := shortEscape_ascii escape
    simp only [surrogateFree_cons, surrogateFree_nil, and_true]
    exact ⟨by decide, decide_eq_false (by omega)⟩
  · exact surrogateFree_unicodeEscape _
  · simp [surrogateFree_unicodeEscape]

theorem surrogateFree_quoteJson (text : PyStr) :
    SurrogateFree (quoteJson text) := by
  simp only [quoteJson, surrogateFree_append, surrogateFree_ofString,
    true_and, and_true]
  intro point member
  obtain ⟨source, -, escaped⟩ := List.mem_flatMap.mp member
  exact surrogateFree_escapeChar source point escaped

theorem surrogateFree_joinWith {separator : PyStr}
    (separatorFree : SurrogateFree separator) {pieces : List PyStr}
    (piecesFree : ∀ piece ∈ pieces, SurrogateFree piece) :
    SurrogateFree (PyStr.joinWith separator pieces) := by
  induction pieces with
  | nil => simp [PyStr.joinWith]
  | cons head tail induction =>
      cases tail with
      | nil => simpa [PyStr.joinWith] using piecesFree head (by simp)
      | cons next rest =>
          simp only [PyStr.joinWith, surrogateFree_append]
          exact
            ⟨⟨piecesFree head (by simp), separatorFree⟩,
              induction fun piece member =>
                piecesFree piece (List.mem_cons_of_mem _ member)⟩

section Encodable

variable [PyRuntime]

mutual

/-- `json.dumps(...).encode("utf-8")` never raises. -/
theorem surrogateFree_dumps (value : Json) : SurrogateFree value.dumps := by
  cases value with
  | null => exact surrogateFree_ofString "null"
  | bool value =>
      cases value
      · exact surrogateFree_ofString "false"
      · exact surrogateFree_ofString "true"
  | int value => exact surrogateFree_ofInt value
  | float value => exact surrogateFree_ofString _
  | str value => exact surrogateFree_quoteJson value
  | list items =>
      simp only [Json.dumps, surrogateFree_append, surrogateFree_ofString,
        true_and, and_true]
      exact surrogateFree_joinWith (surrogateFree_ofString ",")
        (surrogateFree_dumpsItems items)
  | dict entries =>
      simp only [Json.dumps, surrogateFree_append, surrogateFree_ofString,
        true_and, and_true]
      refine surrogateFree_joinWith (surrogateFree_ofString ",") ?_
      intro piece member
      obtain ⟨entry, sorted, rfl⟩ := List.mem_map.mp member
      have original : entry ∈ Json.dumpsEntries entries :=
        (List.mem_insertionSort _).mp sorted
      simp only [surrogateFree_append, surrogateFree_ofString, and_true]
      exact
        ⟨surrogateFree_quoteJson entry.1,
          surrogateFree_dumpsEntries entries entry original⟩

theorem surrogateFree_dumpsItems (items : List Json) :
    ∀ piece ∈ Json.dumpsItems items, SurrogateFree piece := by
  cases items with
  | nil => simp [Json.dumpsItems]
  | cons item rest =>
      simp only [Json.dumpsItems, List.mem_cons]
      rintro piece (rfl | member)
      · exact surrogateFree_dumps item
      · exact surrogateFree_dumpsItems rest piece member

theorem surrogateFree_dumpsEntries (entries : List (PyStr × Json)) :
    ∀ entry ∈ Json.dumpsEntries entries, SurrogateFree entry.2 := by
  cases entries with
  | nil => simp [Json.dumpsEntries]
  | cons entry rest =>
      obtain ⟨key, value⟩ := entry
      simp only [Json.dumpsEntries, List.mem_cons]
      rintro written (rfl | member)
      · exact surrogateFree_dumps value
      · exact surrogateFree_dumpsEntries rest written member

end

end Encodable

end Python
