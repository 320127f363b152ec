import ArgosCyberTools.Coding.Reading
import ArgosCyberTools.Python.Canonical

/-!
# `json.loads`

The reader of the standard library, on a text: strict strings, the halves of
a surrogate pair joined, integers of at most 4300 digits, the last of several
entries with one key.  Reading a float is the interpreter's.  `NaN`, the
infinities and nesting deeper than the interpreter's stack are left out; they
count as unreadable.
-/

namespace Python

open Coding

/-- `float(text)`, `none` for what overflows to an infinity. -/
class FloatReader where
  readFloat : PyStr → Option PyFloat

/-- For texts that have no floats in them. -/
@[reducible]
def noFloats : FloatReader := ⟨fun _ => none⟩

/-! ## Blanks and words -/

/-- `[ \t\n\r]`. -/
def isJsonBlank (point : CodePoint) : Bool :=
  point.val = 0x20 || point.val = 0x09 || point.val = 0x0A ||
    point.val = 0x0D

def skipBlanks (text : PyStr) : PyStr := text.dropWhile isJsonBlank

/-- `null`, `true` or `false`. -/
def readWord (word : PyStr) (value : Json) : Reader CodePoint Json :=
  fun text =>
    if text.take word.length = word then some (value, text.drop word.length)
    else none

/-! ## Strings -/

/-- The digit a hexadecimal character stands for. -/
def hexValue (point : CodePoint) : Option Nat :=
  if 0x30 ≤ point.val ∧ point.val ≤ 0x39 then some (point.val - 0x30)
  else if 0x41 ≤ point.val ∧ point.val ≤ 0x46 then some (point.val - 0x37)
  else if 0x61 ≤ point.val ∧ point.val ≤ 0x66 then some (point.val - 0x57)
  else none

/-- The four digits behind `\u`. -/
def readUnit : Reader CodePoint Nat
  | first :: second :: third :: fourth :: rest => do
      let a ← hexValue first
      let b ← hexValue second
      let c ← hexValue third
      let d ← hexValue fourth
      return (((a * 16 + b) * 16 + c) * 16 + d, rest)
  | _ => none

/-- `\u` and the low half of a surrogate pair. -/
def readLowHalf : Reader CodePoint Nat := fun text =>
  if text.take 2 = [0x5C, 0x75] then
    match readUnit (text.drop 2) with
    | some (unit, rest) =>
        if 0xDC00 ≤ unit ∧ unit ≤ 0xDFFF then some (unit, rest) else none
    | none => none
  else none

/-- What `\u` stands for: a unit, or a pair when its low half follows. -/
def readUnicode : Reader CodePoint CodePoint := fun text => do
  let (unit, rest) ← readUnit text
  if 0xD800 ≤ unit ∧ unit ≤ 0xDBFF then
    match readLowHalf rest with
    | some (low, later) =>
        return (.ofNat _ (0x10000 + (unit - 0xD800) * 0x400 + (low - 0xDC00)),
          later)
    | none => return (.ofNat _ unit, rest)
  else return (.ofNat _ unit, rest)

/-- What a letter behind a backslash stands for. -/
def unescaped (letter : CodePoint) : Option CodePoint :=
  if letter.val = 0x22 then some 0x22
  else if letter.val = 0x5C then some 0x5C
  else if letter.val = 0x2F then some 0x2F
  else if letter.val = 0x62 then some 0x08
  else if letter.val = 0x66 then some 0x0C
  else if letter.val = 0x6E then some 0x0A
  else if letter.val = 0x72 then some 0x0D
  else if letter.val = 0x74 then some 0x09
  else none

/-- One character of a string; control characters are refused. -/
def readChar : Reader CodePoint CodePoint
  | [] => none
  | point :: rest =>
      if point.val = 0x5C then
        match rest with
        | [] => none
        | letter :: later =>
            if letter.val = 0x75 then readUnicode later
            else (unescaped letter).map fun meant => (meant, later)
      else if point.val < 0x20 then none
      else some (point, rest)

/-- The rest of a string, behind its opening quote. -/
def readString : Reader CodePoint PyStr := fun text =>
  readRun 0x22 readChar (text.length + 1) text

/-! ## Numbers -/

def isJsonDigit (point : CodePoint) : Bool :=
  0x30 ≤ point.val && point.val ≤ 0x39

/-- `0`, or digits of which the first is not zero. -/
def readWhole : Reader CodePoint PyStr
  | [] => none
  | point :: rest =>
      if point.val = 0x30 then some ([point], rest)
      else if isJsonDigit point then
        some (point :: rest.takeWhile isJsonDigit,
          rest.dropWhile isJsonDigit)
      else none

/-- A nonempty run of digits behind the text in front, or nothing. -/
def readDigitsBehind (front text : PyStr) : PyStr × PyStr :=
  let behind := text.drop front.length
  match behind.takeWhile isJsonDigit with
  | [] => ([], text)
  | digit :: digits =>
      (front ++ digit :: digits, behind.dropWhile isJsonDigit)

/-- `(\.\d+)?`. -/
def readFraction (text : PyStr) : PyStr × PyStr :=
  match text with
  | [] => ([], [])
  | point :: rest =>
      if point.val = 0x2E then readDigitsBehind [point] (point :: rest)
      else ([], point :: rest)

/-- `([eE][-+]?\d+)?`. -/
def readExponent (text : PyStr) : PyStr × PyStr :=
  match text with
  | [] => ([], [])
  | letter :: rest =>
      if letter.val = 0x65 ∨ letter.val = 0x45 then
        match rest with
        | [] => ([], [letter])
        | sign :: later =>
            if sign.val = 0x2B ∨ sign.val = 0x2D then
              readDigitsBehind [letter, sign] (letter :: sign :: later)
            else readDigitsBehind [letter] (letter :: sign :: later)
      else ([], letter :: rest)

/-- The sign, as the text that writes it. -/
def readSign (text : PyStr) : PyStr × PyStr :=
  match text with
  | [] => ([], [])
  | point :: rest =>
      if point.val = 0x2D then ([point], rest) else ([], point :: rest)

variable [FloatReader]

/-- An integer, or a float when there is a fraction or an exponent. -/
def readNumber : Reader CodePoint Json := fun text => do
  let (sign, unsigned) := readSign text
  let (whole, behind) ← readWhole unsigned
  let (fraction, later) := readFraction behind
  let (exponent, rest) := readExponent later
  if fraction = [] ∧ exponent = [] then
    if maxStrDigits < whole.length then none
    else if sign = [] then return (.int whole.decimalNumber, rest)
    else return (.int (-whole.decimalNumber), rest)
  else do
    let number ←
      FloatReader.readFloat (sign ++ whole ++ fraction ++ exponent)
    return (.float number, rest)

/-! ## Values -/

/-- A key and a value, with a colon between them. -/
def readEntry (readItem : Reader CodePoint Json) :
    Reader CodePoint (PyStr × Json)
  | [] => none
  | quote :: text =>
      if quote.val = 0x22 then do
        let (key, behind) ← readString text
        match skipBlanks behind with
        | [] => none
        | colon :: later =>
            if colon.val = 0x3A then do
              let (value, rest) ← readItem (skipBlanks later)
              return ((key, value), rest)
            else none
      else none

/-- A value, nested no deeper than this. -/
def readValue : Nat → Reader CodePoint Json
  | 0, _ => none
  | _ + 1, [] => none
  | depth + 1, first :: rest =>
      if first.val = 0x22 then
        (readString rest).map fun (text, later) => (.str text, later)
      else if first.val = 0x7B then
        (readClosed isJsonBlank 0x2C 0x7D (readEntry (readValue depth))
          (rest.length + 1) rest).map fun (entries, later) =>
            (.dict (PyDict.ofList entries).entries, later)
      else if first.val = 0x5B then
        (readClosed isJsonBlank 0x2C 0x5D (readValue depth)
          (rest.length + 1) rest).map fun (items, later) =>
            (.list items, later)
      else if first.val = 0x6E then readWord "null" .null (first :: rest)
      else if first.val = 0x74 then
        readWord "true" (.bool true) (first :: rest)
      else if first.val = 0x66 then
        readWord "false" (.bool false) (first :: rest)
      else readNumber (first :: rest)

theorem readValue_quote (depth : Nat) (text : PyStr) :
    readValue (depth + 1) (0x22 :: text) =
      (readString text).map fun taken => (.str taken.1, taken.2) :=
  rfl

theorem readValue_brace (depth : Nat) (text : PyStr) :
    readValue (depth + 1) (0x7B :: text) =
      (readClosed isJsonBlank 0x2C 0x7D (readEntry (readValue depth))
        (text.length + 1) text).map fun taken =>
          (.dict (PyDict.ofList taken.1).entries, taken.2) :=
  rfl

theorem readValue_bracket (depth : Nat) (text : PyStr) :
    readValue (depth + 1) (0x5B :: text) =
      (readClosed isJsonBlank 0x2C 0x5D (readValue depth)
        (text.length + 1) text).map fun taken =>
          (.list taken.1, taken.2) :=
  rfl

/-- `json.loads(text)`; `none` is `ValueError`. -/
def Json.loads (text : PyStr) : Option Json :=
  if text.head? = some 0xFEFF then none
  else do
    let (value, rest) ← readValue (text.length + 1) (skipBlanks text)
    if skipBlanks rest = [] then return value else none

/-! ## Every value takes a symbol -/

section Consumption

omit [FloatReader]

theorem length_skipBlanks_le (text : PyStr) :
    (skipBlanks text).length ≤ text.length :=
  length_dropWhile_le text

theorem consumes_readWord {word : PyStr} (nonempty : word ≠ [])
    (value : Json) : Consumes (readWord word value) := by
  intro text read rest result
  unfold readWord at result
  split_ifs at result with spelled
  cases result
  have positive := List.length_pos_of_ne_nil nonempty
  have taken := congrArg List.length spelled
  rw [List.length_take] at taken
  rw [List.length_drop]
  omega

theorem consumes_readUnit : Consumes readUnit := by
  intro text unit rest result
  unfold readUnit at result
  split at result
  · simp only [Option.bind_eq_bind, Option.bind_eq_some_iff] at result
    obtain ⟨a, -, b, -, c, -, d, -, same⟩ := result
    cases same
    simp only [List.length_cons]
    omega
  · cases result

theorem consumes_readLowHalf : Consumes readLowHalf := by
  intro text unit rest result
  unfold readLowHalf at result
  split_ifs at result with escaped
  cases read : readUnit (text.drop 2) with
  | none => simp [read] at result
  | some taken =>
      obtain ⟨low, later⟩ := taken
      have shorter := consumes_readUnit read
      rw [List.length_drop] at shorter
      simp only [read] at result
      split_ifs at result
      cases result
      omega

theorem rest_of_return {α : Type} {value read : α} {later rest : PyStr}
    (result : some (value, later) = some (read, rest)) : rest = later := by
  cases result
  rfl

theorem consumes_readUnicode : Consumes readUnicode := by
  intro text point rest result
  unfold readUnicode at result
  simp only [Option.bind_eq_bind, Option.bind_eq_some_iff] at result
  obtain ⟨⟨unit, behind⟩, read, result⟩ := result
  have shorter := consumes_readUnit read
  split_ifs at result with high
  · cases low : readLowHalf behind with
    | none =>
        simp only [low] at result
        rw [rest_of_return result]
        exact shorter
    | some taken =>
        have evenShorter := consumes_readLowHalf low
        simp only [low] at result
        rw [rest_of_return result]
        exact evenShorter.trans shorter
  · rw [rest_of_return result]
    exact shorter

theorem consumes_readChar : Consumes readChar := by
  intro text point rest result
  cases text with
  | nil => cases result
  | cons first behind =>
      unfold readChar at result
      simp only at result
      split_ifs at result with escape control
      · cases behind with
        | nil => cases result
        | cons letter later =>
            simp only at result
            split_ifs at result with unicode
            · have shorter := consumes_readUnicode result
              simp only [List.length_cons]
              omega
            · obtain ⟨meant, -, same⟩ := Option.map_eq_some_iff.mp result
              cases same
              simp only [List.length_cons]
              omega
      · cases result
        exact Nat.lt_succ_self _

theorem consumes_readString : Consumes readString := by
  intro text value rest result
  exact consumes_readRun consumes_readChar _ result

theorem length_readDigitsBehind (front text : PyStr) :
    (readDigitsBehind front text).2.length ≤ text.length := by
  have digits := @length_dropWhile_le _ isJsonDigit (text.drop front.length)
  rw [List.length_drop] at digits
  simp only [readDigitsBehind]
  split
  · exact le_rfl
  · exact digits.trans (Nat.sub_le _ _)

theorem length_readFraction (text : PyStr) :
    (readFraction text).2.length ≤ text.length := by
  unfold readFraction
  split
  · exact le_rfl
  · split_ifs
    · exact length_readDigitsBehind _ _
    · exact le_rfl

theorem length_readExponent (text : PyStr) :
    (readExponent text).2.length ≤ text.length := by
  unfold readExponent
  split
  · exact le_rfl
  · split_ifs
    · split
      · exact le_rfl
      · split_ifs
        · exact length_readDigitsBehind _ _
        · exact length_readDigitsBehind _ _
    · exact le_rfl

theorem length_readSign (text : PyStr) :
    (readSign text).2.length ≤ text.length := by
  unfold readSign
  split
  · exact le_rfl
  · split_ifs
    · exact Nat.le_succ _
    · exact le_rfl

theorem consumes_readWhole : Consumes readWhole := by
  intro text digits rest result
  unfold readWhole at result
  split at result
  · cases result
  · split_ifs at result
    · cases result
      exact Nat.lt_succ_self _
    · cases result
      exact Nat.lt_succ_of_le (length_dropWhile_le _)

theorem consumes_readEntry {readItem : Reader CodePoint Json}
    (consumes : Consumes readItem) : Consumes (readEntry readItem) := by
  intro text entry rest result
  cases text with
  | nil => cases result
  | cons quote text =>
      rw [readEntry] at result
      split_ifs at result with quoted
      simp only [Option.bind_eq_bind, Option.bind_eq_some_iff] at result
      obtain ⟨⟨key, behind⟩, readKey, result⟩ := result
      have shorter := consumes_readString readKey
      have skipped := length_skipBlanks_le behind
      cases following : skipBlanks behind with
      | nil => simp [following] at result
      | cons colon later =>
          rw [following, List.length_cons] at skipped
          simp only [following] at result
          split_ifs at result with colonHere
          simp only [Option.bind_eq_some_iff] at result
          obtain ⟨⟨value, remainder⟩, readValue, same⟩ := result
          cases same
          have taken := consumes readValue
          have blanks := length_skipBlanks_le later
          simp only [List.length_cons] at *
          omega

/-- Readers that agree on short texts read the same entry. -/
theorem readEntry_congr {readItem other : Reader CodePoint Json} {bound : Nat}
    (agree : ∀ text, text.length < bound → readItem text = other text)
    {text : PyStr} (short : text.length < bound) :
    readEntry readItem text = readEntry other text := by
  cases text with
  | nil => rfl
  | cons quote text =>
      rw [readEntry, readEntry]
      split_ifs with quoted
      · cases readKey : readString text with
        | none => rfl
        | some taken =>
            obtain ⟨key, behind⟩ := taken
            have shorter := consumes_readString readKey
            have skipped := length_skipBlanks_le behind
            simp only [Option.bind_eq_bind, Option.bind_some]
            cases following : skipBlanks behind with
            | nil => rfl
            | cons colon later =>
                have blanks := length_skipBlanks_le later
                rw [following, List.length_cons] at skipped
                rw [List.length_cons] at short
                simp only [agree (skipBlanks later) (by omega)]
      · rfl

end Consumption

theorem consumes_readNumber : Consumes readNumber := by
  intro text value rest result
  have signed := length_readSign text
  unfold readNumber at result
  simp only [Option.bind_eq_bind, Option.bind_eq_some_iff] at result
  obtain ⟨⟨whole, behind⟩, read, result⟩ := result
  have shorter := consumes_readWhole read
  have fraction := length_readFraction behind
  have exponent := length_readExponent (readFraction behind).2
  simp only at result
  split_ifs at result
  · cases result
    omega
  · cases result
    omega
  · simp only [Option.bind_eq_some_iff] at result
    obtain ⟨number, -, same⟩ := result
    cases same
    omega

theorem consumes_readValue (depth : Nat) : Consumes (readValue depth) := by
  induction depth with
  | zero =>
      intro text value rest result
      cases result
  | succ depth induction =>
      intro text value rest result
      cases text with
      | nil => cases result
      | cons first behind =>
          rw [readValue] at result
          split_ifs at result
          · obtain ⟨⟨read, later⟩, taken, same⟩ :=
              Option.map_eq_some_iff.mp result
            cases same
            exact (consumes_readString taken).trans (Nat.lt_succ_self _)
          · obtain ⟨⟨entries, later⟩, taken, same⟩ :=
              Option.map_eq_some_iff.mp result
            cases same
            exact (consumes_readClosed (consumes_readEntry induction) _
              taken).trans (Nat.lt_succ_self _)
          · obtain ⟨⟨items, later⟩, taken, same⟩ :=
              Option.map_eq_some_iff.mp result
            cases same
            exact (consumes_readClosed induction _ taken).trans
              (Nat.lt_succ_self _)
          · exact consumes_readWord (by decide) _ result
          · exact consumes_readWord (by decide) _ result
          · exact consumes_readWord (by decide) _ result
          · exact consumes_readNumber result

/-- Nesting takes symbols: no text exhausts a bound above its length. -/
theorem readValue_congr {text : PyStr} {depth more : Nat}
    (enough : text.length < depth) (alsoEnough : text.length < more) :
    readValue depth text = readValue more text := by
  induction depth generalizing text more with
  | zero => exact absurd enough (Nat.not_lt_zero _)
  | succ depth induction =>
      obtain ⟨more, rfl⟩ := Nat.exists_eq_add_one_of_ne_zero
        (Nat.ne_of_gt (Nat.zero_lt_of_lt alsoEnough))
      cases text with
      | nil => rfl
      | cons first rest =>
          rw [List.length_cons] at enough alsoEnough
          have agree (shorter : PyStr)
              (short : shorter.length < rest.length + 1) :
              readValue depth shorter = readValue more shorter :=
            induction (by omega) (by omega)
          have short := Nat.lt_succ_self rest.length
          have entries :
              readClosed isJsonBlank 0x2C 0x7D (readEntry (readValue depth))
                  (rest.length + 1) rest =
                readClosed isJsonBlank 0x2C 0x7D (readEntry (readValue more))
                  (rest.length + 1) rest := by
            apply readClosed_congr _ _ short short short
            · exact consumes_readEntry (consumes_readValue depth)
            · intro shorter
              exact readEntry_congr agree
          have items :
              readClosed isJsonBlank 0x2C 0x5D (readValue depth)
                  (rest.length + 1) rest =
                readClosed isJsonBlank 0x2C 0x5D (readValue more)
                  (rest.length + 1) rest :=
            readClosed_congr (consumes_readValue depth) agree short short short
          rw [readValue, readValue, entries, items]

end Python
