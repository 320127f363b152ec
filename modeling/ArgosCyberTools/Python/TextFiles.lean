import ArgosCyberTools.Coding.Reading
import ArgosCyberTools.Python.Text

/-!
# Text files

`path.write_text(text, encoding="utf-8")` and `path.read_text(...)` on a
POSIX system.  The decoder is strict: it refuses overlong forms, surrogates
and what lies beyond the code space.  Reading translates every line end to a
line feed, so a text is read back as it was written if it has no carriage
return.
-/

namespace Python

open Coding

/-- The six bits of a continuation byte. -/
def continuationBits (byte : UInt8) : Option Nat :=
  if 0x80 ≤ byte.toNat ∧ byte.toNat < 0xC0 then some (byte.toNat - 0x80)
  else none

/-- The two, three or four bytes of a longer form. -/
def readContinuation (lead : Nat) : Nat → Reader UInt8 Nat
  | 0, bytes => some (lead, bytes)
  | _ + 1, [] => none
  | more + 1, byte :: bytes => do
      let bits ← continuationBits byte
      readContinuation (lead * 0x40 + bits) more bytes

/-- A code point of a longer form, which must not have a shorter one. -/
def readLongForm (least lead more : Nat) : Reader UInt8 CodePoint :=
  fun bytes => do
    let (number, rest) ← readContinuation lead more bytes
    if least ≤ number ∧ number < 0x110000 ∧
        ¬ (0xD800 ≤ number ∧ number ≤ 0xDFFF) then
      return (.ofNat _ number, rest)
    else none

/-- One code point. -/
def readUtf8 : Reader UInt8 CodePoint
  | [] => none
  | first :: bytes =>
      let byte := first.toNat
      if byte < 0x80 then some (.ofNat _ byte, bytes)
      else if byte < 0xC0 then none
      else if byte < 0xE0 then readLongForm 0x80 (byte - 0xC0) 1 bytes
      else if byte < 0xF0 then readLongForm 0x800 (byte - 0xE0) 2 bytes
      else if byte < 0xF8 then readLongForm 0x10000 (byte - 0xF0) 3 bytes
      else none

/-- `data.decode("utf-8")`; `none` is `UnicodeDecodeError`. -/
def decodeUtf8 (bytes : List UInt8) : Option PyStr :=
  readAll readUtf8 bytes.length bytes

/-- Every line end becomes a line feed. -/
def translateNewlines : PyStr → PyStr
  | [] => []
  | point :: rest =>
      if point = 0x0D then
        if rest.head? = some 0x0A then translateNewlines rest
        else 0x0A :: translateNewlines rest
      else point :: translateNewlines rest

/-- `path.read_text(encoding="utf-8")`. -/
def readText (bytes : List UInt8) : Option PyStr :=
  (decodeUtf8 bytes).map translateNewlines

/-- `path.write_text(text, encoding="utf-8")`: what the file then holds. -/
def writeText (text : PyStr) : Except BuiltinError (List UInt8) :=
  text.encode

/-! ## A text is read back -/

theorem continuationBits_ofNat {bits : Nat} (bound : bits < 0x40) :
    continuationBits (.ofNat (0x80 + bits)) = some bits := by
  have byte : (UInt8.ofNat (0x80 + bits)).toNat = 0x80 + bits := by
    rw [UInt8.toNat_ofNat']
    omega
  rw [continuationBits, byte, if_pos (by omega), Nat.add_sub_cancel_left]

/-- A continuation byte adds its bits. -/
theorem readContinuation_cons {lead more bits : Nat} {bytes : List UInt8}
    (bound : bits < 0x40) :
    readContinuation lead (more + 1) (.ofNat (0x80 + bits) :: bytes) =
      readContinuation (lead * 0x40 + bits) more bytes := by
  rw [readContinuation, continuationBits_ofNat bound]
  rfl

/-- A byte that starts a longer form. -/
theorem toNat_ofNat {number : Nat} (small : number < 0x100) :
    (UInt8.ofNat number).toNat = number := by
  rw [UInt8.toNat_ofNat', Nat.mod_eq_of_lt small]

/-- A longer form is read as its number, if that is a scalar value. -/
theorem readLongForm_eq {least lead more : Nat} {point : CodePoint}
    {bytes rest : List UInt8} (scalar : point.isSurrogate = false)
    (shortest : least ≤ point.val)
    (read : readContinuation lead more bytes = some (point.val, rest)) :
    readLongForm least lead more bytes = some (point, rest) := by
  have bound := point.isLt
  have notSurrogate : ¬ (0xD800 ≤ point.val ∧ point.val ≤ 0xDFFF) :=
    of_decide_eq_false scalar
  rw [readLongForm, read]
  simp only [Option.bind_eq_bind, Option.bind_some]
  rw [if_pos ⟨shortest, bound, notSurrogate⟩, Fin.ofNat_val_eq_self]
  rfl

/-- The bytes of a code point are read as the code point. -/
theorem readsAs_utf8Bytes {ends : Set UInt8} {point : CodePoint}
    (scalar : point.isSurrogate = false) :
    ReadsAs ends readUtf8 (utf8Bytes point) point := by
  intro rest follows
  have bound := point.isLt
  have low (shift : Nat) : shift % 0x40 < 0x40 := Nat.mod_lt _ (by decide)
  unfold utf8Bytes
  simp only
  split_ifs with one two three
  · have first := @toNat_ofNat point.val (by omega)
    simp only [List.cons_append, List.nil_append, readUtf8, first, if_pos one,
      Fin.ofNat_val_eq_self]
  · have first := @toNat_ofNat (0xC0 + point.val / 0x40) (by omega)
    have number :
        point.val / 0x40 * 0x40 + point.val % 0x40 = point.val := by
      omega
    have form : readLongForm 0x80 (point.val / 0x40) 1
        (.ofNat (0x80 + point.val % 0x40) :: rest) = some (point, rest) := by
      apply readLongForm_eq scalar (by omega)
      rw [readContinuation_cons (low _), readContinuation, number]
    simp only [List.cons_append, List.nil_append, readUtf8, first,
      Nat.add_sub_cancel_left, form]
    rw [if_neg (by omega), if_neg (by omega), if_pos (by omega)]
  · have first := @toNat_ofNat (0xE0 + point.val / 0x1000) (by omega)
    have number :
        (point.val / 0x1000 * 0x40 + point.val / 0x40 % 0x40) * 0x40 +
          point.val % 0x40 = point.val := by
      omega
    have form : readLongForm 0x800 (point.val / 0x1000) 2
        (.ofNat (0x80 + point.val / 0x40 % 0x40) ::
          .ofNat (0x80 + point.val % 0x40) :: rest) = some (point, rest) := by
      apply readLongForm_eq scalar (by omega)
      rw [readContinuation_cons (low _), readContinuation_cons (low _),
        readContinuation, number]
    simp only [List.cons_append, List.nil_append, readUtf8, first,
      Nat.add_sub_cancel_left, form]
    rw [if_neg (by omega), if_neg (by omega), if_neg (by omega),
      if_pos (by omega)]
  · have first := @toNat_ofNat (0xF0 + point.val / 0x40000) (by omega)
    have number :
        ((point.val / 0x40000 * 0x40 + point.val / 0x1000 % 0x40) * 0x40 +
          point.val / 0x40 % 0x40) * 0x40 + point.val % 0x40 = point.val := by
      omega
    have form : readLongForm 0x10000 (point.val / 0x40000) 3
        (.ofNat (0x80 + point.val / 0x1000 % 0x40) ::
          .ofNat (0x80 + point.val / 0x40 % 0x40) ::
          .ofNat (0x80 + point.val % 0x40) :: rest) = some (point, rest) := by
      apply readLongForm_eq scalar (by omega)
      rw [readContinuation_cons (low _), readContinuation_cons (low _),
        readContinuation_cons (low _), readContinuation, number]
    simp only [List.cons_append, List.nil_append, readUtf8, first,
      Nat.add_sub_cancel_left, form]
    rw [if_neg (by omega), if_neg (by omega), if_neg (by omega),
      if_neg (by omega), if_pos (by omega)]

/-- A text without lone surrogates can be encoded and decoded. -/
theorem decodeUtf8_flatMap {text : PyStr} (scalar : SurrogateFree text) :
    decodeUtf8 (text.flatMap utf8Bytes) = some text := by
  apply readAll_flatMap _ _ le_rfl
  · intro point _
    exact utf8Bytes_ne_nil point
  · intro point member
    exact readsAs_utf8Bytes (scalar point member)

theorem translateNewlines_eq_self {text : PyStr}
    (plain : (0x0D : CodePoint) ∉ text) : translateNewlines text = text := by
  induction text with
  | nil => rfl
  | cons point rest induction =>
      obtain ⟨notHere, notLater⟩ := not_or.mp (mt List.mem_cons.mpr plain)
      rw [translateNewlines, if_neg (Ne.symm notHere), induction notLater]

/-- What was written is read, carriage returns apart. -/
theorem readText_of_writeText {text : PyStr} {bytes : List UInt8}
    (written : writeText text = .ok bytes)
    (plain : (0x0D : CodePoint) ∉ text) : readText bytes = some text := by
  obtain ⟨scalar, rfl⟩ := PyStr.encode_eq_ok_iff.mp written
  rw [readText, decodeUtf8_flatMap scalar, Option.map_some,
    translateNewlines_eq_self plain]

end Python
