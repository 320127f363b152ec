import ArgosCyberTools.Coding.Occurrence
import ArgosCyberTools.Python.Runtime

/-!
# Words inside quoted texts

`repr` escapes no letter, so a word made of letters occurs in the `repr` of
a text, or of a tuple of texts, exactly when it occurs in a text.
-/

namespace Python

open Coding

/-- A Latin letter of ASCII. -/
def CodePoint.IsLetter (point : CodePoint) : Prop :=
  (0x41 ≤ point.val ∧ point.val ≤ 0x5A) ∨ (0x61 ≤ point.val ∧ point.val ≤ 0x7A)

instance (point : CodePoint) : Decidable point.IsLetter :=
  inferInstanceAs (Decidable (_ ∨ _))

/-- Letters only, the first of them a capital that opens no escape. -/
structure IsCapitalised (word : PyStr) : Prop where
  letters : ∀ point ∈ word, point.IsLetter
  capital : ∃ head ∈ word.head?,
    head.val ≤ 0x5A ∧ head ≠ CodePoint.ofChar 'U'

instance (word : PyStr) : Decidable (IsCapitalised word) :=
  decidable_of_iff
    ((word.all fun point => decide point.IsLetter) = true ∧
      (word.head?.any fun head =>
        decide (head.val ≤ 0x5A ∧ head ≠ CodePoint.ofChar 'U')) = true) (by
    rw [List.all_eq_true, Option.any_eq_true]
    simp only [decide_eq_true_eq]
    exact ⟨fun ⟨letters, capital⟩ => ⟨letters, capital⟩,
      fun word => ⟨word.letters, word.capital⟩⟩)

theorem IsCapitalised.exists_cons {word : PyStr} (shaped : IsCapitalised word) :
    ∃ head rest, word = head :: rest ∧ head.IsLetter ∧ head.val ≤ 0x5A ∧
      head ≠ CodePoint.ofChar 'U' := by
  obtain ⟨head, first, upper, notU⟩ := shaped.capital
  cases word with
  | nil => cases first
  | cons letter rest =>
      cases first
      exact ⟨head, rest, rfl, shaped.letters head List.mem_cons_self, upper,
        notU⟩

theorem IsCapitalised.not_mem {word : PyStr} (shaped : IsCapitalised word)
    {point : CodePoint} (foreign : ¬ point.IsLetter) : point ∉ word :=
  fun member => foreign (shaped.letters point member)

/-- The mark that opens an escape. -/
def backslash : CodePoint := 0x5C

/-- A hexadecimal digit is no capital. -/
theorem not_mem_hexDigits {width number : Nat} {head : CodePoint}
    (letter : head.IsLetter) (upper : head.val ≤ 0x5A) :
    head ∉ hexDigits width number := by
  intro member
  obtain ⟨position, -, rfl⟩ := List.mem_map.mp member
  have small : number / 16 ^ position % 16 < 16 := Nat.mod_lt _ (by decide)
  generalize number / 16 ^ position % 16 = digit at small letter upper
  interval_cases digit <;> revert letter upper <;> decide

section Quoting

variable [PyRuntime] {word text : PyStr}

/-- What an escape writes for a character that is not a letter. -/
theorem reprChar_keepsLetters {quote : CodePoint} (foreign : ¬ quote.IsLetter)
    (shaped : IsCapitalised word) : KeepsLetters (reprChar quote) word := by
  intro point
  by_cases letter : point.IsLetter
  · left
    have different : point ≠ quote := by
      rintro rfl
      exact foreign letter
    have range : 0x41 ≤ point.val ∧ point.val ≤ 0x7A ∧ point.val ≠ 0x5C := by
      rcases letter with upper | lower <;> omega
    have least : ¬ point.val < 0x20 := by omega
    have delete : point.val ≠ 0x7F := by omega
    have ascii : point.val < 0x7F := by omega
    have tab : point.val ≠ 0x09 := by omega
    have newline : point.val ≠ 0x0A := by omega
    have carriage : point.val ≠ 0x0D := by omega
    simp [reprChar, different, range.2.2, tab, newline, carriage, least, delete,
      ascii]
  · obtain ⟨head, rest, rfl, capital, upper, notU⟩ := shaped.exists_cons
    have outside : backslash ∉ head :: rest := shaped.not_mem (by decide)
    have escaped (tail : PyStr) (absent : head ∉ tail) :
        KeepsLetter (head :: rest) point (backslash :: tail) := by
      refine .inr ⟨shaped.not_mem letter, _, tail, rfl, outside, ?_⟩
      rintro first ⟨⟩
      exact absent
    have plain : KeepsLetter (head :: rest) point [point] := .inl rfl
    have self : head ∉ [point] := by
      rw [List.mem_singleton]
      rintro rfl
      exact letter capital
    have notLower (char : Char) (lower : 0x5A < (CodePoint.ofChar char).val) :
        head ≠ CodePoint.ofChar char := by
      rintro rfl
      exact absurd upper (Nat.not_le.mpr lower)
    have short (char : Char) (lower : 0x5A < (CodePoint.ofChar char).val) :
        KeepsLetter (head :: rest) point
          [backslash, CodePoint.ofChar char] := by
      apply escaped
      rw [List.mem_singleton]
      exact notLower char lower
    have coded (char : Char) (width : Nat)
        (distinct : head ≠ CodePoint.ofChar char) :
        KeepsLetter (head :: rest) point
          (backslash :: CodePoint.ofChar char ::
            hexDigits width point.val) := by
      apply escaped
      rw [List.mem_cons, not_or]
      exact ⟨distinct, not_mem_hexDigits capital upper⟩
    unfold reprChar
    apply (escaped [point] self).ite
    apply (short 't' (by decide)).ite
    apply (short 'n' (by decide)).ite
    apply (short 'r' (by decide)).ite
    apply (coded 'x' 2 (notLower 'x' (by decide))).ite
    apply plain.ite
    apply plain.ite
    apply (coded 'x' 2 (notLower 'x' (by decide))).ite
    apply (coded 'u' 4 (notLower 'u' (by decide))).ite
    exact coded 'U' 8 notU

theorem infix_reprText_iff (shaped : IsCapitalised word) :
    word <:+: reprText text ↔ word <:+: text := by
  have quoted (quote : CodePoint) (foreign : ¬ quote.IsLetter) :
      word <:+: [quote] ++ text.flatMap (reprChar quote) ++ [quote] ↔
        word <:+: text := by
    have outside : quote ∉ word := shaped.not_mem foreign
    have keeps := reprChar_keepsLetters foreign shaped
    obtain ⟨head, rest, rfl, -⟩ := shaped.exists_cons
    have opening (back : PyStr) : head :: rest <:+: quote :: back ↔
        head :: rest <:+: [] ∨ head :: rest <:+: back :=
      @infix_append_cons_iff _ _ [] back quote outside
    rw [List.append_assoc, List.singleton_append, opening,
      infix_append_cons_iff outside, infix_flatMap_iff keeps]
    simp
  unfold reprText
  simp only
  split_ifs
  · exact quoted _ (by decide)
  · exact quoted _ (by decide)

/-- `repr` of a tuple of texts. -/
theorem infix_reprTextTuple_iff (shaped : IsCapitalised word)
    (items : List PyStr) :
    word <:+: reprTextTuple items ↔ ∃ item ∈ items, word <:+: item := by
  have outside (char : Char) (foreign : ¬ (CodePoint.ofChar char).IsLetter) :
      CodePoint.ofChar char ∉ word := shaped.not_mem foreign
  have nonempty : ¬ word <:+: ([] : PyStr) := by
    obtain ⟨head, rest, rfl, -⟩ := shaped.exists_cons
    simp
  have joined : word <:+: PyStr.joinWith ", " (items.map reprText) ↔
      ∃ item ∈ items, word <:+: item := by
    induction items with
    | nil => simpa [PyStr.joinWith] using nonempty
    | cons item items induction =>
        cases items with
        | nil => simp [PyStr.joinWith, infix_reprText_iff shaped]
        | cons next items =>
            have comma : word <:+: reprText item ++ CodePoint.ofChar ',' ::
                  (CodePoint.ofChar ' ' ::
                    PyStr.joinWith ", " ((next :: items).map reprText)) ↔
                word <:+: reprText item ∨
                  word <:+: ([] ++ CodePoint.ofChar ' ' ::
                    PyStr.joinWith ", " ((next :: items).map reprText)) :=
              infix_append_cons_iff (outside ',' (by decide))
            rw [infix_append_cons_iff (outside ' ' (by decide)), induction,
              infix_reprText_iff shaped] at comma
            rw [List.map_cons, List.map_cons, PyStr.joinWith,
              ← List.map_cons, List.append_assoc]
            refine comma.trans ?_
            simp [nonempty]
  have opening (rest : PyStr) : word <:+: ("(" : PyStr) ++ rest ↔
      word <:+: ([] : PyStr) ∨ word <:+: rest :=
    @infix_append_cons_iff _ _ [] rest _ (outside '(' (by decide))
  have closed (front : PyStr) (char : Char) (back : PyStr)
      (foreign : ¬ (CodePoint.ofChar char).IsLetter)
      (empty : ¬ word <:+: back) :
      word <:+: front ++ CodePoint.ofChar char :: back ↔ word <:+: front := by
    rw [infix_append_cons_iff (outside char foreign)]
    simp [empty]
  unfold reprTextTuple
  split
  · rename_i only
    have ending : ¬ word <:+: (")" : PyStr) := by
      rw [show (")" : PyStr) = [] ++ CodePoint.ofChar ')' :: [] from rfl,
        closed [] ')' [] (by decide) nonempty]
      exact nonempty
    rw [List.append_assoc, opening,
      show ((",)" : String) : PyStr) = CodePoint.ofChar ',' :: (")" : PyStr) from rfl,
      closed _ ',' _ (by decide) ending, infix_reprText_iff shaped]
    simp [nonempty]
  · rw [List.append_assoc, opening,
      show ((")" : String) : PyStr) = CodePoint.ofChar ')' :: [] from rfl,
      closed _ ')' _ (by decide) nonempty, joined]
    simp [nonempty]

end Quoting

end Python
