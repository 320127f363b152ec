import Mathlib

/-!
# Where a word occurs

A word that does not hold the separator occurs in a separated text only
inside one of the parts, and escaping letters a word does not hold neither
creates nor destroys an occurrence of it.
-/

namespace Coding

variable {Letter : Type*} {word front back : List Letter} {stop : Letter}

/-! ## Separated texts -/

theorem prefix_append_cons_iff (outside : stop ∉ word) :
    word <+: front ++ stop :: back ↔ word <+: front := by
  induction front generalizing word with
  | nil =>
      cases word with
      | nil => simp
      | cons head rest =>
          have different : head ≠ stop := by
            rintro rfl
            exact outside List.mem_cons_self
          simp [List.cons_prefix_cons, different]
  | cons letter front induction =>
      cases word with
      | nil => simp
      | cons head rest =>
          have later : stop ∉ rest :=
            fun member => outside (List.mem_cons_of_mem _ member)
          rw [List.cons_append, List.cons_prefix_cons, List.cons_prefix_cons,
            induction later]

/-- A word without the separator does not run across it. -/
theorem infix_append_cons_iff (outside : stop ∉ word) :
    word <:+: front ++ stop :: back ↔ word <:+: front ∨ word <:+: back := by
  induction front with
  | nil =>
      have atStop : word <+: stop :: back ↔ word <+: [] :=
        @prefix_append_cons_iff _ word [] back stop outside
      rw [List.nil_append, List.infix_cons_iff, atStop, List.prefix_nil,
        List.infix_nil]
  | cons letter front induction =>
      have atFront : word <+: letter :: (front ++ stop :: back) ↔
          word <+: letter :: front :=
        @prefix_append_cons_iff _ word (letter :: front) back stop outside
      rw [List.cons_append, List.infix_cons_iff, List.infix_cons_iff,
        induction, atFront, or_assoc]

/-- An occurrence does not begin where its first letter is missing. -/
theorem infix_append_of_head {head : Letter} {rest : List Letter}
    (absent : head ∉ front) :
    head :: rest <:+: front ++ back ↔ head :: rest <:+: back := by
  induction front with
  | nil => rfl
  | cons letter front induction =>
      rw [List.mem_cons, not_or] at absent
      rw [List.cons_append, List.infix_cons_iff, List.cons_prefix_cons,
        induction absent.2]
      simp [absent.1]

/-! ## Escaped texts -/

/-- A letter that is not left alone is foreign to the word, and so is the mark. -/
def KeepsLetter (word : List Letter) (letter : Letter)
    (written : List Letter) : Prop :=
  written = [letter] ∨
    letter ∉ word ∧
      ∃ mark rest, written = mark :: rest ∧ mark ∉ word ∧
        ∀ head ∈ word.head?, head ∉ rest

theorem KeepsLetter.ite {letter : Letter} {written other : List Letter}
    {condition : Prop} [Decidable condition]
    (kept : KeepsLetter word letter written)
    (otherKept : KeepsLetter word letter other) :
    KeepsLetter word letter (if condition then written else other) := by
  split_ifs
  · exact kept
  · exact otherKept

def KeepsLetters (escape : Letter → List Letter) (word : List Letter) : Prop :=
  ∀ letter, KeepsLetter word letter (escape letter)

variable {escape : Letter → List Letter} {text : List Letter}

theorem prefix_flatMap_iff
    (keeps : ∀ letter, escape letter = [letter] ∨
      letter ∉ word ∧
        ∃ mark rest, escape letter = mark :: rest ∧ mark ∉ word) :
    word <+: text.flatMap escape ↔ word <+: text := by
  induction text generalizing word with
  | nil => rfl
  | cons letter text induction =>
      cases word with
      | nil => simp
      | cons head word =>
          rw [List.flatMap_cons]
          rcases keeps letter with same | ⟨foreign, mark, rest, escaped, outside⟩
          · rw [same, List.singleton_append, List.cons_prefix_cons,
              List.cons_prefix_cons, induction]
            intro other
            rcases keeps other with same | ⟨foreign, mark, rest, escaped, outside⟩
            · exact .inl same
            · exact .inr ⟨fun member => foreign (List.mem_cons_of_mem _ member),
                mark, rest, escaped,
                fun member => outside (List.mem_cons_of_mem _ member)⟩
          · rw [List.mem_cons, not_or] at foreign outside
            rw [escaped, List.cons_append, List.cons_prefix_cons,
              List.cons_prefix_cons]
            simp [Ne.symm foreign.1, Ne.symm outside.1]

theorem KeepsLetters.marked (keeps : KeepsLetters escape word) :
    ∀ letter, escape letter = [letter] ∨
      letter ∉ word ∧
        ∃ mark rest, escape letter = mark :: rest ∧ mark ∉ word := by
  intro letter
  rcases keeps letter with same | ⟨foreign, mark, rest, escaped, outside, -⟩
  · exact .inl same
  · exact .inr ⟨foreign, mark, rest, escaped, outside⟩

/-- Escaping does not touch the occurrences of the word. -/
theorem infix_flatMap_iff {head : Letter} {rest : List Letter}
    (keeps : KeepsLetters escape (head :: rest)) :
    head :: rest <:+: text.flatMap escape ↔ head :: rest <:+: text := by
  induction text with
  | nil => rfl
  | cons letter text induction =>
      have atFront : head :: rest <+: (letter :: text).flatMap escape ↔
          head :: rest <+: letter :: text :=
        prefix_flatMap_iff keeps.marked
      rw [List.flatMap_cons] at atFront ⊢
      rcases keeps letter with
        same | ⟨foreign, mark, tail, escaped, outside, free⟩
      · rw [same, List.singleton_append] at atFront ⊢
        rw [List.infix_cons_iff, atFront, List.infix_cons_iff, induction]
      · have absent : head ∉ escape letter := by
          rw [escaped, List.mem_cons, not_or]
          refine ⟨?_, free head rfl⟩
          rintro rfl
          exact outside List.mem_cons_self
        have elsewhere : ¬ head :: rest <+: letter :: text := by
          rintro ⟨_, equal⟩
          cases equal
          exact foreign List.mem_cons_self
        rw [infix_append_of_head absent, induction, List.infix_cons_iff]
        simp [elsewhere]

end Coding
