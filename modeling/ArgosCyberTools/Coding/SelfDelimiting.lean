import Mathlib

/-!
# Self-delimiting encoders

An encoder is self-delimiting on a domain when its code words can be peeled
off the front of any stream: equal streams carry equal first values and
equal remainders.  The notion composes.  Runs of code words closed by a
terminator that begins no code word are again self-delimiting, and so are
encoders framed by fixed text.  Injectivity of a whole text format is then
read off its pieces.
-/

namespace Coding

variable {α β : Type*}

/-- Equal streams carry equal first values and equal remainders. -/
def SelfDelimiting (encode : α → List β) (domain : Set α) : Prop :=
  ∀ ⦃left⦄, left ∈ domain → ∀ ⦃right⦄, right ∈ domain →
    ∀ leftRest rightRest,
      encode left ++ leftRest = encode right ++ rightRest →
        left = right ∧ leftRest = rightRest

namespace SelfDelimiting

variable {encode : α → List β} {domain : Set α}

/-- Fixed text in front of the code word changes nothing. -/
theorem prepend (opening : List β)
    (delimited : SelfDelimiting encode domain) :
    SelfDelimiting (fun value => opening ++ encode value) domain := by
  intro left leftMember right rightMember leftRest rightRest equal
  rw [List.append_assoc, List.append_assoc] at equal
  exact delimited leftMember rightMember _ _
    (List.append_cancel_left equal)

/-- A run of nonempty code words determines the values it encodes. -/
theorem flatMap_injOn
    (delimited : SelfDelimiting encode domain)
    (nonempty : ∀ value ∈ domain, encode value ≠ []) :
    Set.InjOn (List.flatMap encode)
      {values | ∀ value ∈ values, value ∈ domain} := by
  intro left leftMember right rightMember equal
  induction left generalizing right with
  | nil =>
      cases right with
      | nil => rfl
      | cons head tail =>
          have empty : encode head = [] := by
            simp only [List.flatMap_nil, List.flatMap_cons] at equal
            exact (List.append_eq_nil_iff.mp equal.symm).1
          exact (nonempty head (rightMember head (by simp)) empty).elim
  | cons head tail induction =>
      cases right with
      | nil =>
          have empty : encode head = [] := by
            simp only [List.flatMap_nil, List.flatMap_cons] at equal
            exact (List.append_eq_nil_iff.mp equal).1
          exact (nonempty head (leftMember head (by simp)) empty).elim
      | cons otherHead otherTail =>
          simp only [List.flatMap_cons] at equal
          obtain ⟨rfl, tailEqual⟩ :=
            delimited (leftMember head (by simp))
              (rightMember otherHead (by simp)) _ _ equal
          have tails : tail = otherTail :=
            induction
              (fun value member =>
                leftMember value (List.mem_cons_of_mem _ member))
              (fun value member =>
                rightMember value (List.mem_cons_of_mem _ member))
              tailEqual
          rw [tails]

/--
A run of code words closed by a terminator that begins no code word is
self-delimiting.
-/
theorem flatMap_terminated (terminator : β)
    (delimited : SelfDelimiting encode domain)
    (fresh : ∀ value ∈ domain, ∃ first rest,
      encode value = first :: rest ∧ first ≠ terminator) :
    SelfDelimiting
      (fun values : List α => values.flatMap encode ++ [terminator])
      {values | ∀ value ∈ values, value ∈ domain} := by
  intro left leftMember right rightMember leftRest rightRest equal
  induction left generalizing right with
  | nil =>
      cases right with
      | nil => simpa using equal
      | cons head tail =>
          obtain ⟨first, rest, code, distinct⟩ :=
            fresh head (rightMember head (by simp))
          simp only [List.flatMap_nil, List.nil_append,
            List.flatMap_cons, code, List.cons_append,
            List.append_assoc, List.cons.injEq] at equal
          exact (distinct equal.1.symm).elim
  | cons head tail induction =>
      cases right with
      | nil =>
          obtain ⟨first, rest, code, distinct⟩ :=
            fresh head (leftMember head (by simp))
          simp only [List.flatMap_nil, List.nil_append,
            List.flatMap_cons, code, List.cons_append,
            List.append_assoc, List.cons.injEq] at equal
          exact (distinct equal.1).elim
      | cons otherHead otherTail =>
          simp only [List.flatMap_cons, List.append_assoc] at equal
          obtain ⟨rfl, tailEqual⟩ :=
            delimited (leftMember head (by simp))
              (rightMember otherHead (by simp)) _ _ equal
          obtain ⟨rfl, rests⟩ :=
            induction
              (fun value member =>
                leftMember value (List.mem_cons_of_mem _ member))
              (fun value member =>
                rightMember value (List.mem_cons_of_mem _ member))
              (by simpa using tailEqual)
          exact ⟨rfl, rests⟩

end SelfDelimiting

end Coding
