import Mathlib.Data.List.Basic

/-!
# Complete rules

A complete rule of Rego takes the value of a body that holds, or else its
default.  Where bodies that hold together agree, it takes one value, and that
value can be computed.
-/

namespace ArgosCyberTools.Rego

/-- One body of a complete rule, and the value it gives. -/
structure Body (Input Value : Type*) where
  holds : Input → Bool
  value : Input → Value

/-- A complete rule with a default. -/
structure CompleteRule (Input Value : Type*) where
  default : Value
  bodies : List (Body Input Value)

namespace CompleteRule

variable {Input Value : Type*} {rule : CompleteRule Input Value}
  {input : Input} {value other : Value}

/-- A body that holds gives the value, or none holds and it is the default. -/
def Takes (rule : CompleteRule Input Value) (input : Input) (value : Value) :
    Prop :=
  (∃ body ∈ rule.bodies, body.holds input = true ∧
      body.value input = value) ∨
    (∀ body ∈ rule.bodies, body.holds input = false) ∧ rule.default = value

def evaluate (rule : CompleteRule Input Value) (input : Input) : Value :=
  match rule.bodies.find? (·.holds input) with
  | some body => body.value input
  | none => rule.default

/-- Bodies that hold together give one value. -/
def Consistent (rule : CompleteRule Input Value) : Prop :=
  ∀ input, ∀ first ∈ rule.bodies, ∀ second ∈ rule.bodies,
    first.holds input = true → second.holds input = true →
      first.value input = second.value input

theorem takes_evaluate (rule : CompleteRule Input Value) (input : Input) :
    rule.Takes input (rule.evaluate input) := by
  unfold evaluate
  cases found : rule.bodies.find? (·.holds input) with
  | some body =>
      have holds := List.find?_some found
      exact .inl ⟨body, List.mem_of_find?_eq_some found, holds, rfl⟩
  | none =>
      refine .inr ⟨fun body member => ?_, rfl⟩
      simpa using List.find?_eq_none.mp found body member

theorem Consistent.unique (consistent : rule.Consistent)
    (takes : rule.Takes input value) (alsoTakes : rule.Takes input other) :
    value = other := by
  rcases takes with ⟨first, member, holds, rfl⟩ | ⟨idle, rfl⟩ <;>
    rcases alsoTakes with ⟨second, otherMember, otherHolds, rfl⟩ |
      ⟨otherIdle, rfl⟩
  · exact consistent input first member second otherMember holds otherHolds
  · rw [otherIdle first member] at holds
    cases holds
  · rw [idle second otherMember] at otherHolds
    cases otherHolds
  · rfl

/-- A consistent rule takes exactly the value it is evaluated to. -/
theorem Consistent.takes_iff (consistent : rule.Consistent) :
    rule.Takes input value ↔ value = rule.evaluate input :=
  ⟨fun takes => consistent.unique takes (rule.takes_evaluate input),
    fun same => same ▸ rule.takes_evaluate input⟩

end CompleteRule

end ArgosCyberTools.Rego
