import Mathlib

/-!
# Runs of a labelled transition system

A run is a finite sequence of labelled steps.  The rules below turn a fact
about one step into a fact about every run: an invariant, a property of
every label, a simulation by another system, and the step at which an
observation changed.
-/

namespace Transition

variable {State Label : Type*}

/-- A finite run and the labels of its steps, in order. -/
inductive Run (step : State → Label → State → Prop) :
    State → List Label → State → Prop where
  | done (state : State) : Run step state [] state
  | next {first middle last : State} {label : Label} {rest : List Label}
      (head : step first label middle)
      (tail : Run step middle rest last) :
      Run step first (label :: rest) last

namespace Run

variable {step : State → Label → State → Prop}
  {first middle last : State} {labels before after : List Label}

theorem append (front : Run step first before middle)
    (back : Run step middle after last) :
    Run step first (before ++ after) last := by
  induction front with
  | done => exact back
  | next head _ induction => exact .next head (induction back)

/-- A run can be cut at any of its labels. -/
theorem split {label : Label}
    (run : Run step first (before ++ label :: after) last) :
    ∃ here there,
      Run step first before here ∧ step here label there ∧
        Run step there after last := by
  induction before generalizing first with
  | nil =>
      cases run with
      | next head tail => exact ⟨first, _, .done first, head, tail⟩
  | cons opening rest induction =>
      cases run with
      | next head tail =>
          obtain ⟨here, there, front, atLabel, back⟩ := induction tail
          exact ⟨here, there, .next head front, atLabel, back⟩

/-- An invariant kept by every step holds after every run. -/
theorem invariant (holds : State → Prop)
    (kept : ∀ {source label target},
      holds source → step source label target → holds target)
    (initially : holds first)
    (run : Run step first labels last) : holds last := by
  induction run with
  | done => exact initially
  | next head _ induction => exact induction (kept initially head)

/-- What every step from a good state satisfies, every step of a run does. -/
theorem forall_labels (holds : State → Prop) (good : Label → Prop)
    (kept : ∀ {source label target},
      holds source → step source label target →
        good label ∧ holds target)
    (initially : holds first)
    (run : Run step first labels last) :
    ∀ label ∈ labels, good label := by
  induction run with
  | done => simp
  | next head _ induction =>
      obtain ⟨now, later⟩ := kept initially head
      intro label member
      rcases List.mem_cons.mp member with rfl | member
      · exact now
      · exact induction later label member

/-- A simulation of steps from good states extends to runs. -/
theorem simulate {Abstract Event : Type*}
    {abstractStep : Abstract → Event → Abstract → Prop}
    (view : State → Abstract) (event : Label → Event)
    (holds : State → Prop) (admissible : Label → Prop)
    (refines : ∀ {source label target}, holds source → admissible label →
      step source label target →
        abstractStep (view source) (event label) (view target) ∧
          holds target)
    (initially : holds first)
    (run : Run step first labels last)
    (admitted : ∀ label ∈ labels, admissible label) :
    Run abstractStep (view first) (labels.map event) (view last) := by
  induction run with
  | done => exact .done _
  | next head _ induction =>
      obtain ⟨now, kept⟩ := refines initially (admitted _ (by simp)) head
      exact .next now
        (induction kept fun label member =>
          admitted label (List.mem_cons_of_mem _ member))

/-- If an observation changed over a run, some step of it changed it. -/
theorem exists_changing_step {Value : Type*} (observe : State → Value)
    (run : Run step first labels last)
    (changed : observe first ≠ observe last) :
    ∃ before label after here there,
      labels = before ++ label :: after ∧
        Run step first before here ∧ step here label there ∧
        Run step there after last ∧
        observe here = observe first ∧ observe here ≠ observe there := by
  induction run with
  | done => exact (changed rfl).elim
  | @next source middle target label rest head tail induction =>
      by_cases here : observe source = observe middle
      · obtain ⟨before, later, after, start, stop, rfl, front, atLabel,
          back, kept, differs⟩ := induction (here ▸ changed)
        exact ⟨label :: before, later, after, start, stop, rfl,
          .next head front, atLabel, back, kept.trans here.symm, differs⟩
      · exact ⟨[], label, rest, source, middle, rfl, .done source, head,
          tail, rfl, here⟩

end Run

end Transition
