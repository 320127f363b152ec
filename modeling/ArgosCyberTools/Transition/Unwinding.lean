import ArgosCyberTools.Transition.Runs

/-!
# Unwinding

Non-interference over runs, from two facts about one step: a step that the
observer does not see leaves what it observes alone, and two steps on the
same input from states that look alike look alike themselves and lead to
states that look alike.  What the observer sees of a run is then what it sees
of the run without the other steps.
-/

namespace Transition.Run

variable {State View Label : Type*} {step : State → Label → State → Prop}
  {first last other otherLast : State} {labels twins : List Label}

/-- The visible steps of a run, and a run of their twins alone, look alike. -/
theorem unwinding (observe : State → View) (visible : Label → Bool)
    (holds : State → Prop) (admissible : Label → Prop)
    (twin same : Label → Label → Prop)
    (kept : ∀ {source label target},
      holds source → step source label target → holds target)
    (respects : ∀ {source label target},
      holds source → admissible label → visible label = false →
      step source label target → observe target = observe source)
    (consistent : ∀ {source target label otherSource otherTarget partner},
      holds source → admissible label → visible label = true →
      twin label partner → observe source = observe otherSource →
      step source label target → step otherSource partner otherTarget →
        same label partner ∧ observe target = observe otherTarget)
    (run : Run step first labels last)
    (alone : Run step other twins otherLast)
    (initially : holds first) (alike : observe first = observe other)
    (admitted : ∀ label ∈ labels, admissible label)
    (twinned : List.Forall₂ twin (labels.filter visible) twins) :
    List.Forall₂ same (labels.filter visible) twins := by
  induction run generalizing other twins with
  | done =>
      cases twinned
      exact .nil
  | @next source middle target label rest head tail induction =>
      have later : ∀ label ∈ rest, admissible label :=
        fun label member => admitted label (List.mem_cons_of_mem _ member)
      cases seen : visible label with
      | false =>
          rw [List.filter_cons_of_neg (by simp [seen])] at twinned ⊢
          have unchanged :=
            respects initially (admitted label (by simp)) seen head
          exact induction alone (kept initially head)
            (unchanged.trans alike) later twinned
      | true =>
          rw [List.filter_cons_of_pos seen] at twinned ⊢
          cases twinned with
          | cons isTwin others =>
              cases alone with
              | next otherHead otherTail =>
                  obtain ⟨agree, onward⟩ := consistent initially
                    (admitted label (by simp)) seen isTwin alike head
                    otherHead
                  exact .cons agree (induction otherTail
                    (kept initially head) onward later others)

end Transition.Run
