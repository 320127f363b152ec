import ArgosCyberTools.Transition.Runs

/-!
# Annotated runs

Labels can carry more than a system shows: what a step did, beside what it
was asked.  Every run has such an annotated run over it.  A fact that each
step leaves behind about its own label, and that no later step undoes,
relates the labels of the run in pairs.
-/

namespace Transition.Run

variable {State Label Annotated : Type*}
  {step : State → Label → State → Prop} {first last : State}

/-- Every run has a run of annotated steps over it. -/
theorem exists_annotated {annotatedStep : State → Annotated → State → Prop}
    (plain : Annotated → Label)
    (annotates : ∀ {source label target}, step source label target →
      ∃ annotated, plain annotated = label ∧
        annotatedStep source annotated target)
    {labels : List Label} (run : Run step first labels last) :
    ∃ annotated : List Annotated, annotated.map plain = labels ∧
      Run annotatedStep first annotated last := by
  induction run with
  | done state => exact ⟨[], rfl, .done state⟩
  | next head _ induction =>
      obtain ⟨here, rfl, noted⟩ := annotates head
      obtain ⟨later, rfl, rest⟩ := induction
      exact ⟨here :: later, rfl, .next noted rest⟩

/-- What a step leaves behind about its label, if no step undoes it, stays. -/
theorem forall_left (good : State → Prop) (left : Label → State → Prop)
    (stays : ∀ {source label target}, good source →
      step source label target → good target)
    (leaves : ∀ {source label target}, good source →
      step source label target → left label target)
    (kept : ∀ {past source label target}, left past source →
      step source label target → left past target)
    (initially : good first)
    {labels : List Label} (run : Run step first labels last) :
    ∀ label ∈ labels, left label last := by
  intro label member
  obtain ⟨before, after, rfl⟩ := List.append_of_mem member
  obtain ⟨here, there, front, head, back⟩ := run.split
  have isGood : good here := front.invariant good stays initially
  exact back.invariant (left label) kept (leaves isGood head)

/-- What holds about every past label relates it to each later one. -/
theorem pairwise (related : Label → Label → Prop) (good : State → Prop)
    (left : Label → State → Prop)
    (stays : ∀ {source label target}, good source →
      step source label target → good target)
    (leaves : ∀ {source label target}, good source →
      step source label target → left label target)
    (kept : ∀ {past source label target}, left past source →
      step source label target → left past target)
    (separates : ∀ {past source label target}, good source →
      left past source → step source label target → related past label)
    (initially : good first)
    {labels : List Label} (run : Run step first labels last) :
    labels.Pairwise related := by
  have after : ∀ {past : Label} {source target : State}
      {labels : List Label}, good source ∧ left past source →
      Run step source labels target →
        ∀ label ∈ labels, related past label := by
    intro past source target labels held run
    refine run.forall_labels (fun state => good state ∧ left past state)
      (related past) ?_ held
    rintro source label target ⟨isGood, held⟩ head
    exact ⟨separates isGood held head, stays isGood head, kept held head⟩
  induction run with
  | done => exact .nil
  | next head tail induction =>
      have next := stays initially head
      exact .cons (after ⟨next, leaves initially head⟩ tail)
        (induction next)

end Transition.Run
