import ArgosCyberTools.Transition.Runs

/-!
# Where remembered answers come from

A system answers a label with what it remembers under the key of the label,
or with something it produces on the spot.  Over a run that starts with
nothing remembered, every answer was produced at the label itself or at an
earlier label with the same key.
-/

namespace Transition

variable {State Label Key Answer : Type*}

/-- A system with a memory of answers. -/
structure Remembering (step : State → Label → State → Prop)
    (Key Answer : Type*) where
  key : Label → Key
  answer : Label → Option Answer
  lookup : State → Key → Option Answer
  Produces : State → Label → Answer → Prop
  /-- An answer is remembered, or produced by the step. -/
  answered {source target : State} {label : Label} {given : Answer} :
    step source label target → answer label = some given →
      lookup source (key label) = some given ∨ Produces source label given
  /-- What is remembered was remembered before, or is produced and answered. -/
  recalled {source target : State} {label : Label} {asked : Key}
      {held : Answer} :
    step source label target → lookup target asked = some held →
      lookup source asked = some held ∨
        key label = asked ∧ answer label = some held ∧
          Produces source label held

namespace Remembering

variable {step : State → Label → State → Prop}
  (memory : Remembering step Key Answer) {first last here there : State}
  {labels front : List Label} {label : Label} {asked : Key}
  {held given : Answer}

/-- Some label of the run with this key produced the answer and gave it. -/
def ProducedIn (first : State) (labels : List Label) (asked : Key)
    (given : Answer) : Prop :=
  ∃ before producer after source target,
    labels = before ++ producer :: after ∧
      Run step first before source ∧ step source producer target ∧
      memory.key producer = asked ∧ memory.answer producer = some given ∧
      memory.Produces source producer given

variable {memory}

theorem ProducedIn.append (produced :
      memory.ProducedIn first labels asked given) (more : List Label) :
    memory.ProducedIn first (labels ++ more) asked given := by
  obtain ⟨before, producer, after, source, target, rfl, run⟩ := produced
  exact ⟨before, producer, after ++ more, source, target, by simp, run⟩

theorem ProducedIn.cons {middle : State} (head : step first label middle)
    (produced : memory.ProducedIn middle labels asked given) :
    memory.ProducedIn first (label :: labels) asked given := by
  obtain ⟨before, producer, after, source, target, rfl, run, rest⟩ :=
    produced
  exact ⟨label :: before, producer, after, source, target, rfl,
    .next head run, rest⟩

theorem recalled_of_run (run : Run step first labels last)
    (remembered : memory.lookup last asked = some held) :
    memory.lookup first asked = some held ∨
      memory.ProducedIn first labels asked held := by
  induction run with
  | done => exact .inl remembered
  | @next source middle target opening rest head tail induction =>
      rcases induction remembered with early | produced
      · rcases memory.recalled head early with
          before | ⟨isKey, answers, produces⟩
        · exact .inl before
        · exact .inr ⟨[], opening, rest, source, middle, rfl, .done source,
            head, isKey, answers, produces⟩
      · exact .inr (produced.cons head)

/-- Every answer of a run was produced under the same key in that run. -/
theorem provenance (forgotten : ∀ key, memory.lookup first key = none)
    (run : Run step first front here) (atLabel : step here label there)
    (answers : memory.answer label = some given) :
    memory.ProducedIn first (front ++ [label]) (memory.key label) given := by
  rcases memory.answered atLabel answers with remembered | produces
  · rcases recalled_of_run run remembered with early | produced
    · rw [forgotten] at early
      cases early
    · exact produced.append [label]
  · exact ⟨front, label, [], here, there, rfl, run, atLabel, rfl, answers,
      produces⟩

end Remembering

end Transition
