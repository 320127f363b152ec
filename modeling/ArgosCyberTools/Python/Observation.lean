import ArgosCyberTools.Python.Effect

/-!
# Two runs of one action

An action depends on an observation of the state if two states that look
alike give the same result and still look alike afterwards.  The rules follow
the combinators of `PyM`; an action that reads the whole state must use no
more of it than the observation shows.
-/

namespace Python.PyM

variable {State Outer Error Other Value Result Seen SeenOuter : Type}

/-- States that look alike are treated alike. -/
def DependsOn (observe : State → Seen) (action : PyM State Error Value) :
    Prop :=
  ∀ left right, observe left = observe right →
    (action left).1 = (action right).1 ∧
      observe (action left).2 = observe (action right).2

variable {observe : State → Seen}

theorem dependsOn_ofExcept (result : Except Error Value) :
    DependsOn observe (ofExcept result : PyM State Error Value) :=
  fun _ _ alike => ⟨rfl, alike⟩

theorem dependsOn_bind {first : PyM State Error Value}
    {next : Value → PyM State Error Result}
    (firstDepends : DependsOn observe first)
    (nextDepends : ∀ value, DependsOn observe (next value)) :
    DependsOn observe (first >>= next) := by
  intro left right alike
  obtain ⟨same, middle⟩ := firstDepends left right alike
  rw [bind_apply, bind_apply]
  rcases ranLeft : first left with ⟨result, leftMiddle⟩
  rcases ranRight : first right with ⟨other, rightMiddle⟩
  rw [ranLeft, ranRight] at same middle
  subst same
  cases result with
  | error error => exact ⟨rfl, middle⟩
  | ok value => exact nextDepends value leftMiddle rightMiddle middle

theorem dependsOn_mapError {action : PyM State Error Value}
    (translate : Error → Other) (depends : DependsOn observe action) :
    DependsOn observe (mapError translate action) := by
  intro left right alike
  obtain ⟨same, final⟩ := depends left right alike
  rw [mapError_fst, mapError_fst, mapError_snd, mapError_snd, same]
  exact ⟨rfl, final⟩

end Python.PyM
