import ArgosCyberTools.Python.Text

/-!
# Stateful computations that may raise

A method reads and writes the attributes of its object and may raise.  What
it wrote before raising stays written: an exception does not roll the state
back.  `PyM` is the state monad over results in which the final state is
returned in both cases.
-/

namespace Python

/-! ## Inverting a successful computation -/

theorem bind_eq_ok_iff {Error Value Result : Type}
    {first : Except Error Value} {next : Value → Except Error Result}
    {result : Result} :
    (first >>= next) = .ok result ↔
      ∃ value, first = .ok value ∧ next value = .ok result := by
  cases first <;> simp [bind, Except.bind]

/-- A computation begun in one of two ways. -/
theorem bind_ite_eq_ok_iff {Error Value Result : Type} {condition : Prop}
    [Decidable condition] {first second : Except Error Value}
    {next : Value → Except Error Result} {result : Result} :
    (if condition then first >>= next else second >>= next) = .ok result ↔
      ∃ value, (if condition then first else second) = .ok value ∧
        next value = .ok result := by
  split_ifs <;> exact bind_eq_ok_iff

@[simp]
theorem pure_eq_ok_iff {Error Value : Type} {value result : Value} :
    (pure value : Except Error Value) = .ok result ↔ value = result := by
  simp [pure, Except.pure]

theorem mapError_eq_ok_iff {Error Other Value : Type}
    {translate : Error → Other} {result : Except Error Value}
    {value : Value} :
    result.mapError translate = .ok value ↔ result = .ok value := by
  cases result <;> simp [Except.mapError]

theorem toOption_eq_some_iff {Error Value : Type}
    {result : Except Error Value} {value : Value} :
    result.toOption = some value ↔ result = .ok value := by
  cases result <;> simp [Except.toOption]

/-- A computation that was run, and its result tested. -/
theorem exists_ok_of_test {Error Value : Type} {result : Except Error Value}
    {property : Value → Prop} [DecidablePred property]
    (passed : (result.toOption.map fun value => decide (property value)) =
      some true) :
    ∃ value, result = .ok value ∧ property value := by
  obtain ⟨value, returned, holds⟩ := Option.map_eq_some_iff.mp passed
  exact ⟨value, toOption_eq_some_iff.mp returned, of_decide_eq_true holds⟩

/-- `if refused: raise error`. -/
def raiseIf {Error : Type} (refused : Bool) (error : Error) :
    Except Error Unit :=
  if refused then .error error else .ok ()

@[simp]
theorem raiseIf_eq_ok_iff {Error : Type} {refused : Bool} {error : Error}
    {result : Unit} :
    raiseIf refused error = .ok result ↔ refused = false := by
  cases refused <;> simp [raiseIf]

/-- A loop over a list returns when every turn does. -/
theorem mapM_eq_ok_iff {Error Item Result : Type}
    {action : Item → Except Error Result} {items : List Item}
    {results : List Result} :
    items.mapM action = .ok results ↔
      List.Forall₂ (fun item result => action item = .ok result) items
        results := by
  induction items generalizing results with
  | nil =>
      rw [List.mapM_nil, pure_eq_ok_iff, List.forall₂_nil_left_iff, eq_comm]
  | cons item rest induction =>
      simp only [List.mapM_cons, bind_eq_ok_iff, pure_eq_ok_iff, induction,
        List.forall₂_cons_left_iff]
      constructor
      · rintro ⟨result, here, results, later, rfl⟩
        exact ⟨result, results, here, later, rfl⟩
      · rintro ⟨result, results, here, later, rfl⟩
        exact ⟨result, here, results, later, rfl⟩

/-- What a loop that collects lists returns came from one of its turns. -/
theorem mem_flatten_of_mapM {Error Item Result : Type}
    {action : Item → Except Error (List Result)} {items : List Item}
    {results : List (List Result)} (ran : items.mapM action = .ok results)
    {result : Result} :
    result ∈ results.flatten ↔
      ∃ item ∈ items, ∃ collected, action item = .ok collected ∧
        result ∈ collected := by
  rw [mapM_eq_ok_iff] at ran
  induction ran with
  | nil => simp
  | cons here _ induction =>
      rw [List.flatten_cons, List.mem_append, induction, List.exists_mem_cons_iff]
      simp [here]

theorem exists_result_of_mapM {Error Item Result : Type}
    {action : Item → Except Error Result} {items : List Item}
    {results : List Result} (ran : items.mapM action = .ok results)
    {item : Item} (member : item ∈ items) :
    ∃ result ∈ results, action item = .ok result := by
  rw [mapM_eq_ok_iff] at ran
  induction ran with
  | nil => cases member
  | @cons first result rest results here _ induction =>
      rcases List.mem_cons.mp member with rfl | later
      · exact ⟨result, List.mem_cons_self, here⟩
      · obtain ⟨result, isResult, returned⟩ := induction later
        exact ⟨result, List.mem_cons_of_mem _ isResult, returned⟩

/-- A loop finds what one of its turns finds. -/
theorem exists_mem_flatten_iff {Error Item Result : Type}
    {action : Item → Except Error (List Result)} {items : List Item}
    {results : List (List Result)} (ran : items.mapM action = .ok results)
    {wanted : Result → Prop} {finds : Item → Prop}
    (turn : ∀ item collected, action item = .ok collected →
      ((∃ result ∈ collected, wanted result) ↔ finds item)) :
    (∃ result ∈ results.flatten, wanted result) ↔
      ∃ item ∈ items, finds item := by
  constructor
  · rintro ⟨result, member, here⟩
    obtain ⟨item, isItem, collected, returned, inside⟩ :=
      (mem_flatten_of_mapM ran).mp member
    exact ⟨item, isItem,
      (turn item collected returned).mp ⟨result, inside, here⟩⟩
  · rintro ⟨item, isItem, found⟩
    obtain ⟨collected, -, returned⟩ := exists_result_of_mapM ran isItem
    obtain ⟨result, inside, here⟩ := (turn item collected returned).mpr found
    exact ⟨result, (mem_flatten_of_mapM ran).mpr
      ⟨item, isItem, collected, returned, inside⟩, here⟩

/-! ## Leaving a function early -/

/-- How a function body is left before its end. -/
inductive Exit (Error Result : Type) where
  | returned (result : Result)
  | raised (error : Error)

/-- The outcome of a body whose last expression is returned as well. -/
def Exit.finish {Error Result : Type} :
    Except (Exit Error Result) Result → Except Error Result
  | .ok result => .ok result
  | .error (.returned result) => .ok result
  | .error (.raised error) => .error error

/-- `value`, or leave with `exit` when it is `None`. -/
def orExit {Error Value : Type} (value : Option Value) (exit : Error) :
    Except Error Value :=
  match value with
  | none => .error exit
  | some held => .ok held

@[simp]
theorem orExit_eq_ok_iff {Error Value : Type} {value : Option Value}
    {exit : Error} {held : Value} :
    orExit value exit = .ok held ↔ value = some held := by
  cases value <;> simp [orExit]

theorem Exit.finish_eq_ok_iff {Error Result : Type}
    {body : Except (Exit Error Result) Result} {result : Result} :
    Exit.finish body = .ok result ↔
      body = .ok result ∨ body = .error (.returned result) := by
  rcases body with (_ | _) | _ <;> simp [Exit.finish]

/-! ## Computations that never raise a given kind of exception -/

/-- The computation returns, or raises something that is not `bad`. -/
def Avoids {Error Value : Type} (bad : Error → Prop) :
    Except Error Value → Prop
  | .ok _ => True
  | .error error => ¬ bad error

section Avoids

variable {Error Other Value Result : Type} {bad : Error → Prop}

@[simp]
theorem avoids_ok (value : Value) :
    Avoids bad (.ok value : Except Error Value) :=
  trivial

@[simp]
theorem avoids_pure (value : Value) :
    Avoids bad (pure value : Except Error Value) :=
  trivial

@[simp]
theorem avoids_error (error : Error) :
    Avoids bad (.error error : Except Error Value) ↔ ¬ bad error :=
  Iff.rfl

/-- What runs second counts only when the first part returned. -/
theorem avoids_bind {first : Except Error Value}
    {next : Value → Except Error Result} :
    Avoids bad (first >>= next) ↔
      Avoids bad first ∧
        ∀ value, first = .ok value → Avoids bad (next value) := by
  cases first <;> simp [bind, Except.bind]

theorem avoids_raiseIf {refused : Bool} {error : Error} :
    Avoids bad (raiseIf refused error) ↔ (refused = true → ¬ bad error) := by
  cases refused <;> simp [raiseIf]

theorem avoids_orExit {value : Option Value} {exit : Error} :
    Avoids bad (orExit value exit) ↔ (value = none → ¬ bad exit) := by
  cases value <;> simp [orExit]

theorem avoids_mapError {translate : Other → Error}
    {result : Except Other Value} :
    Avoids bad (result.mapError translate) ↔
      Avoids (fun error => bad (translate error)) result := by
  cases result <;> simp [Except.mapError]

/-- A part that only raises what is bad has to return. -/
theorem avoids_bind_of_bad {first : Except Error Value}
    {next : Value → Except Error Result}
    (allBad : ∀ error, first = .error error → bad error) :
    Avoids bad (first >>= next) ↔
      ∃ value, first = .ok value ∧ Avoids bad (next value) := by
  cases first with
  | error error =>
      have isBad := allBad error rfl
      simp [bind, Except.bind, isBad]
  | ok value => simp [bind, Except.bind]

/-- A harmless refusal ends the computation well. -/
theorem avoids_bind_raiseIf {refused : Bool} {error : Error}
    {next : Unit → Except Error Result} (harmless : ¬ bad error) :
    Avoids bad (raiseIf refused error >>= next) ↔
      (refused = false → Avoids bad (next ())) := by
  cases refused <;> simp [raiseIf, bind, Except.bind, harmless]

end Avoids

/-! ## The monad -/

/-- A computation over a mutable state that returns a value or raises. -/
def PyM (State Error Value : Type) : Type :=
  State → Except Error Value × State

namespace PyM

variable {State Outer Error Other Value Result : Type}

instance : Monad (PyM State Error) where
  pure value := fun state => (.ok value, state)
  bind first next := fun state =>
    match first state with
    | (.ok value, middle) => next value middle
    | (.error error, middle) => (.error error, middle)

/-- Read the whole state. -/
def get : PyM State Error State :=
  fun state => (.ok state, state)

/-- Write the whole state. -/
def set (state : State) : PyM State Error Unit :=
  fun _ => (.ok (), state)

def raise (error : Error) : PyM State Error Value :=
  fun state => (.error error, state)

/-- A computation that does not touch the state. -/
def ofExcept (result : Except Error Value) : PyM State Error Value :=
  fun state => (result, state)

/-- Translate the exceptions of a callee into those of its caller. -/
def mapError (translate : Error → Other) (action : PyM State Error Value) :
    PyM State Other Value :=
  fun state =>
    match action state with
    | (.ok value, final) => (.ok value, final)
    | (.error error, final) => (.error (translate error), final)

/-- Run a body that may leave early. -/
def finish (body : PyM State (Exit Error Value) Value) :
    PyM State Error Value :=
  fun state => (Exit.finish (body state).1, (body state).2)

/-- Run a computation on an attribute of a larger object. -/
def onField (read : Outer → State) (write : State → Outer → Outer)
    (action : PyM State Error Value) : PyM Outer Error Value :=
  fun outer =>
    ((action (read outer)).1, write (action (read outer)).2 outer)

@[simp]
theorem pure_apply (value : Value) (state : State) :
    (pure value : PyM State Error Value) state = (.ok value, state) :=
  rfl

theorem bind_apply (first : PyM State Error Value)
    (next : Value → PyM State Error Result) (state : State) :
    (first >>= next) state =
      match first state with
      | (.ok value, middle) => next value middle
      | (.error error, middle) => (.error error, middle) :=
  rfl

theorem bind_of_ok {first : PyM State Error Value}
    {next : Value → PyM State Error Result}
    {state middle : State} {value : Value}
    (result : first state = (.ok value, middle)) :
    (first >>= next) state = next value middle := by
  rw [bind_apply, result]

theorem bind_apply_eq_ok_iff {first : PyM State Error Value}
    {next : Value → PyM State Error Result}
    {state final : State} {result : Result} :
    (first >>= next) state = (.ok result, final) ↔
      ∃ value middle, first state = (.ok value, middle) ∧
        next value middle = (.ok result, final) := by
  rw [bind_apply]
  rcases first state with ⟨error | value, middle⟩ <;> simp

theorem bind_apply_eq_error_iff {first : PyM State Error Value}
    {next : Value → PyM State Error Result}
    {state final : State} {error : Error} :
    (first >>= next) state = (.error error, final) ↔
      first state = (.error error, final) ∨
        ∃ value middle, first state = (.ok value, middle) ∧
          next value middle = (.error error, final) := by
  rw [bind_apply]
  rcases first state with ⟨raised | value, middle⟩ <;> simp

theorem avoids_bind_apply {bad : Error → Prop}
    {first : PyM State Error Value}
    {next : Value → PyM State Error Result} {state : State} :
    Avoids bad ((first >>= next) state).1 ↔
      Avoids bad (first state).1 ∧
        ∀ value middle, first state = (.ok value, middle) →
          Avoids bad (next value middle).1 := by
  rw [bind_apply]
  rcases first state with ⟨error | value, middle⟩ <;> simp

@[simp]
theorem get_apply (state : State) :
    (get : PyM State Error State) state = (.ok state, state) :=
  rfl

@[simp]
theorem set_apply (final state : State) :
    (set final : PyM State Error Unit) state = (.ok (), final) :=
  rfl

@[simp]
theorem raise_apply (error : Error) (state : State) :
    (raise error : PyM State Error Value) state = (.error error, state) :=
  rfl

@[simp]
theorem ofExcept_apply (result : Except Error Value) (state : State) :
    (ofExcept result : PyM State Error Value) state = (result, state) :=
  rfl

@[simp]
theorem finish_apply (body : PyM State (Exit Error Value) Value)
    (state : State) :
    finish body state = (Exit.finish (body state).1, (body state).2) :=
  rfl

@[simp]
theorem onField_apply (read : Outer → State)
    (write : State → Outer → Outer)
    (action : PyM State Error Value) (outer : Outer) :
    onField read write action outer =
      ((action (read outer)).1, write (action (read outer)).2 outer) :=
  rfl

theorem onField_eq_iff {read : Outer → State}
    {write : State → Outer → Outer} {action : PyM State Error Value}
    {outer final : Outer} {result : Except Error Value} :
    onField read write action outer = (result, final) ↔
      ∃ state, action (read outer) = (result, state) ∧
        final = write state outer := by
  rw [onField_apply, Prod.mk.injEq]
  constructor
  · rintro ⟨rfl, rfl⟩
    exact ⟨_, rfl, rfl⟩
  · rintro ⟨state, ran, rfl⟩
    rw [ran]
    exact ⟨rfl, rfl⟩

theorem mapError_apply_eq_ok_iff {translate : Error → Other}
    {action : PyM State Error Value} {state final : State}
    {value : Value} :
    mapError translate action state = (.ok value, final) ↔
      action state = (.ok value, final) := by
  unfold mapError
  rcases action state with ⟨_ | _, _⟩ <;> simp

/-- A translated exception comes from one of the callee. -/
theorem exists_error_of_mapError {translate : Error → Other}
    {action : PyM State Error Value} {state final : State} {other : Other}
    (raised : mapError translate action state = (.error other, final)) :
    ∃ error, action state = (.error error, final) := by
  unfold mapError at raised
  rcases ran : action state with ⟨error | value, reached⟩
  · rw [ran, Prod.mk.injEq] at raised
    exact ⟨error, by rw [raised.2]⟩
  · simp [ran] at raised

theorem finish_apply_eq_ok_iff
    {body : PyM State (Exit Error Value) Value} {state final : State}
    {value : Value} :
    finish body state = (.ok value, final) ↔
      body state = (.ok value, final) ∨
        body state = (.error (.returned value), final) := by
  rw [finish_apply, Prod.mk.injEq, Exit.finish_eq_ok_iff]
  rcases body state with ⟨_, _⟩
  simp [or_and_right]

@[simp]
theorem mapError_snd (translate : Error → Other)
    (action : PyM State Error Value) (state : State) :
    (mapError translate action state).2 = (action state).2 := by
  unfold mapError
  split <;> simp_all

/-- An exception seen by the caller is the callee's, translated. -/
theorem mapError_fst (translate : Error → Other)
    (action : PyM State Error Value) (state : State) :
    (mapError translate action state).1 =
      (action state).1.mapError translate := by
  unfold mapError
  split <;> rename_i result <;> simp [result, Except.mapError]

/-! ## Frames -/

/-- The action leaves an observation of the state alone, however it ends. -/
def Keeps {Seen : Type} (observe : State → Seen)
    (action : PyM State Error Value) : Prop :=
  ∀ state, observe (action state).2 = observe state

section Keeps

variable {Seen : Type} {observe : State → Seen}

theorem keeps_ofExcept (result : Except Error Value) :
    Keeps observe (ofExcept result : PyM State Error Value) :=
  fun _ => rfl

theorem keeps_get :
    Keeps observe (get : PyM State Error State) :=
  fun _ => rfl

theorem keeps_bind {first : PyM State Error Value}
    {next : Value → PyM State Error Result} (kept : Keeps observe first)
    (nextKept : ∀ value, Keeps observe (next value)) :
    Keeps observe (first >>= next) := by
  intro state
  have before := kept state
  rw [bind_apply]
  rcases ran : first state with ⟨error | value, middle⟩
  · rwa [ran] at before
  · rw [ran] at before
    exact (nextKept value middle).trans before

theorem keeps_finish {body : PyM State (Exit Error Value) Value}
    (kept : Keeps observe body) : Keeps observe (finish body) :=
  kept

/-- Running on one attribute leaves what does not depend on it alone. -/
theorem keeps_onField {observeOuter : Outer → Seen}
    {read : Outer → State} {write : State → Outer → Outer}
    {action : PyM State Error Value}
    (frame : ∀ part outer,
      observeOuter (write part outer) = observeOuter outer) :
    Keeps observeOuter (onField read write action) :=
  fun outer => frame _ outer

end Keeps

end PyM

end Python
