import Mathlib

/-!
# Services in lockstep

A service answers requests one after another, each from the state the last
one left.  Two services that start in related states and keep them related
agree on every answer.  The relation sees the requests still to come, so that
it can carry what is assumed of them.
-/

namespace Transition

variable {Request State Other Answer OtherAnswer : Type*}

/-- The answers to a list of requests, and the state they leave. -/
def serveAll (serve : Request → State → Answer × State) :
    List Request → State → List Answer × State
  | [], state => ([], state)
  | request :: rest, state =>
      let answered := serve request state
      let later := serveAll serve rest answered.2
      (answered.1 :: later.1, later.2)

variable (serve : Request → State → Answer × State)
  (otherServe : Request → Other → OtherAnswer × Other)

theorem serveAll_append (before after : List Request) (state : State) :
    serveAll serve (before ++ after) state =
      ((serveAll serve before state).1 ++
          (serveAll serve after (serveAll serve before state).2).1,
        (serveAll serve after (serveAll serve before state).2).2) := by
  induction before generalizing state with
  | nil => rfl
  | cons request rest induction =>
      simp only [List.cons_append, serveAll]
      rw [induction]

/-- Related states stay related, and related answers are given. -/
theorem serveAll_lockstep
    (related : List Request → State → Other → Prop)
    (agree : Answer → OtherAnswer → Prop)
    (step : ∀ {request rest state other},
      related (request :: rest) state other →
        agree (serve request state).1 (otherServe request other).1 ∧
          related rest (serve request state).2 (otherServe request other).2)
    {requests : List Request} {state : State} {other : Other}
    (initially : related requests state other) :
    List.Forall₂ agree (serveAll serve requests state).1
        (serveAll otherServe requests other).1 ∧
      related [] (serveAll serve requests state).2
        (serveAll otherServe requests other).2 := by
  induction requests generalizing state other with
  | nil => exact ⟨.nil, initially⟩
  | cons request rest induction =>
      obtain ⟨now, kept⟩ := step initially
      obtain ⟨later, final⟩ := induction kept
      exact ⟨.cons now later, final⟩

/-! ## What a history of requests leaves -/

/-- The requests whose answer is an acceptance. -/
def acceptedAmong (accepts : Answer → Bool) (requests : List Request)
    (answers : List Answer) : List Request :=
  ((requests.zip answers).filter fun pair => accepts pair.2).map Prod.fst

@[simp]
theorem acceptedAmong_cons (accepts : Answer → Bool) (request : Request)
    (rest : List Request) (answer : Answer) (answers : List Answer) :
    acceptedAmong accepts (request :: rest) (answer :: answers) =
      if accepts answer then
        request :: acceptedAmong accepts rest answers
      else acceptedAmong accepts rest answers := by
  unfold acceptedAmong
  split_ifs with accepted <;> simp [accepted]

/-- What acceptances add to, and refusals keep, holds of the whole history. -/
theorem serveAll_history (accepts : Answer → Bool)
    (holds : List Request → List Request → State → Prop)
    (accepted : ∀ {history request rest state},
      holds history (request :: rest) state →
      accepts (serve request state).1 = true →
        holds (history ++ [request]) rest (serve request state).2)
    (refused : ∀ {history request rest state},
      holds history (request :: rest) state →
      accepts (serve request state).1 = false →
        holds history rest (serve request state).2)
    {history requests : List Request} {state : State}
    (initially : holds history requests state) :
    holds (history ++
        acceptedAmong accepts requests (serveAll serve requests state).1)
      [] (serveAll serve requests state).2 := by
  induction requests generalizing history state with
  | nil => simpa [acceptedAmong, serveAll] using initially
  | cons request rest induction =>
      simp only [serveAll, acceptedAmong_cons]
      cases answer : accepts (serve request state).1 with
      | true =>
          have later := induction (accepted initially answer)
          simpa using later
      | false =>
          have later := induction (refused initially answer)
          simpa using later

/-! ## Leaving requests out -/

/-- The answers to the requests that are kept. -/
def answersTo (keep : Request → Bool) (requests : List Request)
    (answers : List Answer) : List Answer :=
  ((requests.zip answers).filter fun pair => keep pair.1).map Prod.snd

@[simp]
theorem answersTo_cons (keep : Request → Bool) (request : Request)
    (rest : List Request) (answer : Answer) (answers : List Answer) :
    answersTo keep (request :: rest) (answer :: answers) =
      if keep request then answer :: answersTo keep rest answers
      else answersTo keep rest answers := by
  unfold answersTo
  split_ifs with kept <;> simp [kept]

/--
A service that is served the kept requests alone answers them as one that
serves the others in between, if the others leave the states related.
-/
theorem serveAll_kept (keep : Request → Bool)
    (related : List Request → State → Other → Prop)
    (agree : Answer → OtherAnswer → Prop)
    (step : ∀ {request rest state other}, keep request = true →
      related (request :: rest) state other →
        agree (serve request state).1 (otherServe request other).1 ∧
          related rest (serve request state).2 (otherServe request other).2)
    (skip : ∀ {request rest state other}, keep request = false →
      related (request :: rest) state other →
        related rest (serve request state).2 other)
    {requests : List Request} {state : State} {other : Other}
    (initially : related requests state other) :
    List.Forall₂ agree
      (answersTo keep requests (serveAll serve requests state).1)
      (serveAll otherServe (requests.filter keep) other).1 := by
  induction requests generalizing state other with
  | nil => exact .nil
  | cons request rest induction =>
      cases kept : keep request with
      | true =>
          obtain ⟨now, later⟩ := step kept initially
          simp only [serveAll, answersTo_cons, kept, if_true,
            List.filter_cons_of_pos]
          exact .cons now (induction later)
      | false =>
          have later := skip kept initially
          simp only [serveAll, answersTo_cons, kept, Bool.false_eq_true,
            if_false, not_false_eq_true, List.filter_cons_of_neg]
          exact induction later

end Transition
