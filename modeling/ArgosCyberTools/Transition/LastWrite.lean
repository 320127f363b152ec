import ArgosCyberTools.Transition.Lockstep

/-!
# The last write

A part of the state that every request either leaves alone or overwrites
shows, after any sequence of requests, the last value written to it.  Which
requests write may depend on the state they find.
-/

namespace Transition

variable {Request State Answer Write Value : Type*}
  (serve : Request → State → Answer × State)
  (written : Request → State → Option Write)

/-- The writes of a sequence of requests, in order. -/
def writesOf : List Request → State → List Write
  | [], _ => []
  | request :: rest, state =>
      (written request state).toList ++ writesOf rest (serve request state).2

/-- An invariant of the requests holds after any sequence of them. -/
theorem serveAll_invariant (holds : State → Prop)
    (kept : ∀ {request state}, holds state → holds (serve request state).2)
    {requests : List Request} {state : State} (initially : holds state) :
    holds (serveAll serve requests state).2 := by
  induction requests generalizing state with
  | nil => exact initially
  | cons request rest induction => exact induction (kept initially)

/-- What is shown is what the last write wrote, or what was shown before. -/
theorem serveAll_lastWrite (holds : State → Prop) (shown : State → Value)
    (value : Write → Value)
    (kept : ∀ {request state}, holds state → holds (serve request state).2)
    (step : ∀ {request state}, holds state →
      shown (serve request state).2 =
        ((written request state).map value).getD (shown state))
    {requests : List Request} {state : State} (initially : holds state) :
    shown (serveAll serve requests state).2 =
      ((writesOf serve written requests state).getLast?.map value).getD
        (shown state) := by
  induction requests generalizing state with
  | nil => rfl
  | cons request rest induction =>
      rw [serveAll, writesOf, induction (kept initially), step initially]
      cases written request state with
      | none => rfl
      | some write =>
          cases writesOf serve written rest (serve request state).2 with
          | nil => rfl
          | cons later more =>
              rw [Option.toList_some, List.singleton_append,
                List.getLast?_cons_cons,
                List.getLast?_eq_some_getLast (List.cons_ne_nil later more)]
              rfl

end Transition
