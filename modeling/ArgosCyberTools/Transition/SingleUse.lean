import ArgosCyberTools.Transition.Runs

/-!
# Single-use tokens

The purpose of an anti-replay store, stated without its implementation: a
ledger holds the set of tokens already spent, and a step either spends one
token that was not spent before or leaves the ledger alone.  Over every run
the ledger is then exactly the record of what was spent, and no token was
spent twice.
-/

namespace SingleUse

open Transition

variable {Token : Type*}

/-- A step spends one fresh token, named by its label, or none. -/
inductive Step : Set Token → Option Token → Set Token → Prop where
  | idle (spent : Set Token) : Step spent none spent
  | spend {spent : Set Token} {token : Token} (fresh : token ∉ spent) :
      Step spent (some token) (insert token spent)

variable {initial final : Set Token} {labels : List (Option Token)}

/-- The ledger is the record of what was spent. -/
theorem ledger_eq (run : Run Step initial labels final) :
    final = initial ∪ {token | some token ∈ labels} := by
  induction run with
  | done => simp
  | next head _ induction =>
      rw [induction]
      cases head with
      | idle =>
          ext token
          simp
      | spend fresh =>
          ext token
          simp [or_left_comm, or_assoc]

/-- A token spent along a run was not spent before it. -/
theorem fresh_of_mem (run : Run Step initial labels final)
    {token : Token} (member : some token ∈ labels) :
    token ∉ initial := by
  induction run with
  | done => simp at member
  | next head _ induction =>
      cases head with
      | idle =>
          rcases List.mem_cons.mp member with impossible | later
          · cases impossible
          · exact induction later
      | spend fresh =>
          rcases List.mem_cons.mp member with equal | later
          · cases equal
            exact fresh
          · intro spentBefore
            exact induction later (Set.mem_insert_of_mem _ spentBefore)

/-- Two different steps of a run spend different tokens. -/
theorem pairwise_ne (run : Run Step initial labels final) :
    labels.Pairwise fun first second =>
      ∀ token, first = some token → second ≠ some token := by
  induction run with
  | done => exact .nil
  | next head tail induction =>
      refine List.pairwise_cons.mpr ⟨?_, induction⟩
      rintro second member token rfl rfl
      cases head with
      | spend fresh =>
          exact fresh_of_mem tail member (Set.mem_insert _ _)

end SingleUse
