import ArgosCyberTools.Transition.Lockstep

/-!
# Sliding windows

A limiter admits a request while fewer than its limit of the earlier admitted
requests under the same key lie inside the window of the request.  The exact
limiter never forgets; the pruning one drops, at each request, what lies
before the window.  As long as windows do not move backwards, both give the
same answers, and no window ever holds more than the limit.
-/

namespace SlidingWindow

open Transition

/-- What a limiter reads off a request. -/
structure Policy (Request Key Time : Type*) where
  key : Request → Key
  limit : Request → Int
  /-- The instant after which the window begins, if there is a window. -/
  windowStart : Request → Option Time
  instant : Request → Time

variable {Request Key Time : Type*} [LinearOrder Time]

/-- The instants inside a window. -/
def inside (start : Time) (instants : List Time) : List Time :=
  instants.filter (start < ·)

theorem inside_append (start : Time) (left right : List Time) :
    inside start (left ++ right) = inside start left ++ inside start right :=
  List.filter_append ..

/-- What an earlier window dropped, a later one does not miss. -/
theorem inside_inside {start later : Time} (ordered : start ≤ later)
    (instants : List Time) :
    inside later (inside start instants) = inside later instants := by
  rw [inside, inside, inside, List.filter_filter]
  apply List.filter_congr
  intro instant _
  have follows : later < instant → start < instant :=
    fun after => lt_of_le_of_lt ordered after
  by_cases after : later < instant <;> simp [after, follows]

variable [DecidableEq Key] (policy : Policy Request Key Time)

/-- The limiter that remembers every admitted request. -/
def exact (request : Request) (admitted : Key → List Time) :
    Option Bool × (Key → List Time) :=
  match policy.windowStart request with
  | none => (none, admitted)
  | some start =>
      let earlier := admitted (policy.key request)
      if (inside start earlier).length < policy.limit request then
        (some true, Function.update admitted (policy.key request)
          (earlier ++ [policy.instant request]))
      else (some false, admitted)

/-- A request is admitted if fewer than its limit lie inside its window. -/
theorem exact_answer (request : Request) (admitted : Key → List Time) :
    (exact policy request admitted).1 =
      (policy.windowStart request).map fun start =>
        decide ((inside start (admitted (policy.key request))).length <
          policy.limit request) := by
  unfold exact
  cases policy.windowStart request with
  | none => rfl
  | some start =>
      simp only [Option.map_some]
      split_ifs with below
      · rw [decide_eq_true below]
      · rw [decide_eq_false below]

/-- The limiter that remembers what the last window held. -/
def pruning (request : Request) (recent : Key → List Time) :
    Option Bool × (Key → List Time) :=
  match policy.windowStart request with
  | none => (none, recent)
  | some start =>
      let kept := inside start (recent (policy.key request))
      if kept.length < policy.limit request then
        (some true, Function.update recent (policy.key request)
          (kept ++ [policy.instant request]))
      else (some false, Function.update recent (policy.key request) kept)

/-- The window of the second request does not begin before the first's. -/
def Forward (first second : Request) : Prop :=
  ∀ start, policy.windowStart first = some start →
    ∀ later, policy.windowStart second = some later → start ≤ later

/-- Two histories hold the same inside every window still to come. -/
def Agree (rest : List Request) (recent admitted : Key → List Time) : Prop :=
  ∀ request ∈ rest, ∀ start, policy.windowStart request = some start →
    ∀ key, inside start (recent key) = inside start (admitted key)

/-- Rewriting one key keeps the agreement if the new lists agree. -/
theorem Agree.update {rest : List Request}
    {recent admitted : Key → List Time}
    (agree : Agree policy rest recent admitted) (key : Key)
    {left right : List Time}
    (same : ∀ request ∈ rest, ∀ start,
      policy.windowStart request = some start →
        inside start left = inside start right) :
    Agree policy rest (Function.update recent key left)
      (Function.update admitted key right) := by
  intro request member start begins other
  by_cases here : other = key
  · subst here
    rw [Function.update_self, Function.update_self]
    exact same request member start begins
  · rw [Function.update_of_ne here, Function.update_of_ne here]
    exact agree request member start begins other

/-- One request keeps the histories in agreement. -/
theorem Agree.step {request : Request} {rest : List Request}
    {recent admitted : Key → List Time}
    (forward : ∀ later ∈ rest, Forward policy request later)
    (agree : Agree policy (request :: rest) recent admitted) :
    (pruning policy request recent).1 = (exact policy request admitted).1 ∧
      Agree policy rest (pruning policy request recent).2
        (exact policy request admitted).2 := by
  have kept : Agree policy rest recent admitted :=
    fun later member => agree later (List.mem_cons_of_mem request member)
  cases begins : policy.windowStart request with
  | none => simpa [pruning, exact, begins] using kept
  | some start =>
      have same := agree request (by simp) start begins (policy.key request)
      have dropped : ∀ later ∈ rest, ∀ after,
          policy.windowStart later = some after →
            inside after (inside start (recent (policy.key request))) =
              inside after (admitted (policy.key request)) := by
        intro later member after beginsLater
        rw [inside_inside (forward later member start begins after beginsLater)]
        exact kept later member after beginsLater _
      simp only [pruning, exact, begins, ← same]
      split_ifs
      · refine ⟨rfl, kept.update policy _ ?_⟩
        intro later member after beginsLater
        rw [inside_append, inside_append,
          dropped later member after beginsLater]
      · refine ⟨rfl, ?_⟩
        have updated := kept.update policy (policy.key request) dropped
        rwa [Function.update_eq_self] at updated

/-- Forgetting what no later window holds changes no answer. -/
theorem pruning_answers {requests : List Request}
    (forward : requests.Pairwise (Forward policy))
    (initial : Key → List Time) :
    (serveAll (pruning policy) requests initial).1 =
      (serveAll (exact policy) requests initial).1 := by
  have initially : requests.Pairwise (Forward policy) ∧
      Agree policy requests initial initial :=
    ⟨forward, fun _ _ _ _ _ => rfl⟩
  have lockstep := serveAll_lockstep (pruning policy) (exact policy)
    (fun rest recent admitted =>
      rest.Pairwise (Forward policy) ∧ Agree policy rest recent admitted)
    (· = ·)
    (fun related => by
      obtain ⟨ordered, agree⟩ := related
      obtain ⟨here, later⟩ := List.pairwise_cons.mp ordered
      obtain ⟨now, kept⟩ := agree.step policy here
      exact ⟨now, later, kept⟩)
    initially
  exact List.forall₂_eq_eq_eq ▸ lockstep.1

/-- The instants of the admitted requests under a key, in order. -/
def admittedUnder (key : Key) (requests : List Request)
    (answers : List (Option Bool)) : List Time :=
  ((requests.zip answers).filter fun pair =>
      policy.key pair.1 = key ∧ pair.2 = some true).map
    fun pair => policy.instant pair.1

/-- The exact limiter remembers exactly what it admitted. -/
theorem exact_remembers (requests : List Request)
    (initial : Key → List Time) (key : Key) :
    (serveAll (exact policy) requests initial).2 key =
      initial key ++ admittedUnder policy key requests
        (serveAll (exact policy) requests initial).1 := by
  induction requests generalizing initial with
  | nil => simp [serveAll, admittedUnder]
  | cons request rest induction =>
      simp only [serveAll, induction]
      unfold exact
      cases policy.windowStart request with
      | none => simp [admittedUnder]
      | some start =>
          simp only
          split_ifs
          · by_cases here : key = policy.key request
            · subst here
              simp [admittedUnder]
            · simp [admittedUnder, Function.update_of_ne here, Ne.symm here]
          · simp [admittedUnder]

/-- The instants after `start` and not after `stop`. -/
def between (start stop : Time) (instants : List Time) : List Time :=
  instants.filter fun instant => start < instant ∧ instant ≤ stop

omit [DecidableEq Key] in
theorem between_append_singleton (start stop instant : Time)
    (instants : List Time) :
    between start stop (instants ++ [instant]) =
      between start stop instants ++
        if start < instant ∧ instant ≤ stop then [instant] else [] := by
  rw [between, between, List.filter_append]
  split_ifs with counted <;> simp [counted]

omit [DecidableEq Key] in
theorem length_between_le {start earlier : Time} (ordered : earlier ≤ start)
    (stop : Time) (instants : List Time) :
    (between start stop instants).length ≤
      (inside earlier instants).length := by
  apply List.Sublist.length_le
  apply List.monotone_filter_right
  intro instant held
  simp only [decide_eq_true_eq] at held ⊢
  exact lt_of_le_of_lt ordered held.1

/-- One request keeps a window within the limit. -/
theorem exact_bounded_step {shift : Time → Time} (monotone : Monotone shift)
    {key : Key} {limit : Int} {request : Request} {admitted : Key → List Time}
    {stop : Time}
    (shifted : ∀ start, policy.windowStart request = some start →
      start = shift (policy.instant request))
    (fixed : policy.key request = key → policy.limit request = limit)
    (bounded :
      ((between (shift stop) stop (admitted key)).length : Int) ≤
        max limit 0) :
    ((between (shift stop) stop
      ((exact policy request admitted).2 key)).length : Int) ≤
        max limit 0 := by
  unfold exact
  cases begins : policy.windowStart request with
  | none => exact bounded
  | some start =>
      simp only
      split_ifs with below
      · dsimp only
        by_cases here : key = policy.key request
        · subst here
          rw [fixed rfl, shifted start begins] at below
          rw [Function.update_self, between_append_singleton]
          split_ifs with counted
          · have fewer := length_between_le (monotone counted.2) stop
              (admitted (policy.key request))
            rw [List.length_append, List.length_singleton]
            omega
          · rw [List.append_nil]
            exact bounded
        · rw [Function.update_of_ne here]
          exact bounded
      · exact bounded

/-- No window holds more than the limit, if the limit of its key is fixed. -/
theorem exact_bounded {shift : Time → Time} (monotone : Monotone shift)
    {key : Key} {limit : Int} {requests : List Request}
    (shifted : ∀ request ∈ requests, ∀ start,
      policy.windowStart request = some start →
        start = shift (policy.instant request))
    (fixed : ∀ request ∈ requests, policy.key request = key →
      policy.limit request = limit)
    {admitted : Key → List Time} (stop : Time)
    (bounded :
      ((between (shift stop) stop (admitted key)).length : Int) ≤
        max limit 0) :
    ((between (shift stop) stop
      ((serveAll (exact policy) requests admitted).2 key)).length : Int) ≤
        max limit 0 := by
  induction requests generalizing admitted with
  | nil => exact bounded
  | cons request rest induction =>
      apply induction
      · exact fun later member =>
          shifted later (List.mem_cons_of_mem request member)
      · exact fun later member =>
          fixed later (List.mem_cons_of_mem request member)
      · exact exact_bounded_step policy monotone (shifted request (by simp))
          (fixed request (by simp)) bounded

end SlidingWindow
