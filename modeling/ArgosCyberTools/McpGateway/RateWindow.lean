import ArgosCyberTools.McpGateway.RateLimiter
import ArgosCyberTools.Transition.SlidingWindow

/-!
# The rate limiter is an exact sliding window

Every call of `check_and_record` forgets the calls of its tool that have left
the window, refused calls included.  Over calls whose `now` does not decrease
this changes no answer: the limiter refines the one that forgets nothing.
-/

namespace ArgosCyberTools.McpGateway

open Python Transition SlidingWindow

/-- The arguments of one call of `check_and_record`. -/
structure LimiterCall where
  toolName : PyStr
  callsPerMinute : Int
  now : PyDateTime

namespace LimiterCall

def serve (call : LimiterCall) : PyM RateLimiter BuiltinError Bool :=
  RateLimiter.checkAndRecord call.toolName call.callsPerMinute call.now

/-- The second call is not made before the first: `not (first > second)`. -/
def NotAfter (first second : LimiterCall) : Prop :=
  first.now.gt second.now = .ok false

theorem NotAfter.isAware_eq {first second : LimiterCall}
    (ordered : NotAfter first second) :
    first.now.isAware = second.now.isAware :=
  (PyDateTime.gt_eq_ok_iff.mp ordered).1

theorem NotAfter.instant_le {first second : LimiterCall}
    (ordered : NotAfter first second) :
    first.now.instant ≤ second.now.instant := by
  have compared := (PyDateTime.gt_eq_ok_iff.mp ordered).2
  simpa using compared

/-- `now - timedelta(minutes=1)`, if it is a date. -/
def windowStart (call : LimiterCall) : Option Int :=
  if oneMinute ≤ call.now.wallClock then
    some (call.now.instant - oneMinute)
  else none

/-- The window of one minute, one for each tool. -/
def oneMinutePolicy : Policy LimiterCall PyStr Int where
  key call := call.toolName
  limit call := call.callsPerMinute
  windowStart := windowStart
  instant call := call.now.instant

/-- A limiter without a window raises. -/
def outcomeOf (answer : Option Bool) : Except BuiltinError Bool :=
  match answer with
  | none => .error .overflowError
  | some admitted => .ok admitted

end LimiterCall

namespace RateLimiter

/-! ## What one call does -/

theorem callsAfter_of_comparable {windowStart : PyDateTime}
    {calls : List PyDateTime}
    (comparable : ∀ call ∈ calls, call.isAware = windowStart.isAware) :
    callsAfter windowStart calls =
      .ok (calls.filter fun call => windowStart.instant < call.instant) := by
  induction calls with
  | nil => rfl
  | cons call rest induction =>
      obtain ⟨here, later⟩ := List.forall_mem_cons.mp comparable
      rw [callsAfter, PyDateTime.gt_of_isAware_eq here, induction later]
      by_cases recent : windowStart.instant < call.instant <;>
        simp [recent, bind, Except.bind, pure, Except.pure]

theorem history_assign (limiter : RateLimiter) (toolName asked : PyStr)
    (calls : List PyDateTime) :
    history ⟨limiter.calls.assign toolName calls⟩ asked =
      if asked = toolName then calls else limiter.history asked := by
  rw [history, history, PyDict.get?_assign]
  split_ifs <;> rfl

/-- Without a window the call raises and counts nothing. -/
theorem checkAndRecord_of_early {toolName : PyStr} {callsPerMinute : Int}
    {now : PyDateTime} (early : ¬ oneMinute ≤ now.wallClock)
    (limiter : RateLimiter) :
    checkAndRecord toolName callsPerMinute now limiter =
      (.error .overflowError, limiter) := by
  have noStart : now.minusMinute = .error .overflowError := by
    simp [PyDateTime.minusMinute, early]
  rw [checkAndRecord, noStart]
  rfl

/-- The remembered calls of a tool in the minute before `now`. -/
def recentCalls (limiter : RateLimiter) (toolName : PyStr)
    (now : PyDateTime) : List PyDateTime :=
  (limiter.history toolName).filter fun call =>
    now.instant - oneMinute < call.instant

/-- With one, the call is decided by what the history holds inside it. -/
theorem checkAndRecord_of_comparable {toolName : PyStr}
    {callsPerMinute : Int} {now : PyDateTime} {limiter : RateLimiter}
    (comparable : limiter.Comparable toolName now) :
    checkAndRecord toolName callsPerMinute now limiter =
      let recent := limiter.recentCalls toolName now
      if callsPerMinute ≤ recent.length then
        (.ok false, ⟨limiter.calls.assign toolName recent⟩)
      else
        (.ok true, ⟨limiter.calls.assign toolName (recent ++ [now])⟩) := by
  obtain ⟨late, kinds⟩ := comparable
  obtain ⟨start, begins, aware, instant⟩ := PyDateTime.exists_minusMinute late
  have kept : callsAfter start (limiter.history toolName) = _ :=
    callsAfter_of_comparable fun call member =>
      (kinds call member).trans aware.symm
  rw [instant] at kept
  simp only [checkAndRecord, PyM.bind_apply, begins, PyM.ofExcept_apply,
    PyM.get_apply, kept, recentCalls]
  split_ifs with full
  · simp only [PyM.bind_apply, PyM.set_apply, PyM.pure_apply]
    exact (if_pos full).symm
  · simp only [PyM.bind_apply, PyM.set_apply, PyM.pure_apply]
    exact (if_neg full).symm

/-- An admitted call can be compared with at the same time again. -/
theorem comparable_of_admitted {toolName : PyStr} {callsPerMinute : Int}
    {now : PyDateTime} {limiter after : RateLimiter}
    (admitted :
      checkAndRecord toolName callsPerMinute now limiter =
        (.ok true, after)) :
    after.Comparable toolName now := by
  have comparable : limiter.Comparable toolName now := by
    rw [← checkAndRecord_answers_iff limiter toolName callsPerMinute, admitted]
    exact ⟨true, rfl⟩
  rw [checkAndRecord_of_comparable comparable] at admitted
  simp only at admitted
  split_ifs at admitted
  · cases admitted
  · cases admitted
    refine ⟨comparable.1, fun call member => ?_⟩
    rw [history_assign, if_pos rfl, List.mem_append,
      List.mem_singleton] at member
    rcases member with recent | rfl
    · exact comparable.2 call (List.mem_of_mem_filter recent)
    · rfl

end RateLimiter

/-! ## Refinement of the pruning window -/

open LimiterCall

/-- The instants a limiter remembers of each tool. -/
def RateLimiter.instants (limiter : RateLimiter) (toolName : PyStr) :
    List Int :=
  (limiter.history toolName).map (·.instant)

/-- What is remembered can be compared with every call to come. -/
structure Serves (rest : List LimiterCall) (limiter : RateLimiter)
    (recent : PyStr → List Int) : Prop where
  ordered : rest.Pairwise NotAfter
  instants : ∀ toolName, limiter.instants toolName = recent toolName
  kinds : ∀ toolName, ∀ past ∈ limiter.history toolName,
    ∀ call ∈ rest, past.isAware = call.now.isAware

theorem Serves.recentCalls_eq {rest : List LimiterCall}
    {limiter : RateLimiter} {recent : PyStr → List Int}
    (serves : Serves rest limiter recent) (toolName : PyStr)
    (now : PyDateTime) :
    (limiter.recentCalls toolName now).map (·.instant) =
      inside (now.instant - oneMinute) (recent toolName) := by
  rw [← serves.instants, RateLimiter.instants, inside, List.filter_map]
  rfl

/-- Rewriting what is remembered of one tool. -/
theorem Serves.assign {rest : List LimiterCall} {limiter : RateLimiter}
    {recent : PyStr → List Int} (serves : Serves rest limiter recent)
    (toolName : PyStr) {calls : List PyDateTime}
    (kinds : ∀ past ∈ calls, ∀ call ∈ rest,
      past.isAware = call.now.isAware) :
    Serves rest ⟨limiter.calls.assign toolName calls⟩
      (Function.update recent toolName (calls.map (·.instant))) where
  ordered := serves.ordered
  instants asked := by
    rw [RateLimiter.instants, RateLimiter.history_assign]
    split_ifs with here
    · rw [here, Function.update_self]
    · rw [Function.update_of_ne here]
      exact serves.instants asked
  kinds asked past member := by
    rw [RateLimiter.history_assign] at member
    split_ifs at member
    · exact kinds past member
    · exact serves.kinds asked past member

/-- One call of the limiter is one request to the pruning window. -/
theorem Serves.step {call : LimiterCall} {rest : List LimiterCall}
    {limiter : RateLimiter} {recent : PyStr → List Int}
    (serves : Serves (call :: rest) limiter recent) :
    (call.serve limiter).1 =
        outcomeOf (pruning oneMinutePolicy call recent).1 ∧
      Serves rest (call.serve limiter).2
        (pruning oneMinutePolicy call recent).2 := by
  obtain ⟨here, later⟩ := List.pairwise_cons.mp serves.ordered
  have kept : Serves rest limiter recent :=
    { ordered := later
      instants := serves.instants
      kinds := fun toolName past member call calls =>
        serves.kinds toolName past member call (List.mem_cons_of_mem _ calls) }
  by_cases late : oneMinute ≤ call.now.wallClock
  · have comparable : limiter.Comparable call.toolName call.now :=
      ⟨late, fun past member => serves.kinds _ past member call (by simp)⟩
    have begins : windowStart call = some (call.now.instant - oneMinute) :=
      if_pos late
    have held := kept.recentCalls_eq call.toolName call.now
    have heldKinds : ∀ past ∈ limiter.recentCalls call.toolName call.now,
        ∀ later ∈ rest, past.isAware = later.now.isAware :=
      fun past member later calls =>
        kept.kinds _ past (List.mem_of_mem_filter member) later calls
    have recordedKinds :
        ∀ past ∈ limiter.recentCalls call.toolName call.now ++ [call.now],
          ∀ later ∈ rest, past.isAware = later.now.isAware := by
      intro past member later calls
      rcases List.mem_append.mp member with old | new
      · exact heldKinds past old later calls
      · rw [List.mem_singleton.mp new]
        exact (here later calls).isAware_eq
    rw [serve, RateLimiter.checkAndRecord_of_comparable comparable]
    simp only [pruning, oneMinutePolicy, begins, ← held, List.length_map]
    split_ifs with full below below
    · omega
    · exact ⟨rfl, kept.assign call.toolName heldKinds⟩
    · refine ⟨rfl, ?_⟩
      have recorded := kept.assign call.toolName recordedKinds
      rwa [List.map_append, List.map_singleton] at recorded
    · omega
  · rw [serve, RateLimiter.checkAndRecord_of_early late]
    simpa [pruning, oneMinutePolicy, windowStart, late, outcomeOf] using kept

/-! ## Whole histories -/

/-- The answers a new limiter gives to these calls. -/
def answersOf (calls : List LimiterCall) : List (Except BuiltinError Bool) :=
  (serveAll serve calls RateLimiter.fresh).1

/-- The state in which these calls leave a new limiter. -/
def limiterAfter (calls : List LimiterCall) : RateLimiter :=
  (serveAll serve calls RateLimiter.fresh).2

/-- The call returned `True`. -/
def returnedTrue (outcome : Except BuiltinError Bool) : Bool :=
  match outcome with
  | .ok admitted => admitted
  | .error _ => false

/-- The calls that returned `True`, with nothing forgotten. -/
def admittedCalls (calls : List LimiterCall) : List LimiterCall :=
  ((calls.zip (answersOf calls)).filter fun pair => returnedTrue pair.2).map
    Prod.fst

/-- The calls of one tool made after `start`. -/
def callsSince (toolName : PyStr) (start : Int) (calls : List LimiterCall) :
    List LimiterCall :=
  calls.filter fun call =>
    call.toolName = toolName ∧ start < call.now.instant

/-- The answers of the limiter that forgets nothing. -/
def exactAnswers (calls : List LimiterCall) : List (Option Bool) :=
  (serveAll (exact oneMinutePolicy) calls fun _ => []).1

theorem NotAfter.forward {first second : LimiterCall}
    (ordered : NotAfter first second) :
    Forward oneMinutePolicy first second := by
  intro start begins later laterBegins
  simp only [oneMinutePolicy, windowStart, Option.ite_none_right_eq_some,
    Option.some.injEq] at begins laterBegins
  have instants := ordered.instant_le
  omega

/-- The limiter refines the one that forgets nothing. -/
theorem answersOf_eq {calls : List LimiterCall}
    (ordered : calls.Pairwise NotAfter) :
    answersOf calls = (exactAnswers calls).map outcomeOf := by
  have initially :
      Serves calls RateLimiter.fresh fun _ => [] :=
    { ordered
      instants := fun _ => rfl
      kinds := fun _ _ member => nomatch member }
  have lockstep := (serveAll_lockstep serve (pruning oneMinutePolicy) Serves
    (fun outcome answer => outcome = outcomeOf answer) Serves.step
    initially).1
  have forward := ordered.imp NotAfter.forward
  rw [pruning_answers oneMinutePolicy forward] at lockstep
  rw [← List.forall₂_eq_eq_eq, List.forall₂_map_right_iff]
  exact lockstep

/-- The exact limiter remembers the calls that returned `True`. -/
theorem admittedUnder_eq {calls : List LimiterCall}
    (ordered : calls.Pairwise NotAfter) (toolName : PyStr) :
    admittedUnder oneMinutePolicy toolName calls (exactAnswers calls) =
      ((admittedCalls calls).filter fun call =>
        call.toolName = toolName).map fun call => call.now.instant := by
  rw [admittedCalls, answersOf_eq ordered]
  generalize exactAnswers calls = answers
  clear ordered
  induction calls generalizing answers with
  | nil => rfl
  | cons call rest induction =>
      cases answers with
      | nil => rfl
      | cons answer later =>
          have remaining := induction later
          simp only [admittedUnder, oneMinutePolicy] at remaining ⊢
          rcases answer with _ | (_ | _)
          · simpa [returnedTrue, outcomeOf] using remaining
          · simpa [returnedTrue, outcomeOf] using remaining
          · by_cases here : call.toolName = toolName <;>
              simpa [returnedTrue, outcomeOf, here] using remaining

/-- The exact limiter's state is the history of admitted calls. -/
theorem exact_state {calls : List LimiterCall}
    (ordered : calls.Pairwise NotAfter) (toolName : PyStr) :
    (serveAll (exact oneMinutePolicy) calls fun _ => []).2 toolName =
      ((admittedCalls calls).filter fun call =>
        call.toolName = toolName).map fun call => call.now.instant := by
  rw [exact_remembers, List.nil_append]
  exact admittedUnder_eq ordered toolName

theorem length_inside_exact {calls : List LimiterCall}
    (ordered : calls.Pairwise NotAfter) (toolName : PyStr) (start : Int) :
    (inside start ((serveAll (exact oneMinutePolicy) calls fun _ => []).2
        toolName)).length =
      (callsSince toolName start (admittedCalls calls)).length := by
  rw [exact_state ordered, inside, List.filter_map, List.length_map,
    List.filter_filter, callsSince]
  congr 1
  apply List.filter_congr
  intro call _
  simp [Bool.and_comm]

theorem length_between_exact {calls : List LimiterCall}
    (ordered : calls.Pairwise NotAfter) (toolName : PyStr)
    (start stop : Int) :
    (between start stop ((serveAll (exact oneMinutePolicy) calls
        fun _ => []).2 toolName)).length =
      ((callsSince toolName start (admittedCalls calls)).filter
        fun call => call.now.instant ≤ stop).length := by
  rw [exact_state ordered, between, List.filter_map, List.length_map,
    List.filter_filter, callsSince, List.filter_filter]
  congr 1
  apply List.filter_congr
  intro call _
  by_cases here : call.toolName = toolName <;> simp [here, Bool.and_comm]

theorem answersOf_append (before : List LimiterCall) (call : LimiterCall) :
    answersOf (before ++ [call]) =
      answersOf before ++ [(call.serve (limiterAfter before)).1] :=
  congrArg Prod.fst (serveAll_append serve before [call] RateLimiter.fresh)

theorem exactAnswers_append (before : List LimiterCall)
    (call : LimiterCall) :
    exactAnswers (before ++ [call]) =
      exactAnswers before ++ [(exact oneMinutePolicy call
        (serveAll (exact oneMinutePolicy) before fun _ => []).2).1] :=
  congrArg Prod.fst
    (serveAll_append (exact oneMinutePolicy) before [call] fun _ => [])

/-- One more call is decided by the calls since the start of its window. -/
theorem serve_after {before : List LimiterCall} {call : LimiterCall}
    (ordered : (before ++ [call]).Pairwise NotAfter) :
    (call.serve (limiterAfter before)).1 =
      if oneMinute ≤ call.now.wallClock then
        .ok (decide
          ((callsSince call.toolName (call.now.instant - oneMinute)
            (admittedCalls before)).length < call.callsPerMinute))
      else .error .overflowError := by
  have orderedBefore := (List.pairwise_append.mp ordered).1
  have answers := answersOf_eq ordered
  rw [answersOf_append, exactAnswers_append, List.map_append,
    answersOf_eq orderedBefore, List.append_cancel_left_eq] at answers
  have remembered := length_inside_exact orderedBefore call.toolName
    (call.now.instant - oneMinute)
  rw [(List.cons.inj answers).1, exact_answer, ← remembered]
  by_cases late : oneMinute ≤ call.now.wallClock
  · have begins : oneMinutePolicy.windowStart call =
        some (call.now.instant - oneMinute) := if_pos late
    rw [begins, if_pos late]
    rfl
  · have absent : oneMinutePolicy.windowStart call = none := if_neg late
    rw [absent, if_neg late]
    rfl

/-- With a fixed limit, no minute holds more admitted calls of a tool. -/
theorem admitted_in_minute {calls : List LimiterCall}
    (ordered : calls.Pairwise NotAfter) {toolName : PyStr} {limit : Int}
    (fixed : ∀ call ∈ calls, call.toolName = toolName →
      call.callsPerMinute = limit) (stop : Int) :
    (((callsSince toolName (stop - oneMinute) (admittedCalls calls)).filter
      fun call => call.now.instant ≤ stop).length : Int) ≤ max limit 0 := by
  have monotone : Monotone fun instant : Int => instant - oneMinute :=
    fun _ _ ordered => Int.sub_le_sub_right ordered _
  have shifted : ∀ call ∈ calls, ∀ start,
      oneMinutePolicy.windowStart call = some start →
        start = oneMinutePolicy.instant call - oneMinute := by
    intro call _ start begins
    simp only [oneMinutePolicy, windowStart, Option.ite_none_right_eq_some,
      Option.some.injEq] at begins ⊢
    exact begins.2.symm
  have none_yet : ((between (stop - oneMinute) stop ([] : List Int)).length :
      Int) ≤ max limit 0 :=
    le_max_right limit 0
  rw [← length_between_exact ordered]
  exact exact_bounded oneMinutePolicy monotone shifted fixed stop none_yet

/-! ## Other tools -/

/-- A call is answered by the history of its tool, and replaces that alone. -/
theorem RateLimiter.exists_checkAndRecord (toolName : PyStr)
    (callsPerMinute : Int) (now : PyDateTime) (recorded : List PyDateTime) :
    ∃ answer left, ∀ limiter : RateLimiter,
      limiter.history toolName = recorded →
        (checkAndRecord toolName callsPerMinute now limiter).1 = answer ∧
        ∀ asked,
          history (checkAndRecord toolName callsPerMinute now limiter).2
              asked =
            if asked = toolName then left else limiter.history asked := by
  have unchanged (limiter : RateLimiter)
      (same : limiter.history toolName = recorded) (asked : PyStr) :
      limiter.history asked =
        if asked = toolName then recorded else limiter.history asked := by
    split_ifs with here
    · rw [here, same]
    · rfl
  simp only [checkAndRecord, PyM.bind_apply, PyM.ofExcept_apply,
    PyM.get_apply]
  cases now.minusMinute with
  | error error =>
      exact ⟨.error error, recorded, fun limiter same =>
        ⟨rfl, unchanged limiter same⟩⟩
  | ok start =>
      cases found : callsAfter start recorded with
      | error error =>
          refine ⟨.error error, recorded, fun limiter same => ?_⟩
          simp only [same, found, true_and]
          exact unchanged limiter same
      | ok recent =>
          by_cases full : callsPerMinute ≤ recent.length
          · refine ⟨.ok false, recent, fun limiter same => ?_⟩
            simp [same, found, full, PyM.bind_apply, history_assign]
          · refine ⟨.ok true, recent ++ [now], fun limiter same => ?_⟩
            simp [same, found, full, PyM.bind_apply, history_assign]

theorem RateLimiter.checkAndRecord_congr {toolName : PyStr}
    {callsPerMinute : Int} {now : PyDateTime} {limiter other : RateLimiter}
    (same : limiter.history toolName = other.history toolName) :
    (checkAndRecord toolName callsPerMinute now limiter).1 =
        (checkAndRecord toolName callsPerMinute now other).1 ∧
      history (checkAndRecord toolName callsPerMinute now limiter).2
          toolName =
        history (checkAndRecord toolName callsPerMinute now other).2
          toolName := by
  obtain ⟨answer, left, spec⟩ := exists_checkAndRecord toolName callsPerMinute
    now (other.history toolName)
  obtain ⟨answered, leaves⟩ := spec limiter same
  obtain ⟨otherAnswered, otherLeaves⟩ := spec other rfl
  refine ⟨answered.trans otherAnswered.symm, ?_⟩
  rw [leaves, otherLeaves, if_pos rfl, if_pos rfl]

theorem RateLimiter.checkAndRecord_history_of_ne {toolName asked : PyStr}
    {callsPerMinute : Int} {now : PyDateTime} {limiter : RateLimiter}
    (different : asked ≠ toolName) :
    history (checkAndRecord toolName callsPerMinute now limiter).2 asked =
      limiter.history asked := by
  obtain ⟨answer, left, spec⟩ := exists_checkAndRecord toolName callsPerMinute
    now (limiter.history toolName)
  rw [(spec limiter rfl).2, if_neg different]

/-- The calls of a tool are answered as if there were no others. -/
theorem answersOf_tool (calls : List LimiterCall) (toolName : PyStr) :
    answersTo (fun call => call.toolName = toolName) calls
        (answersOf calls) =
      answersOf (calls.filter fun call => call.toolName = toolName) := by
  have kept : List.Forall₂ (· = ·)
      (answersTo (fun call => call.toolName = toolName) calls
        (answersOf calls))
      (answersOf (calls.filter fun call => call.toolName = toolName)) := by
    apply serveAll_kept serve serve _
      fun _ limiter other => limiter.history toolName = other.history toolName
    · intro call rest limiter other here same
      have named : call.toolName = toolName := of_decide_eq_true here
      subst named
      exact RateLimiter.checkAndRecord_congr same
    · intro call rest limiter other elsewhere same
      have different : toolName ≠ call.toolName :=
        Ne.symm (of_decide_eq_false elsewhere)
      exact (RateLimiter.checkAndRecord_history_of_ne different).trans same
    · rfl
  exact List.forall₂_eq_eq_eq ▸ kept

/-! ## The limiter as a sliding window -/

/--
Over calls whose `now` does not decrease, a call with a window returns `True`
exactly while fewer than its limit of the earlier admitted calls of its tool
lie inside; a fixed limit then bounds every minute, and other tools have no
influence.
-/
theorem rate_limit_exact {calls : List LimiterCall}
    (ordered : calls.Pairwise NotAfter) :
    (∀ before call after, calls = before ++ call :: after →
      (call.serve (limiterAfter before)).1 =
        if oneMinute ≤ call.now.wallClock then
          .ok (decide
            ((callsSince call.toolName (call.now.instant - oneMinute)
              (admittedCalls before)).length < call.callsPerMinute))
        else .error .overflowError) ∧
    (∀ toolName limit,
      (∀ call ∈ calls, call.toolName = toolName →
        call.callsPerMinute = limit) →
      ∀ stop,
        (((callsSince toolName (stop - oneMinute)
          (admittedCalls calls)).filter
            fun call => call.now.instant ≤ stop).length : Int) ≤
          max limit 0) ∧
    ∀ toolName,
      answersTo (fun call => call.toolName = toolName) calls
          (answersOf calls) =
        answersOf (calls.filter fun call => call.toolName = toolName) := by
  refine ⟨?_, ?_, answersOf_tool calls⟩
  · rintro before call after rfl
    apply serve_after
    rw [List.append_cons] at ordered
    exact (List.pairwise_append.mp ordered).1
  · intro toolName limit fixed stop
    exact admitted_in_minute ordered fixed stop

/-- `seconds` after the beginning of the year 1, UTC. -/
def secondsIn (seconds : Nat) (inRange : seconds * 1000000 < wallClockEnd) :
    PyDateTime :=
  ⟨seconds * 1000000, some 0, inRange⟩

/-- A call made a minute after another one no longer sees it. -/
theorem rate_limit_exact_at_the_boundary :
    let first : LimiterCall := ⟨"scale_to_zero", 1, secondsIn 60 (by decide)⟩
    let second : LimiterCall := ⟨"scale_to_zero", 1, secondsIn 120 (by decide)⟩
    (second.serve (limiterAfter [first])).1 = .ok true := by
  intro first second
  have ordered : [first, second].Pairwise NotAfter := by
    apply List.Pairwise.cons
    · intro later member
      rw [List.mem_singleton.mp member]
      exact PyDateTime.gt_eq_ok_iff.mpr ⟨rfl, by decide +kernel⟩
    · exact List.pairwise_singleton NotAfter second
  have decided := (rate_limit_exact ordered).1 [first] second [] rfl
  rw [decided, if_pos (by decide +kernel)]
  exact congrArg Except.ok (decide_eq_true (by decide +kernel))

/-- In the first minute of the year 1 a call raises instead. -/
theorem rate_limit_without_window :
    let call : LimiterCall := ⟨"scale_to_zero", 1, secondsIn 0 (by decide)⟩
    ¬ ((call.serve (limiterAfter [])).1 = .ok true ↔
      (callsSince call.toolName (call.now.instant - oneMinute)
        (admittedCalls [])).length < call.callsPerMinute) := by
  intro call answered
  have admitted := answered.mpr (by decide)
  cases admitted

end ArgosCyberTools.McpGateway
