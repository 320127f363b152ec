import ArgosCyberTools.Python.Datetime
import ArgosCyberTools.Python.Dict
import ArgosCyberTools.Python.Effect

/-!
# The rate limiter

`mcp_gateway.RateLimiter`: the instants of the recent calls of every tool.
Each attempt first forgets what has left the window of one minute, then is
counted unless the limit is reached.
-/

namespace ArgosCyberTools.McpGateway

open Python

structure RateLimiter where
  calls : PyDict PyStr (List PyDateTime)

namespace RateLimiter

/-- `RateLimiter()`. -/
def fresh : RateLimiter := ⟨PyDict.empty⟩

/-- `self._calls.get(tool_name, ())`. -/
def history (limiter : RateLimiter) (toolName : PyStr) :
    List PyDateTime :=
  (limiter.calls.get? toolName).getD []

/-- `[t for t in history if t > window_start]`. -/
def callsAfter (windowStart : PyDateTime) :
    List PyDateTime → Except BuiltinError (List PyDateTime)
  | [] => .ok []
  | call :: rest => do
      let recent ← call.gt windowStart
      let kept ← callsAfter windowStart rest
      return if recent then call :: kept else kept

def checkAndRecord (toolName : PyStr) (callsPerMinute : Int)
    (now : PyDateTime) : PyM RateLimiter BuiltinError Bool := do
  let windowStart ← PyM.ofExcept now.minusMinute
  let limiter ← PyM.get
  let recent ← PyM.ofExcept
    (callsAfter windowStart (limiter.history toolName))
  if callsPerMinute ≤ recent.length then
    PyM.set { limiter with calls := limiter.calls.assign toolName recent }
    return false
  else
    PyM.set
      { limiter with
        calls := limiter.calls.assign toolName (recent ++ [now]) }
    return true

/-! ## When the limiter answers -/

/-- The comparisons raise unless all instants are of one kind. -/
theorem callsAfter_eq_ok_iff (windowStart : PyDateTime)
    (calls : List PyDateTime) :
    (∃ kept, callsAfter windowStart calls = .ok kept) ↔
      ∀ call ∈ calls, call.isAware = windowStart.isAware := by
  induction calls with
  | nil => simp [callsAfter]
  | cons call rest induction =>
      simp only [callsAfter, bind_eq_ok_iff, PyDateTime.gt_eq_ok_iff,
        List.forall_mem_cons, ← induction]
      constructor
      · rintro ⟨_, _, ⟨same, -⟩, kept, remaining, -⟩
        exact ⟨same, kept, remaining⟩
      · rintro ⟨same, kept, remaining⟩
        exact ⟨_, _, ⟨same, rfl⟩, kept, remaining, rfl⟩

/-- The window's start exists and the history can be compared with it. -/
def Comparable (limiter : RateLimiter) (toolName : PyStr)
    (now : PyDateTime) : Prop :=
  oneMinute ≤ now.wallClock ∧
    ∀ call ∈ limiter.history toolName, call.isAware = now.isAware

instance (limiter : RateLimiter) (toolName : PyStr) (now : PyDateTime) :
    Decidable (limiter.Comparable toolName now) := by
  unfold Comparable
  infer_instance

/-- The limiter answers exactly when its history is comparable. -/
theorem checkAndRecord_answers_iff (limiter : RateLimiter)
    (toolName : PyStr) (callsPerMinute : Int) (now : PyDateTime) :
    (∃ answer, (checkAndRecord toolName callsPerMinute now limiter).1 =
        .ok answer) ↔
      limiter.Comparable toolName now := by
  unfold checkAndRecord Comparable
  rw [PyM.bind_apply, PyM.ofExcept_apply]
  cases early : now.minusMinute with
  | error error =>
      have outside : ¬ oneMinute ≤ now.wallClock := by
        intro inside
        simp [PyDateTime.minusMinute, inside] at early
      simp [outside]
  | ok windowStart =>
      have inside : oneMinute ≤ now.wallClock := by
        by_contra outside
        simp [PyDateTime.minusMinute, outside] at early
      simp only [PyM.bind_apply, PyM.get_apply, PyM.ofExcept_apply,
        inside, true_and, ← PyDateTime.minusMinute_isAware early,
        ← callsAfter_eq_ok_iff]
      cases callsAfter windowStart (limiter.history toolName) with
      | error error => simp
      | ok recent =>
          simp only [Except.ok.injEq, exists_eq', iff_true]
          split_ifs <;> exact ⟨_, rfl⟩

end RateLimiter

end ArgosCyberTools.McpGateway
