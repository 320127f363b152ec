import ArgosCyberTools.Rollback.Histories
import ArgosCyberTools.Rollback.Reported

/-!
# Retried rollbacks

A strategy called with its default arguments remembers its result in a store
that is gone when it returns, so a retry under the same key is a second
rollback: it returns a record of its own, and lifts what was put in place
since the first one.
-/

namespace ArgosCyberTools.Rollback

open Python Executors Transition

namespace HistoryCall

variable {Handle : Type}

def isByDefault : HistoryCall Handle → Bool
  | injected _ => false
  | byDefault _ _ _ => true

def stamps : HistoryCall Handle → Stamps
  | injected call => call.stamps
  | byDefault _ stamps _ => stamps

/-- The `id` of the record the call builds. -/
def resultId (call : HistoryCall Handle) : PyStr :=
  "act-" ++ call.stamps.uuidHex.take 32

end HistoryCall

/-- A default call, and one of the same strategy under the same key later. -/
structure RetriedIn {Handle : Type}
    (calls before between : List (HistoryCall Handle))
    (first later : HistoryCall Handle) : Prop where
  inOrder : before ++ first :: between ++ [later] <+: calls
  firstByDefault : first.isByDefault = true
  laterByDefault : later.isByDefault = true
  sameKind : later.kind = first.kind
  sameKey : later.arguments.idempotencyKey = first.arguments.idempotencyKey

/-- No default call of the history is retried in it. -/
def NeverRetried {Handle : Type} (calls : List (HistoryCall Handle)) : Prop :=
  ∀ before first between later, ¬ RetriedIn calls before between first later

/-- The last call applied was a method. -/
def EndsExecuted (acts : List Act) : Prop :=
  ∃ dryRun, acts.getLast? = some (.execute dryRun)

section Retries

variable [PyRuntime] {Handle : Type} [DecidableEq Handle]

/-- Both calls return, and they return the same record. -/
def SameResult (contract : Contract) (initial : World Handle)
    (before between : List (HistoryCall Handle))
    (first later : HistoryCall Handle) : Prop :=
  ∃ record,
    (first.serve contract (historyAfter contract before initial)).1 =
        .ok record ∧
      (later.serve contract
        (historyAfter contract (before ++ first :: between) initial)).1 =
          .ok record

/-- The call shows on no target. -/
def Inert (contract : Contract) (call : HistoryCall Handle)
    (world : World Handle) : Prop :=
  ∀ kind target, standing (call.serve contract world).2 kind target =
    standing world kind target

/-- Every retry returns the first result and changes nothing. -/
def RetriesHonoured (contract : Contract) (initial : World Handle)
    (calls : List (HistoryCall Handle)) : Prop :=
  ∀ before first between later,
    RetriedIn calls before between first later →
      SameResult contract initial before between first later ∧
        Inert contract later
          (historyAfter contract (before ++ first :: between) initial)

/-! ## The results -/

theorem get?_id {State : Type} {producer : PyStr}
    {arguments : ActionArguments} {dryRun : Bool} {stamps : Stamps}
    {effect : Effect State} {record : JsonObject}
    (built : fullPayload producer arguments dryRun stamps effect =
      .ok record) :
    record.get? "id" = some (.str ("act-" ++ stamps.uuidHex.take 32)) := by
  simp only [fullPayload, bind_eq_ok_iff, buildEnvelope, pure_eq_ok_iff,
    newIdPrefixed_act, Except.ok.injEq] at built
  obtain ⟨resultId, rfl, envelope, ⟨payloadHash, -, rfl⟩, rfl⟩ := built
  rw [PyDict.get?_ofList]
  simp [actionPayload, PyDict.lookupIn]

/-- The record a default call returns carries the id of the call. -/
theorem get?_id_of_byDefault {contract : Contract}
    {call : HistoryCall Handle} {world : World Handle} {record : JsonObject}
    (byDefault : call.isByDefault = true)
    (returned : (call.serve contract world).1 = .ok record) :
    record.get? "id" = some (.str call.resultId) := by
  cases call with
  | injected call => cases byDefault
  | byDefault kind stamps arguments =>
      obtain ⟨other, built, ran⟩ := serve_byDefault contract kind stamps
        arguments world
      rw [ran] at returned
      split_ifs at returned
      cases returned
      exact get?_id built

omit [PyRuntime] [DecidableEq Handle] in
theorem resultId_ne {calls before between : List (HistoryCall Handle)}
    {first later : HistoryCall Handle}
    (uniqueIds : calls.Pairwise fun one other =>
      one.resultId ≠ other.resultId)
    (retried : RetriedIn calls before between first later) :
    first.resultId ≠ later.resultId := by
  have among := uniqueIds.sublist retried.inOrder.sublist
  rw [List.append_assoc, List.pairwise_append, List.cons_append,
    List.pairwise_cons] at among
  exact among.2.1.1 later (List.mem_append_right _ (List.mem_singleton_self _))

/-- No retry returns the first result. -/
theorem not_sameResult {contract : Contract} {initial : World Handle}
    {calls before between : List (HistoryCall Handle)}
    {first later : HistoryCall Handle}
    (uniqueIds : calls.Pairwise fun one other =>
      one.resultId ≠ other.resultId)
    (retried : RetriedIn calls before between first later) :
    ¬ SameResult contract initial before between first later := by
  rintro ⟨record, returned, again⟩
  have id := get?_id_of_byDefault retried.firstByDefault returned
  have otherId := get?_id_of_byDefault retried.laterByDefault again
  rw [id, Option.some.injEq, Json.str.injEq] at otherId
  exact resultId_ne uniqueIds retried otherId

/-! ## The state -/

/-- A default call is applied, and shows its target as it originally was. -/
theorem standing_byDefault {contract : Contract} {call : HistoryCall Handle}
    {world : World Handle} (byDefault : call.isByDefault = true)
    (kind : ExecutorKind) (target : PyStr) :
    standing (call.serve contract world).2 kind target =
      if call.kind = kind ∧ call.target = target then
        original world kind target
      else standing world kind target := by
  cases call with
  | injected call => cases byDefault
  | byDefault ofKind stamps arguments =>
      rw [standing_serve, HistoryCall.appliedAt]
      simp only [HistoryCall.applies, and_true]
      split_ifs <;> rfl

/-- It is inert exactly when its target stands as it originally was. -/
theorem inert_byDefault_iff {contract : Contract} {call : HistoryCall Handle}
    {world : World Handle} (byDefault : call.isByDefault = true) :
    Inert contract call world ↔
      standing world call.kind call.target =
        original world call.kind call.target := by
  constructor
  · intro inert
    rw [← inert, standing_byDefault byDefault, if_pos ⟨rfl, rfl⟩]
  · intro idle kind target
    rw [standing_byDefault byDefault]
    split_ifs with here
    · obtain ⟨rfl, rfl⟩ := here
      exact idle.symm
    · rfl

omit [PyRuntime] in
theorem leftBy_original_iff {Value : Type} (original contained : Value)
    (acts : List Act) :
    leftBy original original contained acts.getLast? = original ↔
      (EndsExecuted acts → contained = original) := by
  unfold EndsExecuted
  rcases acts.getLast? with _ | _ | _ <;> simp [leftBy, Act.leaving]

/-- The retry is inert unless a method was the last to be applied. -/
theorem inert_retry_iff {contract : Contract} {initial : World Handle}
    {calls before between : List (HistoryCall Handle)}
    {first later : HistoryCall Handle}
    (retried : RetriedIn calls before between first later)
    (sameTarget : later.target = first.target) :
    Inert contract later
        (historyAfter contract (before ++ first :: between) initial) ↔
      (EndsExecuted (appliedTo contract first.kind first.target between
          (historyAfter contract (before ++ [first]) initial)) →
        contained first.kind = original initial first.kind first.target) := by
  have restored : standing (historyAfter contract (before ++ [first]) initial)
      first.kind first.target = original initial first.kind first.target := by
    rw [historyAfter_append, historyAfter_singleton,
      standing_byDefault retried.firstByDefault, if_pos ⟨rfl, rfl⟩,
      original_historyAfter]
  rw [inert_byDefault_iff retried.laterByDefault, retried.sameKind,
    sameTarget, original_historyAfter, List.append_cons,
    historyAfter_append contract (before ++ [first]), standing_historyAfter,
    restored, original_historyAfter]
  exact leftBy_original_iff _ _ _

/--
Since no two calls share an id, the retries of a history are honoured
exactly when there are none.  On the target of the first call a retry is
inert exactly when the last call applied since then was no method, or the
contained value is the original one.
-/
theorem retries_honoured_iff (contract : Contract) (initial : World Handle)
    {calls : List (HistoryCall Handle)}
    (uniqueIds : calls.Pairwise fun one other =>
      one.resultId ≠ other.resultId) :
    (RetriesHonoured contract initial calls ↔ NeverRetried calls) ∧
    ∀ before first between later,
      RetriedIn calls before between first later →
      later.target = first.target →
        (Inert contract later
            (historyAfter contract (before ++ first :: between) initial) ↔
          (EndsExecuted (appliedTo contract first.kind first.target between
              (historyAfter contract (before ++ [first]) initial)) →
            contained first.kind =
              original initial first.kind first.target)) := by
  refine ⟨⟨?_, ?_⟩, ?_⟩
  · intro honoured before first between later retried
    exact not_sameResult uniqueIds retried
      (honoured before first between later retried).1
  · intro never before first between later retried
    exact absurd retried (never before first between later)
  · intro before first between later retried sameTarget
    exact inert_retry_iff retried sameTarget

end Retries

section Example

attribute [local instance] Reference.runtime

open McpGateway.Scenario

/-- The rollback of the incident, with its default arguments. -/
def incidentRollback (uuidHex : PyStr) : HistoryCall Unit :=
  .byDefault .kubernetes { isolateStamps with uuidHex }
    ⟨"run-1", target, "rollback-1", "action-1"⟩

/-- The two rollbacks are one call and its retry. -/
theorem incidentRollback_retried (before between : List (HistoryCall Unit))
    (uuidHex otherHex : PyStr) :
    RetriedIn
      (before ++ incidentRollback uuidHex :: between ++
        [incidentRollback otherHex])
      before between (incidentRollback uuidHex)
      (incidentRollback otherHex) where
  inOrder := List.prefix_rfl
  firstByDefault := rfl
  laterByDefault := rfl
  sameKind := rfl
  sameKey := rfl

/-- Retried at once, a rollback is inert, and still not honoured. -/
theorem retries_honoured_iff_of_two_rollbacks :
    Inert (fun _ => []) (incidentRollback "b")
        (historyAfter (fun _ => []) [incidentRollback "a"]
          untouchedWorld) ∧
      ¬ RetriesHonoured (fun _ => []) untouchedWorld
        [incidentRollback "a", incidentRollback "b"] := by
  have retried := incidentRollback_retried [] [] "a" "b"
  have uniqueIds : [incidentRollback "a", incidentRollback "b"].Pairwise
      fun one other => one.resultId ≠ other.resultId := by
    decide
  obtain ⟨honoured, inert⟩ :=
    retries_honoured_iff (fun _ => []) untouchedWorld uniqueIds
  constructor
  · apply (inert [] _ [] _ retried rfl).mpr
    rintro ⟨dryRun, last⟩
    cases last
  · intro holds
    exact honoured.mp holds [] _ [] _ retried

/-- Two isolations of the target, each followed by the same rollback. -/
def incidentHistory : List (HistoryCall Unit) :=
  [.injected (incidentCall (.execute false) "key-1" "action-1"),
    incidentRollback "a",
    .injected (incidentCall (.execute false) "key-2" "action-2"),
    incidentRollback "b"]

/-- The retry lifts the isolation a newer execute put in place. -/
theorem retried_rollback_lifts_isolation :
    standing (historyAfter (fun _ => []) (incidentHistory.take 3)
        untouchedWorld) .kubernetes target = .isolated true ∧
      standing (historyAfter (fun _ => []) incidentHistory untouchedWorld)
        .kubernetes target = .isolated false ∧
      ¬ RetriesHonoured (fun _ => []) untouchedWorld incidentHistory := by
  have unused : rememberedIn
      (historyAfter (fun _ => []) (incidentHistory.take 2) untouchedWorld)
      ((), "key-2") = none := by
    rw [show incidentHistory.take 2 =
        [.injected (incidentCall (.execute false) "key-1" "action-1")] ++
          [incidentRollback "a"] from rfl,
      historyAfter_append, historyAfter_singleton, historyAfter_singleton,
      rememberedIn_serve_of_ne, rememberedIn_serve_of_ne]
    · rfl
    · rintro own ⟨⟩
      decide
    · rintro own ⟨⟩
  have contains : standing (historyAfter (fun _ => [])
      (incidentHistory.take 3) untouchedWorld) .kubernetes target =
        .isolated true := by
    rw [show incidentHistory.take 3 = incidentHistory.take 2 ++
        [.injected (incidentCall (.execute false) "key-2" "action-2")]
        from rfl,
      historyAfter_append, historyAfter_singleton, standing_serve,
      HistoryCall.appliedAt, if_pos]
    · rfl
    · refine ⟨rfl, rfl, ?_⟩
      rw [HistoryCall.applies, Bool.and_eq_true, Option.isNone_iff_eq_none]
      exact ⟨rfl, unused⟩
  have lifts : standing (historyAfter (fun _ => []) incidentHistory
      untouchedWorld) .kubernetes target = .isolated false := by
    rw [show incidentHistory = incidentHistory.take 3 ++
        [incidentRollback "b"] from rfl,
      historyAfter_append, historyAfter_singleton, standing_byDefault rfl,
      if_pos ⟨rfl, rfl⟩, original_historyAfter]
    rfl
  refine ⟨contains, lifts, ?_⟩
  intro honoured
  have inert := (honoured _ _ _ _ (incidentRollback_retried
    [.injected (incidentCall (.execute false) "key-1" "action-1")]
    [.injected (incidentCall (.execute false) "key-2" "action-2")]
    "a" "b")).2 .kubernetes target
  cases lifts.symm.trans (inert.trans contains)

end Example

end ArgosCyberTools.Rollback
