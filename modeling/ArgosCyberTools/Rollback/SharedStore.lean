import ArgosCyberTools.Rollback.FailedActions
import ArgosCyberTools.Rollback.Operations

/-!
# Results answered from a shared store

A store is looked up by the idempotency key alone.  A call is therefore
answered with the record of the first accepted call under its key, whatever
that call was; it is a record of the same request when the calls that share
a key ask for the same.
-/

namespace ArgosCyberTools.Rollback

open Python Executors Transition

section Calls

variable {Handle : Type}

/-- The same operation in the same mode, on one target, for one action. -/
structure SameRequest (first second : OperationCall Handle) : Prop where
  kind : first.executor.kind = second.executor.kind
  act : first.act = second.act
  target : first.arguments.target = second.arguments.target
  actionId : first.arguments.actionId = second.arguments.actionId

variable [PyRuntime] [DecidableEq Handle] {contract : Contract}
  {initial final : World Handle} {events : List (OperationEvent Handle)}

/-- A call of the run that meets the condition produced the record. -/
def ProducedBy (contract : Contract) (initial : World Handle)
    (events : List (OperationEvent Handle))
    (meets : OperationCall Handle → Prop) (record : JsonObject) : Prop :=
  ∃ before producer after here there,
    events = before ++ producer :: after ∧
      Run (OperationStep contract) initial before here ∧
      OperationStep contract here producer there ∧
      producer.outcome = .ok record ∧
      producer.call.Produces contract here record ∧ meets producer.call

/-- A result comes from the first accepted call under its key. -/
theorem producedBy_sameKey
    (run : Run (OperationStep contract) initial events final)
    (unused : ∀ handle, initial.stores handle = .fresh)
    {front back : List (OperationEvent Handle)}
    {event : OperationEvent Handle} {record : JsonObject}
    (parts : events = front ++ event :: back)
    (returned : event.outcome = .ok record) :
    ProducedBy contract initial (front ++ [event])
      (fun producer => producer.storeKey = event.call.storeKey) record := by
  subst parts
  obtain ⟨here, there, reached, step, -⟩ := run.split
  have forgotten : ∀ key, (worldMemory Handle contract).lookup initial key =
      none := by
    intro key
    change (initial.stores key.1).get key.2 = none
    rw [unused]
    rfl
  have answers : (worldMemory Handle contract).answer event =
      some record := by
    change event.outcome.toOption = some record
    rw [returned]
    rfl
  obtain ⟨before, producer, after, source, target, parts, earlier, produced,
    sameKey, answered, produces⟩ :=
    Remembering.provenance forgotten reached step answers
  refine ⟨before, producer, after, source, target, parts, earlier, produced,
    ?_, produces, sameKey⟩
  exact toOption_eq_some_iff.mp answered

/--
Over a run from unused stores, a returned result was produced by this call or
an earlier one under the same key; and by one that asks for the same, if the
calls that share a key do.
-/
theorem result_answers_its_key
    (run : Run (OperationStep contract) initial events final)
    (unused : ∀ handle, initial.stores handle = .fresh) :
    (∀ front event back record, events = front ++ event :: back →
      event.outcome = .ok record →
        ProducedBy contract initial (front ++ [event])
          (fun producer => producer.storeKey = event.call.storeKey)
          record) ∧
    ((∀ first ∈ events, ∀ second ∈ events,
        first.call.storeKey = second.call.storeKey →
          SameRequest first.call second.call) →
      ∀ front event back record, events = front ++ event :: back →
        event.outcome = .ok record →
          ProducedBy contract initial (front ++ [event])
            (SameRequest · event.call) record) := by
  constructor
  · intro front event back record parts returned
    exact producedBy_sameKey run unused parts returned
  · intro agree front event back record parts returned
    obtain ⟨before, producer, after, here, there, split, earlier, step,
      outcome, produces, sameKey⟩ :=
      producedBy_sameKey run unused parts returned
    refine ⟨before, producer, after, here, there, split, earlier, step,
      outcome, produces, ?_⟩
    have whole : events = before ++ producer :: after ++ back := by
      rw [← split, parts, List.append_assoc]
      rfl
    exact agree producer (by simp [whole]) event (by simp [parts]) sameKey

end Calls

section Example

attribute [local instance] Reference.runtime

open McpGateway.Scenario

/-- One real call under the key of `isolateArguments`. -/
def callUnderKey (act : Act) : OperationCall Unit where
  executor := ⟨.kubernetes, ()⟩
  act := act
  stamps := isolateStamps
  arguments := isolateArguments

/-- A real isolation, and another call under the same key. -/
theorem exists_sharedKey (act : Act) :
    ∃ record isolated,
      OperationStep (fun _ => []) untouchedWorld
          ⟨callUnderKey (.execute false), .ok record⟩ isolated ∧
        OperationStep (fun _ => []) isolated
          ⟨callUnderKey act, .ok record⟩ isolated ∧
        rememberedIn isolated (callUnderKey act).storeKey = some record ∧
        isolated.cluster.isIsolated target = true := by
  obtain ⟨record, isolated, first, held, -, applied⟩ :=
    @exists_operationStep_of_new _ _ _ (fun _ => [])
      (callUnderKey (.execute false)) untouchedWorld rfl fun _ => rfl
  have cluster : isolated.cluster =
      (FakeClusterState.applyIsolation ⟨PyDict.empty⟩ target).2 := applied
  refine ⟨record, isolated, first, operationStep_of_remembered held, held, ?_⟩
  rw [cluster]
  simp [FakeClusterState.applyIsolation, FakeClusterState.isIsolated,
    PyDict.contains]

/-- A retry is answered with the record of the call it repeats. -/
theorem result_answers_its_key_on_a_retry :
    ∃ (call : OperationCall Unit) (record : JsonObject) (final : World Unit),
      Run (OperationStep fun _ => []) untouchedWorld
          [⟨call, .ok record⟩, ⟨call, .ok record⟩] final ∧
        ProducedBy (fun _ => []) untouchedWorld
          [⟨call, .ok record⟩, ⟨call, .ok record⟩]
          (SameRequest · call) record := by
  obtain ⟨record, isolated, first, second, -⟩ :=
    exists_sharedKey (.execute false)
  have run := Run.next first (.next second (.done isolated))
  refine ⟨_, record, isolated, run, ?_⟩
  refine (result_answers_its_key run fun _ => rfl).2 ?_
    [⟨callUnderKey (.execute false), .ok record⟩]
    ⟨callUnderKey (.execute false), .ok record⟩ [] record rfl rfl
  intro earlier isEarlier later isLater _
  simp only [List.mem_cons, List.not_mem_nil, or_false, or_self]
    at isEarlier isLater
  rw [isEarlier, isLater]
  exact ⟨rfl, rfl, rfl, rfl⟩

/--
A rollback that uses the key of the isolation is answered with the record of
the isolation, and the workload stays isolated.
-/
theorem rollback_answered_by_isolation :
    ∃ (isolate rollback : OperationEvent Unit) (record : JsonObject)
      (final : World Unit),
      Run (OperationStep fun _ => []) untouchedWorld [isolate, rollback]
          final ∧
        rollback.call.act = .rollback ∧ rollback.outcome = .ok record ∧
        ¬ ProducedBy (fun _ => []) untouchedWorld [isolate, rollback]
          (SameRequest · rollback.call) record ∧
        final.cluster.isIsolated target = true := by
  obtain ⟨record, isolated, first, second, held, stands⟩ :=
    exists_sharedKey .rollback
  refine ⟨_, _, record, isolated,
    .next first (.next second (.done isolated)), rfl, rfl, ?_, stands⟩
  rintro ⟨before, producer, after, here, there, parts, reached, step, -,
    produces, same⟩
  rcases before with _ | ⟨opening, _ | ⟨next, rest⟩⟩
  · -- The producer is the isolation, which is no rollback.
    cases parts
    cases same.act
  · -- The producer is the rollback, which found its key remembered.
    cases parts
    cases reached with
    | next head tail =>
        cases tail
        have same := first.symm.trans head
        cases (Prod.mk.inj same).2
        cases held.symm.trans produces.1
  · simp at parts

end Example

end ArgosCyberTools.Rollback
