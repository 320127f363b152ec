import ArgosCyberTools.AntiReplay.SignedIdentity
import ArgosCyberTools.Transition.Lockstep

/-!
# The stores are interchangeable

The memory store looks for a replay before it checks the fields, the durable
one after.  With string ids and a storage that answers, both accept the same
calls nevertheless and hold the same ids after each of them; they differ in
the exception a refused call raises.
-/

namespace ArgosCyberTools.AntiReplay

open Python Sqlite ToolCatalog Policies McpGateway Transition

section Stores

variable [PyRuntime]

/-- A call on an in-memory store. -/
def ConsumeCall.onMemory (call : ConsumeCall) :
    PyM ApprovalStore ApprovalError Unit :=
  ApprovalStore.validateAndConsume call.approval call.currentPlanHash
    call.requesterId call.executorId call.now

/-- A call on a durable store. -/
def ConsumeCall.onDurable (call : ConsumeCall) :
    PyM DurableApprovalStore ApprovalError Unit :=
  DurableApprovalStore.validateAndConsume call.approval call.currentPlanHash
    call.requesterId call.executorId call.now

/-- The approval id, if there is one, is a string. -/
def ConsumeCall.Named (call : ConsumeCall) : Prop :=
  ∀ approvalId, call.approval.get? "approval_id" = some approvalId →
    ∃ text, approvalId = .str text

/-- The ids a memory store holds are those of the rows, none of them NULL. -/
structure SameIds (store : ApprovalStore) (durable : DurableApprovalStore) :
    Prop where
  ready : durable.connection = .ready
  ids : (store.consumed : Set HashKey) =
    HashKey.text '' {id | durable.consumedApprovals.Holds id}
  present : ∀ row ∈ durable.consumedApprovals.rows, row.approvalId ≠ none

/-- The fields of a call are valid under this string id. -/
def ConsumeCall.ValidFor (call : ConsumeCall) (id : PyStr) : Prop :=
  FieldsValid call.approval call.currentPlanHash call.requesterId
    call.executorId call.now (.str id)

variable {call : ConsumeCall} {store : ApprovalStore}
  {durable : DurableApprovalStore}

theorem ConsumeCall.onMemory_eq_ok_iff (named : call.Named)
    {final : ApprovalStore} :
    call.onMemory store = (.ok (), final) ↔
      ∃ id, call.ValidFor id ∧ .text id ∉ store.consumed ∧
        final = ⟨insert (.text id) store.consumed⟩ := by
  rw [onMemory, ApprovalStore.validateAndConsume_eq_ok_iff]
  constructor
  · rintro ⟨approvalId, key, valid, hashed, fresh, rfl⟩
    obtain ⟨id, rfl⟩ := named approvalId valid.identified
    cases hashed
    exact ⟨id, valid, fresh, rfl⟩
  · rintro ⟨id, valid, fresh, rfl⟩
    exact ⟨.str id, .text id, valid, rfl, fresh, rfl⟩

/-- A valid id can be bound: its signature text was encoded. -/
theorem ConsumeCall.ValidFor.bindText {id : PyStr}
    (valid : call.ValidFor id) :
    bindText (.str id) = .ok (some id) := by
  obtain ⟨signatureRef, signed, -⟩ := FieldsValid.signed valid
  have scalar := (computeSignatureRef_eq_ok_iff.mp signed).1
  simp only [signatureText, surrogateFree_append] at scalar
  exact bindText_str scalar.1.1

theorem ConsumeCall.onDurable_eq_ok_iff (named : call.Named)
    (ready : durable.connection = .ready) {final : DurableApprovalStore} :
    call.onDurable durable = (.ok (), final) ↔
      final.connection = .ready ∧
      ∃ id, call.ValidFor id ∧ ¬ durable.consumedApprovals.Holds id ∧
        final.consumedApprovals.rows = durable.consumedApprovals.rows ++
          [DurableApprovalStore.consumedRow call.now call.currentPlanHash
            (some id)] := by
  rw [onDurable, DurableApprovalStore.validateAndConsume_eq_ok_iff]
  simp only [DurableApprovalStore.insertConsumed_eq_ok_iff, ready, true_and]
  constructor
  · rintro ⟨approvalId, valid, finalReady, bound, bindsTo, admitted, rows⟩
    obtain ⟨id, rfl⟩ := named approvalId valid.identified
    have same := bindsTo.symm.trans (ConsumeCall.ValidFor.bindText valid)
    cases same
    exact ⟨finalReady, id, valid, admitted id rfl, rows⟩
  · rintro ⟨finalReady, id, valid, fresh, rows⟩
    refine ⟨.str id, valid, finalReady, some id, valid.bindText, ?_, rows⟩
    rintro key ⟨⟩
    exact fresh

theorem ConsumeCall.onMemory_of_refused
    (refused : (call.onMemory store).1 ≠ .ok ()) :
    (call.onMemory store).2 = store := by
  rcases answered : call.onMemory store with ⟨outcome, final⟩
  cases outcome with
  | ok => exact absurd (by rw [answered]) refused
  | error error => exact ApprovalStore.validateAndConsume_of_error answered

theorem ConsumeCall.onDurable_of_refused
    (refused : (call.onDurable durable).1 ≠ .ok ()) :
    (call.onDurable durable).2 = durable := by
  rcases answered : call.onDurable durable with ⟨outcome, final⟩
  cases outcome with
  | ok => exact absurd (by rw [answered]) refused
  | error error =>
      exact DurableApprovalStore.validateAndConsume_of_error answered

omit [PyRuntime] in
theorem SameIds.holds_iff (same : SameIds store durable) {id : PyStr} :
    HashKey.text id ∈ store.consumed ↔ durable.consumedApprovals.Holds id := by
  rw [← Finset.mem_coe, same.ids]
  simp

omit [PyRuntime] in
/-- Recording one fresh id in both stores keeps them the same. -/
theorem SameIds.record (same : SameIds store durable)
    {final : DurableApprovalStore} {id consumedAt binding : PyStr}
    (finalReady : final.connection = .ready)
    (rows : final.consumedApprovals.rows =
      durable.consumedApprovals.rows ++ [⟨some id, consumedAt, binding⟩]) :
    SameIds ⟨insert (.text id) store.consumed⟩ final where
  ready := finalReady
  ids := by
    ext key
    simp only [Finset.coe_insert, same.ids, Table.holds_iff_of_append rows,
      Set.mem_insert_iff, Set.mem_image, Set.mem_ofPred_eq,
      Option.some.injEq]
    grind
  present := by
    intro row member
    rw [rows, List.mem_append, List.mem_singleton] at member
    rcases member with old | rfl
    · exact same.present row old
    · exact Option.some_ne_none id

/-- One call is accepted by both stores or by neither. -/
theorem SameIds.serve (same : SameIds store durable) (named : call.Named) :
    ((call.onMemory store).1 = .ok () ↔ (call.onDurable durable).1 = .ok ()) ∧
      SameIds (call.onMemory store).2 (call.onDurable durable).2 := by
  by_cases accepted : ∃ id, call.ValidFor id ∧ .text id ∉ store.consumed
  · obtain ⟨id, valid, fresh⟩ := accepted
    have unheld : ¬ durable.consumedApprovals.Holds id :=
      fun held => fresh (same.holds_iff.mpr held)
    have memory := (ConsumeCall.onMemory_eq_ok_iff named).mpr
      ⟨id, valid, fresh, rfl⟩
    have admitted : durable.consumedApprovals.Admits
        (DurableApprovalStore.consumedRow call.now call.currentPlanHash
          (some id)) := by
      rintro key ⟨⟩
      exact unheld
    have stored : call.onDurable durable = (.ok (),
        ⟨.ready, durable.consumedApprovals.append _ admitted⟩) :=
      (ConsumeCall.onDurable_eq_ok_iff named same.ready).mpr
        ⟨rfl, id, valid, unheld, rfl⟩
    rw [memory, stored]
    exact ⟨Iff.rfl, same.record rfl rfl⟩
  · have memory : (call.onMemory store).1 ≠ .ok () := by
      intro answered
      obtain ⟨id, valid, fresh, -⟩ :=
        (ConsumeCall.onMemory_eq_ok_iff named).mp
          (Prod.ext answered rfl : call.onMemory store = (.ok (), _))
      exact accepted ⟨id, valid, fresh⟩
    have stored : (call.onDurable durable).1 ≠ .ok () := by
      intro answered
      obtain ⟨-, id, valid, unheld, -⟩ :=
        (ConsumeCall.onDurable_eq_ok_iff named same.ready).mp
          (Prod.ext answered rfl : call.onDurable durable = (.ok (), _))
      exact accepted ⟨id, valid, fun held =>
        unheld (same.holds_iff.mp held)⟩
    rw [ConsumeCall.onMemory_of_refused memory,
      ConsumeCall.onDurable_of_refused stored]
    exact ⟨iff_of_false memory stored, same⟩

omit [PyRuntime] in
theorem SameIds.fresh :
    SameIds ApprovalStore.fresh ⟨.ready, Table.empty⟩ where
  ready := rfl
  ids := by simp [ApprovalStore.fresh, Table.Holds, Table.empty]
  present := by simp [Table.empty]

theorem SameIds.serveAll (same : SameIds store durable)
    {calls : List ConsumeCall} (named : ∀ call ∈ calls, call.Named) :
    List.Forall₂ (fun memory stored => memory = .ok () ↔ stored = .ok ())
        (serveAll ConsumeCall.onMemory calls store).1
        (serveAll ConsumeCall.onDurable calls durable).1 ∧
      SameIds (serveAll ConsumeCall.onMemory calls store).2
        (serveAll ConsumeCall.onDurable calls durable).2 := by
  obtain ⟨answers, final, -⟩ :=
    serveAll_lockstep ConsumeCall.onMemory ConsumeCall.onDurable
      (fun rest store durable =>
        SameIds store durable ∧ ∀ call ∈ rest, call.Named)
      (fun memory stored => memory = .ok () ↔ stored = .ok ())
      (fun {call rest store durable} related => by
        obtain ⟨now, kept⟩ := related.1.serve (related.2 call (by simp))
        exact ⟨now, kept, fun later member =>
          related.2 later (List.mem_cons_of_mem call member)⟩)
      ⟨same, named⟩
  exact ⟨answers, final⟩

/--
Served the same calls, a fresh memory store and a fresh durable store whose
storage answers accept the same ones, and after every call hold the same ids.
-/
theorem stores_interchangeable {dbPath : PyStr}
    {durable : DurableApprovalStore}
    (opened : DurableApprovalStore.openDatabase dbPath .ready none =
      .ok durable)
    (calls : List ConsumeCall) (named : ∀ call ∈ calls, call.Named) :
    List.Forall₂ (fun memory stored => memory = .ok () ↔ stored = .ok ())
        (serveAll ConsumeCall.onMemory calls ApprovalStore.fresh).1
        (serveAll ConsumeCall.onDurable calls durable).1 ∧
      ∀ before after, calls = before ++ after →
        SameIds
          (serveAll ConsumeCall.onMemory before ApprovalStore.fresh).2
          (serveAll ConsumeCall.onDurable before durable).2 := by
  have same : SameIds ApprovalStore.fresh durable := by
    cases opened
    exact SameIds.fresh
  refine ⟨(same.serveAll named).1, ?_⟩
  rintro before after rfl
  exact (same.serveAll fun call member =>
    named call (List.mem_append_left after member)).2

end Stores

section Example

attribute [local instance] Reference.runtime

/-- On an approval presented twice, the two stores answer alike. -/
theorem stores_interchangeable_on_a_replay :
    ∃ planHash signatureRef call durable,
      computeSignatureRef (.str "apr:1") planHash = .ok signatureRef ∧
      call = (acceptedUnder (.str "apr:1") planHash signatureRef).call ∧
      DurableApprovalStore.openDatabase "approvals.db" .ready none =
        .ok durable ∧
      List.Forall₂ (fun memory stored => memory = .ok () ↔ stored = .ok ())
        (serveAll ConsumeCall.onMemory [call, call] ApprovalStore.fresh).1
        (serveAll ConsumeCall.onDurable [call, call] durable).1 := by
  obtain ⟨planHash, signatureRef, -, signed⟩ :=
    Scenario.exists_signed_plan isolateKubernetesWorkloadTool
      (surrogateFree_ofString "apr:1")
  have opened : DurableApprovalStore.openDatabase "approvals.db" .ready none =
      .ok ⟨.ready, Table.empty⟩ := rfl
  have named : (acceptedUnder (.str "apr:1") planHash signatureRef).call.Named := by
    intro approvalId held
    exact ⟨"apr:1", (Option.some.inj held).symm⟩
  refine ⟨planHash, signatureRef, _, _, signed, rfl, opened,
    (stores_interchangeable opened _ ?_).1⟩
  intro call member
  simp only [List.mem_cons, List.not_mem_nil, or_false, or_self] at member
  subst member
  exact named

end Example

end ArgosCyberTools.AntiReplay
