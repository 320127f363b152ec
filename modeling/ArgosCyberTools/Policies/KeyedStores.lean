import ArgosCyberTools.Policies.DurableStore
import ArgosCyberTools.Python.Observation

/-!
# Stores keyed by approval ids

What a store answers to an approval depends on nothing it holds except
whether the key of that approval's id is among it, and a call leaves every
other key alone.
-/

namespace ArgosCyberTools.Policies

open Python Sqlite PyM

/-- The key an approval is presented under, if its id has one. -/
def presentedUnder {Key : Type} (key : Json → Option Key)
    (approval : JsonObject) : Option Key :=
  (approval.get? "approval_id").bind key

section Stores

variable [PyRuntime]

/-- A store that looks at one key at a time. -/
class KeyedApprovalStore (Store : Type) [ApprovalStoreProtocol Store]
    (Key : outParam Type) where
  /-- What the store identifies an id by, if by anything. -/
  key : Json → Option Key
  View : Type
  /-- What the store knows of these keys. -/
  view : Set Key → Store → View
  dependsOn_view {keys : Set Key} {approval : JsonObject}
    {currentPlanHash requesterId executorId : PyStr} {now : PyDateTime}
    (within : ∀ held, presentedUnder key approval = some held →
      held ∈ keys) :
    DependsOn (view keys)
      (ApprovalStoreProtocol.validateAndConsume approval currentPlanHash
        requesterId executorId now : PyM Store ApprovalError Unit)
  keeps_view {keys : Set Key} {approval : JsonObject}
    {currentPlanHash requesterId executorId : PyStr} {now : PyDateTime}
    (outside : ∀ held, presentedUnder key approval = some held →
      held ∉ keys) :
    Keeps (view keys)
      (ApprovalStoreProtocol.validateAndConsume approval currentPlanHash
        requesterId executorId now : PyM Store ApprovalError Unit)

variable {approval : JsonObject}
  {currentPlanHash requesterId executorId : PyStr} {now : PyDateTime}

/-- The two rejections of an approval that was used before. -/
def Rejection.IsReplay : Rejection → Prop
  | .replay _ => True
  | .durableReplay _ => True
  | _ => False

/-- What was accepted under a key is refused when it is presented again. -/
class RefusesReplays (Store : Type) {Key : Type}
    [ApprovalStoreProtocol Store] [KeyedApprovalStore Store Key] : Prop where
  refuses_again {approval : JsonObject}
    {currentPlanHash requesterId executorId : PyStr} {now : PyDateTime}
    {store final : Store} {held : Key}
    (accepted :
      ApprovalStoreProtocol.validateAndConsume approval currentPlanHash
        requesterId executorId now store = (.ok (), final))
    (presented :
      presentedUnder (KeyedApprovalStore.key Store) approval = some held) :
    ∃ why : Rejection, why.IsReplay ∧
      ApprovalStoreProtocol.validateAndConsume approval currentPlanHash
        requesterId executorId now final = (.error (.rejected why), final)

/-! ## The in-memory store -/

namespace ApprovalStore

def keysAmong (keys : Set HashKey) (store : ApprovalStore) : Set HashKey :=
  {key | key ∈ store.consumed ∧ key ∈ keys}

omit [PyRuntime] in
theorem keysAmong_insert {keys : Set HashKey} {left right : ApprovalStore}
    (alike : keysAmong keys left = keysAmong keys right) (key : HashKey) :
    keysAmong keys ⟨insert key left.consumed⟩ =
      keysAmong keys ⟨insert key right.consumed⟩ := by
  ext asked
  have same := Set.ext_iff.mp alike asked
  simp only [keysAmong, Set.mem_ofPred_eq, Finset.mem_insert] at same ⊢
  grind

/-- The key of an id, if it can be hashed. -/
def keyOf (approvalId : Json) : Option HashKey :=
  approvalId.hashKey.toOption

theorem dependsOn_keysAmong {keys : Set HashKey}
    (within : ∀ held, presentedUnder keyOf approval = some held →
      held ∈ keys) :
    DependsOn (keysAmong keys)
      (validateAndConsume approval currentPlanHash requesterId executorId
        now) := by
  intro left right alike
  simp only [validateAndConsume, bind_apply, ofExcept_apply, get_apply]
  cases named : readKey approval "approval_id" with
  | error error => exact ⟨rfl, alike⟩
  | ok approvalId =>
      simp only
      cases hashed : approvalId.hashKey with
      | error error => exact ⟨rfl, alike⟩
      | ok key =>
          have member : key ∈ keys := by
            apply within
            simp [presentedUnder, keyOf, readKey_eq_ok_iff.mp named, hashed,
              Except.toOption]
          have held : key ∈ left.consumed ↔ key ∈ right.consumed := by
            have same := Set.ext_iff.mp alike key
            simpa [keysAmong, member] using same
          simp only [Except.mapError, held]
          cases raiseIf (decide (key ∈ right.consumed))
              (ApprovalError.rejected (.replay approvalId)) with
          | error error => exact ⟨rfl, alike⟩
          | ok =>
              simp only
              cases validateApprovalFields approval currentPlanHash
                  requesterId executorId now with
              | error error => exact ⟨rfl, alike⟩
              | ok validId =>
                  simp only
                  cases validId.hashKey with
                  | error error => exact ⟨rfl, alike⟩
                  | ok validKey =>
                      exact ⟨rfl, keysAmong_insert alike validKey⟩

theorem keeps_keysAmong {keys : Set HashKey}
    (outside : ∀ held, presentedUnder keyOf approval = some held →
      held ∉ keys) :
    Keeps (keysAmong keys)
      (validateAndConsume approval currentPlanHash requesterId executorId
        now) := by
  intro store
  rcases answered : validateAndConsume approval currentPlanHash requesterId
    executorId now store with ⟨error | _, final⟩
  · rw [validateAndConsume_of_error answered]
  · obtain ⟨approvalId, key, valid, hashed, -, rfl⟩ :=
      validateAndConsume_eq_ok_iff.mp answered
    have stranger : key ∉ keys := by
      apply outside
      simp [presentedUnder, keyOf, valid.identified, hashed,
        Except.toOption]
    ext asked
    simp only [keysAmong, Set.mem_ofPred_eq, Finset.mem_insert]
    grind

instance : KeyedApprovalStore ApprovalStore HashKey where
  key := keyOf
  View := Set HashKey
  view := keysAmong
  dependsOn_view := dependsOn_keysAmong
  keeps_view := keeps_keysAmong

/-- An id the store holds is refused, whatever the other fields say. -/
theorem validateAndConsume_of_held {store : ApprovalStore}
    {approvalId : Json} {key : HashKey}
    (identified : approval.get? "approval_id" = some approvalId)
    (hashed : approvalId.hashKey = .ok key)
    (held : key ∈ store.consumed) :
    validateAndConsume approval currentPlanHash requesterId executorId now
        store = (.error (.rejected (.replay approvalId)), store) := by
  simp [validateAndConsume, bind_apply, readKey_eq_ok_iff.mpr identified,
    hashed, Except.mapError, held, raiseIf]

instance : RefusesReplays ApprovalStore where
  refuses_again := by
    intro approval planHash requesterId executorId now store final _ accepted _
    obtain ⟨approvalId, key, valid, hashed, -, rfl⟩ :=
      validateAndConsume_eq_ok_iff.mp accepted
    exact ⟨.replay approvalId, trivial,
      validateAndConsume_of_held valid.identified hashed
        (Finset.mem_insert_self _ _)⟩

end ApprovalStore

/-! ## The durable store -/

namespace DurableApprovalStore

/-- The connection, and the rows under these keys. -/
def rowsAmong (keys : Set PyStr) (store : DurableApprovalStore) :
    Connection × Set PyStr :=
  (store.connection,
    {key | store.consumedApprovals.Holds key ∧ key ∈ keys})

/-- The primary key of an id, if it can be bound and is not NULL. -/
def keyOf (approvalId : Json) : Option PyStr :=
  (bindText approvalId).toOption.join

theorem keyOf_of_bindText {approvalId : Json} {bound : Option PyStr}
    (bindsTo : bindText approvalId = .ok bound) :
    keyOf approvalId = bound := by
  simp [keyOf, bindsTo, Except.toOption]

omit [PyRuntime] in
/-- A row under one of the keys, or none, is admitted by both or by neither. -/
theorem admits_iff_of_alike {keys : Set PyStr}
    {left right : DurableApprovalStore}
    (alike : rowsAmong keys left = rowsAmong keys right)
    {row : ConsumedApproval}
    (within : ∀ held, row.approvalId = some held → held ∈ keys) :
    left.consumedApprovals.Admits row ↔ right.consumedApprovals.Admits row := by
  have holds := Set.ext_iff.mp (Prod.mk.inj alike).2
  refine forall₂_congr fun wanted isKey => not_congr ?_
  simpa [within wanted isKey] using holds wanted

omit [PyRuntime] in
theorem rowsAmong_append {keys : Set PyStr}
    {left right : DurableApprovalStore}
    (alike : rowsAmong keys left = rowsAmong keys right)
    {row : ConsumedApproval} (leftAdmits : left.consumedApprovals.Admits row)
    (rightAdmits : right.consumedApprovals.Admits row) :
    rowsAmong keys
        { left with
          consumedApprovals := left.consumedApprovals.append row leftAdmits } =
      rowsAmong keys
        { right with
          consumedApprovals :=
            right.consumedApprovals.append row rightAdmits } := by
  obtain ⟨connections, rows⟩ := Prod.mk.inj alike
  refine Prod.ext connections (Set.ext fun asked => ?_)
  have same := Set.ext_iff.mp rows asked
  simp only [rowsAmong, Set.mem_ofPred_eq,
    Table.holds_iff_of_append
      (rfl : (left.consumedApprovals.append row leftAdmits).rows = _),
    Table.holds_iff_of_append
      (rfl : (right.consumedApprovals.append row rightAdmits).rows = _)]
    at same ⊢
  grind

theorem dependsOn_insertConsumed {keys : Set PyStr} {approvalId : Json}
    (within : ∀ held, keyOf approvalId = some held → held ∈ keys) :
    DependsOn (rowsAmong keys)
      (insertConsumed approvalId currentPlanHash now) := by
  intro left right alike
  have connections := (Prod.mk.inj alike).1
  simp only [insertConsumed, bind_apply, get_apply, ofExcept_apply,
    connections, execute]
  cases connected : right.connection with
  | unavailable detail => exact ⟨rfl, alike⟩
  | failing detail =>
      cases bindText approvalId <;> exact ⟨rfl, alike⟩
  | ready =>
      cases bindsTo : bindText approvalId with
      | error failure => exact ⟨rfl, alike⟩
      | ok bound =>
          have presented : ∀ held,
              (consumedRow now currentPlanHash bound).approvalId =
                some held → held ∈ keys :=
            fun held isKey => within held
              ((keyOf_of_bindText bindsTo).trans isKey)
          have admits := admits_iff_of_alike alike presented
          by_cases admitted : right.consumedApprovals.Admits
              (consumedRow now currentPlanHash bound)
          · have leftAdmits := admits.mpr admitted
            have appended := rowsAmong_append alike leftAdmits admitted
            simpa [bind, Except.bind, Table.insert, leftAdmits, admitted,
              Except.mapError, connections, connected] using appended
          · have leftRefuses : ¬ left.consumedApprovals.Admits
                (consumedRow now currentPlanHash bound) :=
              fun leftAdmits => admitted (admits.mp leftAdmits)
            simpa [bind, Except.bind, Table.insert, leftRefuses, admitted,
              Except.mapError] using alike

theorem dependsOn_rowsAmong {keys : Set PyStr}
    (within : ∀ held, presentedUnder keyOf approval = some held →
      held ∈ keys) :
    DependsOn (rowsAmong keys)
      (validateAndConsume approval currentPlanHash requesterId executorId
        now) := by
  unfold validateAndConsume
  cases checked : validateApprovalFields approval currentPlanHash requesterId
      executorId now with
  | error error => exact dependsOn_ofExcept _
  | ok approvalId =>
      have valid := validateApprovalFields_eq_ok_iff.mp checked
      have inserted : DependsOn (rowsAmong keys)
          (insertConsumed approvalId currentPlanHash now) := by
        apply dependsOn_insertConsumed
        intro held isKey
        apply within
        simpa [presentedUnder, valid.identified] using isKey
      exact inserted

theorem keeps_rowsAmong {keys : Set PyStr}
    (outside : ∀ held, presentedUnder keyOf approval = some held →
      held ∉ keys) :
    Keeps (rowsAmong keys)
      (validateAndConsume approval currentPlanHash requesterId executorId
        now) := by
  intro store
  rcases answered : validateAndConsume approval currentPlanHash requesterId
    executorId now store with ⟨error | _, final⟩
  · rw [validateAndConsume_of_error answered]
  · obtain ⟨approvalId, valid, inserted⟩ :=
      validateAndConsume_eq_ok_iff.mp answered
    obtain ⟨ready, finalReady, bound, bindsTo, -, rows⟩ :=
      insertConsumed_eq_ok_iff.mp inserted
    have stranger : ∀ held, bound = some held → held ∉ keys := by
      rintro held rfl
      apply outside
      simp [presentedUnder, keyOf, valid.identified, bindsTo,
        Except.toOption]
    have holds (key : PyStr) : final.consumedApprovals.Holds key ↔
        store.consumedApprovals.Holds key ∨ bound = some key :=
      Table.holds_iff_of_append rows
    simp only [rowsAmong, ready, finalReady, Prod.mk.injEq, true_and, holds]
    ext asked
    simp only [Set.mem_ofPred_eq]
    grind

instance : KeyedApprovalStore DurableApprovalStore PyStr where
  key := keyOf
  View := Connection × Set PyStr
  view := rowsAmong
  dependsOn_view := dependsOn_rowsAmong
  keeps_view := keeps_rowsAmong

instance : RefusesReplays DurableApprovalStore where
  refuses_again := by
    intro approval planHash requesterId executorId now store final held
      accepted presented
    obtain ⟨approvalId, valid, inserted⟩ :=
      validateAndConsume_eq_ok_iff.mp accepted
    obtain ⟨-, ready, bound, bindsTo, -, rows⟩ :=
      insertConsumed_eq_ok_iff.mp inserted
    have underKey : presentedUnder keyOf approval = some held := presented
    have keyed : keyOf approvalId = some held := by
      simpa [presentedUnder, valid.identified] using underKey
    rw [keyOf_of_bindText bindsTo] at keyed
    subst keyed
    have used : final.consumedApprovals.Holds held :=
      (Table.holds_iff_of_append rows).mpr (.inr rfl)
    have checked := validateApprovalFields_eq_ok_iff.mpr valid
    refine ⟨.durableReplay approvalId, trivial, ?_⟩
    change validateAndConsume _ _ _ _ _ _ = _
    simp [validateAndConsume, bind_apply, checked,
      insertConsumed_of_holds ready bindsTo used]

end DurableApprovalStore

end Stores

end ArgosCyberTools.Policies
