import ArgosCyberTools.AntiReplay.Credentials
import ArgosCyberTools.McpGateway.Scenario
import ArgosCyberTools.Policies.DurableStore

/-!
# The signed and the consumed identity

A signature reference names an approval by the rendering of its id, the
memory store identifies it by hash and equality, the durable store by what a
TEXT column keeps; no type is checked on the way.  The two notions coincide
on strings.  `True` and `"True"` are signed alike and consumed apart in both
stores, and a `null` is consumed any number of times in the durable one.
-/

namespace ArgosCyberTools.AntiReplay

open Python Sqlite ToolCatalog Policies McpGateway Transition

section Stores

variable [PyRuntime]

/-- One call on one in-memory store. -/
def MemoryStep (store : ApprovalStore) (event : ConsumeEvent)
    (final : ApprovalStore) : Prop :=
  ApprovalStore.validateAndConsume event.call.approval
    event.call.currentPlanHash event.call.requesterId event.call.executorId
    event.call.now store = (event.outcome, final)

/-- One call on the table of one file, over any connection to it. -/
def DurableStep (table : ConsumedApprovals) (event : ConsumeEvent)
    (final : ConsumedApprovals) : Prop :=
  ∃ before after,
    DurableApprovalStore.validateAndConsume event.call.approval
      event.call.currentPlanHash event.call.requesterId event.call.executorId
      event.call.now ⟨before, table⟩ = (event.outcome, ⟨after, final⟩)

/-! ## How the stores identify an approval -/

/-- The element the in-memory set holds for an id. -/
def memoryKey (approvalId : Json) : Option HashKey :=
  approvalId.hashKey.toOption

/-- The primary key of the row for an id, unless it is NULL. -/
def durableKey (approvalId : Json) : Option PyStr :=
  (bindText approvalId).toOption.join

omit [PyRuntime] in
theorem memoryKey_of_hashKey {approvalId : Json} {key : HashKey}
    (hashed : approvalId.hashKey = .ok key) :
    memoryKey approvalId = some key := by
  simp [memoryKey, hashed, Except.toOption]

theorem durableKey_of_bindText {approvalId : Json} {bound : Option PyStr}
    (bindsTo : bindText approvalId = .ok bound) :
    durableKey approvalId = bound := by
  simp [durableKey, bindsTo, Except.toOption]

/-- The id can be hashed, and its signature text encoded. -/
def MemoryPresentable (credential : Credential) : Prop :=
  (∃ key, credential.approvalId.hashKey = .ok key) ∧
    SurrogateFree credential.text

/-- The id can be bound, and its signature text encoded. -/
def DurablePresentable (credential : Credential) : Prop :=
  (∃ bound, bindText credential.approvalId = .ok bound) ∧
    SurrogateFree credential.text

/-- Presentable credentials of one signature text share a stored key. -/
def OneIdentity {Key : Type} (Presentable : Credential → Prop)
    (key : Json → Option Key) (credentials : Set Credential) : Prop :=
  ∀ credential ∈ credentials, ∀ other ∈ credentials,
    Presentable credential → Presentable other →
    credential.text = other.text →
      ∃ held, key credential.approvalId = some held ∧
        key other.approvalId = some held

/-! ## What one call does -/

section Memory

variable {store final : ApprovalStore} {event : ConsumeEvent}

theorem MemoryStep.of_accepted (step : MemoryStep store event final)
    (accepted : event.Accepted) :
    ∃ approvalId key, event.Valid approvalId ∧
      approvalId.hashKey = .ok key ∧ key ∉ store.consumed ∧
      final = ⟨insert key store.consumed⟩ := by
  rw [MemoryStep, accepted] at step
  exact ApprovalStore.validateAndConsume_eq_ok_iff.mp step

theorem MemoryStep.of_not_accepted (step : MemoryStep store event final)
    (refused : ¬ event.Accepted) : final = store := by
  cases ended : event.outcome with
  | ok => exact absurd ended refused
  | error error =>
      rw [MemoryStep, ended] at step
      exact ApprovalStore.validateAndConsume_of_error step

/-- A valid call under an id the set does not hold is accepted. -/
theorem MemoryStep.accepts {approvalId : Json} {key : HashKey}
    {call : ConsumeCall} (valid : (ConsumeEvent.mk call (.ok ())).Valid approvalId)
    (hashed : approvalId.hashKey = .ok key) (fresh : key ∉ store.consumed) :
    MemoryStep store ⟨call, .ok ()⟩ ⟨insert key store.consumed⟩ :=
  ApprovalStore.validateAndConsume_eq_ok_iff.mpr
    ⟨approvalId, key, valid, hashed, fresh, rfl⟩

end Memory

section Durable

variable {table final : ConsumedApprovals} {event : ConsumeEvent}

/-- The row an accepted call adds under a bound id. -/
def ConsumeEvent.row (event : ConsumeEvent) (bound : Option PyStr) :
    ConsumedApproval :=
  DurableApprovalStore.consumedRow event.call.now event.call.currentPlanHash
    bound

theorem DurableStep.of_accepted (step : DurableStep table event final)
    (accepted : event.Accepted) :
    ∃ approvalId bound, event.Valid approvalId ∧
      bindText approvalId = .ok bound ∧
      table.Admits (event.row bound) ∧
      final.rows = table.rows ++ [event.row bound] := by
  obtain ⟨before, after, called⟩ := step
  rw [accepted] at called
  obtain ⟨approvalId, valid, inserted⟩ :=
    DurableApprovalStore.validateAndConsume_eq_ok_iff.mp called
  obtain ⟨-, -, bound, bindsTo, admitted, rows⟩ :=
    DurableApprovalStore.insertConsumed_eq_ok_iff.mp inserted
  exact ⟨approvalId, bound, valid, bindsTo, admitted, rows⟩

theorem DurableStep.of_not_accepted (step : DurableStep table event final)
    (refused : ¬ event.Accepted) : final = table := by
  obtain ⟨before, after, called⟩ := step
  cases ended : event.outcome with
  | ok => exact absurd ended refused
  | error error =>
      rw [ended] at called
      have same := DurableApprovalStore.validateAndConsume_of_error called
      exact congrArg DurableApprovalStore.consumedApprovals same

/-- A valid call under a key the table admits is accepted. -/
theorem DurableStep.accepts {approvalId : Json} {bound : Option PyStr}
    {call : ConsumeCall} (valid : (ConsumeEvent.mk call (.ok ())).Valid approvalId)
    (bindsTo : bindText approvalId = .ok bound)
    (admitted : table.Admits ((ConsumeEvent.mk call (.ok ())).row bound)) :
    DurableStep table ⟨call, .ok ()⟩ (table.append _ admitted) :=
  ⟨.ready, .ready,
    DurableApprovalStore.validateAndConsume_eq_ok_iff.mpr
      ⟨approvalId, valid, DurableApprovalStore.insertConsumed_eq_ok_iff.mpr
        ⟨rfl, rfl, bound, bindsTo, admitted, rfl⟩⟩⟩

end Durable

/-! ## Both stores are consumers -/

/-- The in-memory store spends hash keys. -/
def memoryConsumer (readable : ReadsTimestamps) :
    CheckedConsumer ApprovalStore HashKey where
  step := MemoryStep
  presented := ConsumeEvent.presented
  Accepted := ConsumeEvent.Accepted
  token credential := memoryKey credential.approvalId
  ledger store := store.consumed
  Presentable := MemoryPresentable
  unused := ApprovalStore.fresh
  unused_ledger := by simp [ApprovalStore.fresh]
  spares step refused := by
    rw [step.of_not_accepted refused]
    exact .idle _
  spends step accepted := by
    obtain ⟨approvalId, key, valid, hashed, fresh, rfl⟩ :=
      step.of_accepted accepted
    refine ⟨_, valid.presents, ⟨⟨key, hashed⟩, valid.text_scalar⟩, ?_⟩
    rw [memoryKey_of_hashKey hashed, Finset.coe_insert]
    exact .spend fresh
  serves := by
    rintro store credential ⟨⟨key, hashed⟩, scalar⟩ fresh
    obtain ⟨call, signed⟩ := exists_valid_call readable scalar
    obtain ⟨valid, presents⟩ := signed (.ok ())
    have unspent : key ∉ store.consumed :=
      fresh key (memoryKey_of_hashKey hashed)
    exact ⟨_, _, presents, rfl, MemoryStep.accepts valid hashed unspent⟩
  presented_eq := rfl
  accepted_eq := rfl
  checked step accepted := by
    obtain ⟨approvalId, -, valid, -⟩ := step.of_accepted accepted
    exact ⟨approvalId, valid⟩

/-- The durable store spends the keys of its rows. -/
def durableConsumer (readable : ReadsTimestamps) :
    CheckedConsumer ConsumedApprovals PyStr where
  step := DurableStep
  presented := ConsumeEvent.presented
  Accepted := ConsumeEvent.Accepted
  token credential := durableKey credential.approvalId
  ledger table := {key | table.Holds key}
  Presentable := DurablePresentable
  unused := Table.empty
  unused_ledger := by
    ext key
    simp [Table.Holds, Table.empty]
  spares step refused := by
    rw [step.of_not_accepted refused]
    exact .idle _
  spends {table final event} step accepted := by
    obtain ⟨approvalId, bound, valid, bindsTo, admitted, rows⟩ :=
      step.of_accepted accepted
    refine ⟨_, valid.presents, ⟨⟨bound, bindsTo⟩, valid.text_scalar⟩, ?_⟩
    have holds : ∀ key, final.Holds key ↔ table.Holds key ∨ bound = some key :=
      fun key => Table.holds_iff_of_append rows
    simp only [durableKey_of_bindText bindsTo, holds]
    cases bound with
    | none =>
        simp only [reduceCtorEq, or_false]
        exact .idle _
    | some key =>
        have inserted : {other | table.Holds other ∨ some key = some other} =
            insert key {other | table.Holds other} := by
          ext other
          simp [or_comm, eq_comm]
        rw [inserted]
        exact .spend (admitted key rfl)
  serves := by
    rintro table credential ⟨⟨bound, bindsTo⟩, scalar⟩ fresh
    obtain ⟨call, signed⟩ := exists_valid_call readable scalar
    obtain ⟨valid, presents⟩ := signed (.ok ())
    have admitted :
        table.Admits ((ConsumeEvent.mk call (.ok ())).row bound) := by
      rintro key rfl
      exact fresh key (durableKey_of_bindText bindsTo)
    exact ⟨_, _, presents, rfl, DurableStep.accepts valid bindsTo admitted⟩
  presented_eq := rfl
  accepted_eq := rfl
  checked step accepted := by
    obtain ⟨approvalId, -, valid, -⟩ := step.of_accepted accepted
    exact ⟨approvalId, valid⟩

/-! ## Scalars under plan hashes -/

/-- `null`, a boolean or an integer. -/
inductive Literal : Json → Prop where
  | null : Literal .null
  | bool (value : Bool) : Literal (.bool value)
  | int (value : Int) : Literal (.int value)

/-- A boolean. -/
def Truth (value : Json) : Prop := ∃ truth, value = .bool truth

/-- No such id is presented beside the string that spells it. -/
def Unspelled (Spoken : Json → Prop) (credentials : Set Credential) : Prop :=
  ∀ approvalId planHash, Spoken approvalId →
    ⟨approvalId, planHash⟩ ∈ credentials →
      ⟨.str approvalId.toStr, planHash⟩ ∉ credentials

def WithoutNull (credentials : Set Credential) : Prop :=
  ∀ planHash, ⟨.null, planHash⟩ ∉ credentials

/-- Scalar ids, each presented under the hash of some plan. -/
structure ScalarsUnderPlans (credentials : Set Credential) : Prop where
  scalar : ∀ credential ∈ credentials,
    (∃ text, credential.approvalId = .str text) ∨
      Literal credential.approvalId
  planned : ∀ credential ∈ credentials, ∃ tool target action params,
    computePlanHash tool target action params = .ok credential.planHash

theorem Literal.surrogateFree_toStr {value : Json} (literal : Literal value) :
    SurrogateFree value.toStr := by
  cases literal with
  | null => exact surrogateFree_ofString "None"
  | bool value => cases value <;> exact surrogateFree_ofString _
  | int value => exact surrogateFree_ofInt value

/-- A numeral is none of the words `None`, `True` and `False`. -/
theorem toStr_int_ne {number : Int} {value : Json}
    (word : value = .null ∨ Truth value) :
    (Json.int number).toStr ≠ value.toStr := by
  rcases word with rfl | ⟨truth, rfl⟩
  · exact PyStr.ofInt_ne_word List.mem_cons_self (by decide)
  · cases truth <;>
      exact PyStr.ofInt_ne_word List.mem_cons_self (by decide)

/-- Different literals are written differently. -/
theorem Literal.toStr_injOn :
    Set.InjOn Json.toStr {value | Literal value} := by
  rintro left leftLiteral right rightLiteral equal
  cases leftLiteral with
  | null =>
      cases rightLiteral with
      | null => rfl
      | bool truth =>
          cases truth <;>
            exact absurd (PyStr.ofString_injective equal) (by decide)
      | int number => exact absurd equal.symm (toStr_int_ne (.inl rfl))
  | bool truth =>
      cases rightLiteral with
      | null =>
          cases truth <;>
            exact absurd (PyStr.ofString_injective equal) (by decide)
      | bool other =>
          cases truth <;> cases other <;>
            first
              | rfl
              | exact absurd (PyStr.ofString_injective equal) (by decide)
      | int number => exact absurd equal.symm (toStr_int_ne (.inr ⟨_, rfl⟩))
  | int number =>
      cases rightLiteral with
      | null => exact absurd equal (toStr_int_ne (.inl rfl))
      | bool truth => exact absurd equal (toStr_int_ne (.inr ⟨_, rfl⟩))
      | int other => exact congrArg Json.int (PyStr.ofInt_injective equal)

omit [PyRuntime] in
theorem Literal.exists_hashKey {value : Json} (literal : Literal value) :
    ∃ key, value.hashKey = .ok key := by
  cases literal <;> exact ⟨_, rfl⟩

/-- No literal is hashed as the string that spells it. -/
theorem Literal.memoryKey_ne {value : Json} (literal : Literal value) :
    memoryKey value ≠ memoryKey (.str value.toStr) := by
  cases literal <;> simp [memoryKey, Json.hashKey, Except.toOption]

/-- What can be bound and is not `null` has a key. -/
theorem exists_durableKey {value : Json} {bound : Option PyStr}
    (bindsTo : bindText value = .ok bound) (present : value ≠ .null) :
    ∃ key, durableKey value = some key := by
  cases bound with
  | none => exact absurd (bindText_eq_null_iff.mp bindsTo) present
  | some key => exact ⟨key, durableKey_of_bindText bindsTo⟩

/-- Among the literals, a numeral has the key of the string that spells it. -/
theorem Literal.durableKey_eq {value : Json} {bound : Option PyStr}
    (literal : Literal value) (bindsTo : bindText value = .ok bound)
    (present : value ≠ .null) (untrue : ¬ Truth value) :
    durableKey value = some value.toStr ∧
      durableKey (.str value.toStr) = some value.toStr := by
  cases literal with
  | null => exact absurd rfl present
  | bool truth => exact absurd ⟨truth, rfl⟩ untrue
  | int number =>
      rw [Json.toStr_int, durableKey_of_bindText bindsTo,
        bindText_int bindsTo]
      exact ⟨rfl, durableKey_of_bindText
        (bindText_str (surrogateFree_ofInt number))⟩

/-- A boolean is stored as a digit, its spelling as a word. -/
theorem Truth.durableKey_ne {value : Json} (truth : Truth value) :
    durableKey value ≠ durableKey (.str value.toStr) := by
  obtain ⟨truth, rfl⟩ := truth
  have digit : durableKey (.bool truth) =
      some (PyStr.ofString (if truth then "1" else "0")) :=
    durableKey_of_bindText (by cases truth <;> rfl)
  have word : durableKey (.str (Json.bool truth).toStr) =
      some (PyStr.ofString (if truth then "True" else "False")) :=
    durableKey_of_bindText
      (by cases truth <;> exact bindText_str (surrogateFree_ofString _))
  rw [digit, word]
  cases truth <;> decide

namespace ScalarsUnderPlans

variable {credentials : Set Credential}
  (scalars : ScalarsUnderPlans credentials)
include scalars

/-- The signature text of a literal and of its spelling can be encoded. -/
theorem surrogateFree_text {approvalId : Json} {planHash : PyStr}
    (literal : Literal approvalId)
    (drawn : ⟨approvalId, planHash⟩ ∈ credentials) :
    SurrogateFree (Credential.text ⟨approvalId, planHash⟩) := by
  obtain ⟨_, _, _, _, computed⟩ := scalars.planned _ drawn
  have hashScalar := surrogateFree_of_computePlanHash computed
  simp only [Credential.text, signatureText, surrogateFree_append]
  exact ⟨⟨literal.surrogateFree_toStr, surrogateFree_ofString ":"⟩,
    hashScalar⟩

/-- Signed alike, two ids are equal, or one spells the other. -/
theorem eq_or_spelled {credential other : Credential}
    (drawn : credential ∈ credentials) (otherDrawn : other ∈ credentials)
    (texts : credential.text = other.text) :
    credential.approvalId = other.approvalId ∨
      (Literal credential.approvalId ∧
        other = ⟨.str credential.approvalId.toStr, credential.planHash⟩) ∨
      (Literal other.approvalId ∧
        credential = ⟨.str other.approvalId.toStr, other.planHash⟩) := by
  obtain ⟨_, _, _, _, computed⟩ := scalars.planned _ drawn
  obtain ⟨_, _, _, _, otherComputed⟩ := scalars.planned _ otherDrawn
  obtain ⟨renderings, planHashes⟩ := signatureText_inj
    ((computePlanHash_length computed).trans
      (computePlanHash_length otherComputed).symm) texts
  have kinds := scalars.scalar credential drawn
  have otherKinds := scalars.scalar other otherDrawn
  obtain ⟨approvalId, planHash⟩ := credential
  obtain ⟨otherId, otherPlanHash⟩ := other
  simp only at renderings planHashes kinds otherKinds
  subst planHashes
  rcases kinds with ⟨text, rfl⟩ | literal
  · rcases otherKinds with ⟨otherText, rfl⟩ | otherLiteral
    · exact .inl (congrArg Json.str renderings)
    · exact .inr (.inr ⟨otherLiteral, by rw [← renderings]; rfl⟩)
  · rcases otherKinds with ⟨otherText, rfl⟩ | otherLiteral
    · exact .inr (.inl ⟨literal, by rw [renderings]; rfl⟩)
    · exact .inl (Literal.toStr_injOn literal otherLiteral renderings)

theorem oneIdentity_memory_iff :
    OneIdentity MemoryPresentable memoryKey credentials ↔
      Unspelled Literal credentials := by
  constructor
  · intro one approvalId planHash literal drawn spelled
    have scalar := scalars.surrogateFree_text literal drawn
    obtain ⟨held, key, spelledKey⟩ := one _ drawn _ spelled
      ⟨literal.exists_hashKey, scalar⟩ ⟨⟨_, rfl⟩, scalar⟩ rfl
    exact literal.memoryKey_ne (key.trans spelledKey.symm)
  · rintro unspelled credential drawn other otherDrawn ⟨⟨key, hashed⟩, -⟩ -
      texts
    rcases scalars.eq_or_spelled drawn otherDrawn texts with
      same | ⟨literal, rfl⟩ | ⟨literal, rfl⟩
    · have isKey := memoryKey_of_hashKey hashed
      exact ⟨key, isKey, same ▸ isKey⟩
    · exact (unspelled _ _ literal drawn otherDrawn).elim
    · exact (unspelled _ _ literal otherDrawn drawn).elim

theorem oneIdentity_durable_iff :
    OneIdentity DurablePresentable durableKey credentials ↔
      WithoutNull credentials ∧ Unspelled Truth credentials := by
  constructor
  · intro one
    refine ⟨fun planHash drawn => ?_, ?_⟩
    · have scalar := scalars.surrogateFree_text .null drawn
      obtain ⟨held, key, -⟩ := one _ drawn _ drawn ⟨⟨_, rfl⟩, scalar⟩
        ⟨⟨_, rfl⟩, scalar⟩ rfl
      cases key
    · rintro approvalId planHash ⟨truth, rfl⟩ drawn spelled
      have scalar := scalars.surrogateFree_text (.bool truth) drawn
      have spelling : SurrogateFree (Json.bool truth).toStr :=
        (Literal.bool truth).surrogateFree_toStr
      obtain ⟨held, key, spelledKey⟩ := one _ drawn _ spelled
        ⟨⟨_, rfl⟩, scalar⟩ ⟨⟨_, bindText_str spelling⟩, scalar⟩ rfl
      exact Truth.durableKey_ne ⟨truth, rfl⟩ (key.trans spelledKey.symm)
  · rintro ⟨withoutNull, unspelled⟩ credential drawn other otherDrawn
      ⟨⟨bound, bindsTo⟩, -⟩ ⟨⟨otherBound, otherBindsTo⟩, -⟩ texts
    have present : credential.approvalId ≠ .null := by
      intro absent
      exact withoutNull credential.planHash (absent ▸ drawn)
    have otherPresent : other.approvalId ≠ .null := by
      intro absent
      exact withoutNull other.planHash (absent ▸ otherDrawn)
    rcases scalars.eq_or_spelled drawn otherDrawn texts with
      same | ⟨literal, rfl⟩ | ⟨literal, rfl⟩
    · obtain ⟨key, isKey⟩ := exists_durableKey bindsTo present
      exact ⟨key, isKey, same ▸ isKey⟩
    · have untrue : ¬ Truth credential.approvalId := fun truth =>
        unspelled _ _ truth drawn otherDrawn
      exact ⟨_, literal.durableKey_eq bindsTo present untrue⟩
    · have untrue : ¬ Truth other.approvalId := fun truth =>
        unspelled _ _ truth otherDrawn drawn
      exact ⟨_, (literal.durableKey_eq otherBindsTo otherPresent untrue).symm⟩

end ScalarsUnderPlans

/--
No signature is accepted twice over these credentials exactly when the store
holds one key for each signature text.  For scalar ids under plan hashes this
excludes, in memory, a literal beside the string that spells it; in the
durable store, `null`, and a boolean beside the string that spells it.
-/
theorem signature_accepted_once_iff (readable : ReadsTimestamps)
    (credentials : Set Credential) :
    (SignedOnce MemoryStep credentials ↔
      OneIdentity MemoryPresentable memoryKey credentials) ∧
    (SignedOnce DurableStep credentials ↔
      OneIdentity DurablePresentable durableKey credentials) ∧
    (ScalarsUnderPlans credentials →
      (SignedOnce MemoryStep credentials ↔
        Unspelled Literal credentials) ∧
      (SignedOnce DurableStep credentials ↔
        WithoutNull credentials ∧ Unspelled Truth credentials)) := by
  have memory : SignedOnce MemoryStep credentials ↔
      OneIdentity MemoryPresentable memoryKey credentials :=
    (memoryConsumer readable).signedOnce_iff
  have durable : SignedOnce DurableStep credentials ↔
      OneIdentity DurablePresentable durableKey credentials :=
    (durableConsumer readable).signedOnce_iff
  refine ⟨memory, durable, fun scalars => ⟨?_, ?_⟩⟩
  · exact memory.trans scalars.oneIdentity_memory_iff
  · exact durable.trans scalars.oneIdentity_durable_iff

end Stores

section Example

attribute [local instance] Reference.runtime

/-- String ids, presented under the hashes of plans. -/
def namedPlans : Set Credential :=
  {credential | (∃ text, credential.approvalId = .str text) ∧
    ∃ tool target action params,
      computePlanHash tool target action params = .ok credential.planHash}

/-- With string ids no signature is accepted twice, in either store. -/
theorem signature_accepted_once_of_strings :
    SignedOnce MemoryStep namedPlans ∧ SignedOnce DurableStep namedPlans := by
  have readable : ReadsTimestamps := by
    obtain ⟨moment, parsed, -⟩ := Scenario.endOfYear_notPassed
    exact ⟨Scenario.endOfYear, moment, parsed⟩
  have scalars : ScalarsUnderPlans namedPlans :=
    { scalar := fun _ named => .inl named.1
      planned := fun _ named => named.2 }
  have unliteral {approvalId : Json} {planHash : PyStr}
      (named : ⟨approvalId, planHash⟩ ∈ namedPlans) :
      ¬ Literal approvalId := by
    obtain ⟨⟨text, isText⟩, -⟩ := named
    rintro literal
    simp only at isText
    subst isText
    cases literal
  obtain ⟨-, -, kinds⟩ := signature_accepted_once_iff readable namedPlans
  obtain ⟨memory, durable⟩ := kinds scalars
  refine ⟨memory.mpr ?_, durable.mpr ⟨?_, ?_⟩⟩
  · intro approvalId planHash literal drawn
    exact absurd literal (unliteral drawn)
  · intro planHash drawn
    exact unliteral drawn .null
  · rintro approvalId planHash ⟨truth, rfl⟩ drawn
    exact absurd (.bool truth) (unliteral drawn)

/-- An approval under this id, signed for `planHash`, and its acceptance. -/
def acceptedUnder (approvalId : Json) (planHash signatureRef : PyStr) :
    ConsumeEvent where
  call := signedCall ⟨approvalId, planHash⟩ Scenario.endOfYear signatureRef
    Scenario.noon
  outcome := .ok ()

theorem acceptedUnder_valid {approvalId : Json}
    {planHash signatureRef : PyStr}
    (signed : computeSignatureRef approvalId planHash = .ok signatureRef) :
    (acceptedUnder approvalId planHash signatureRef).Valid approvalId := by
  unfold acceptedUnder
  refine signedCall_valid ?_ ?_ _
  · exact signed
  · exact Scenario.endOfYear_notPassed

/--
Under the hash of one plan, the memory store accepts `True` and then
`"True"`, and the durable store accepts `null` twice, each time under one
signature of one message.
-/
theorem signature_accepted_twice :
    ∃ planHash, boundPlanHash isolateKubernetesWorkloadTool.name
        Scenario.target Scenario.envelopeHash = .ok planHash ∧
      (∃ signatureRef first second final,
        first = acceptedUnder (.bool true) planHash signatureRef ∧
        second = acceptedUnder (.str "True") planHash signatureRef ∧
        Set.InjOn sha256 (signedMessages [first, second]) ∧
        Run MemoryStep ApprovalStore.fresh [first, second] final) ∧
      ∃ signatureRef event final,
        event = acceptedUnder .null planHash signatureRef ∧
        Set.InjOn sha256 (signedMessages [event, event]) ∧
        Run DurableStep Table.empty [event, event] final := by
  obtain ⟨planHash, computed⟩ : ∃ planHash, boundPlanHash
      isolateKubernetesWorkloadTool.name Scenario.target
      Scenario.envelopeHash = .ok planHash :=
    ⟨_, computePlanHash_eq _ _ _ _⟩
  refine ⟨planHash, computed, ?_, ?_⟩
  · obtain ⟨signatureRef, signed⟩ :=
      exists_signature (surrogateFree_ofString "True") computed
    have named := acceptedUnder_valid signed
    have truth : (acceptedUnder (.bool true) planHash signatureRef).Valid
        (.bool true) := acceptedUnder_valid signed
    have unspent : HashKey.text "True" ∉
        insert (HashKey.number 1) ApprovalStore.fresh.consumed := by
      simp [ApprovalStore.fresh]
    have run := Run.next
      (MemoryStep.accepts truth rfl (Finset.notMem_empty _))
      (.next (MemoryStep.accepts named rfl unspent) (.done _))
    exact ⟨signatureRef, _, _, _, rfl, rfl,
      CheckedConsumer.collisionFree_of_text_eq truth.presents named.presents
        rfl, run⟩
  · obtain ⟨signatureRef, signed⟩ :=
      exists_signature (surrogateFree_ofString "None") computed
    have absent : (acceptedUnder .null planHash signatureRef).Valid .null :=
      acceptedUnder_valid signed
    have admitted (table : ConsumedApprovals) : table.Admits
        ((acceptedUnder .null planHash signatureRef).row none) :=
      fun key impossible => nomatch impossible
    have run := Run.next
      (DurableStep.accepts absent rfl (admitted Table.empty))
      (.next (DurableStep.accepts absent rfl (admitted _)) (.done _))
    exact ⟨signatureRef, _, _, rfl,
      CheckedConsumer.collisionFree_of_text_eq absent.presents
        absent.presents rfl, run⟩

end Example

end ArgosCyberTools.AntiReplay
