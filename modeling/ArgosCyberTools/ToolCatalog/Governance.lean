import ArgosCyberTools.ToolCatalog.Loading

/-!
# Governed tools

The two conditional rules of the schema, carried through the loader: a tool
of high or critical risk demands an approval and a target allowlist, a tool
that can execute demands evidence.  Every entry of a loaded catalog is
governed and filed under its own name.
-/

namespace ArgosCyberTools.ToolCatalog

open Python

def highRiskLevels : List PyStr := ["high", "critical"]

/-- What the conditional rules say about a definition. -/
structure Governed (tool : ToolDefinition) : Prop where
  approval : tool.riskLevel ∈ highRiskLevels → tool.approvalRequired = true
  allowlist :
    tool.riskLevel ∈ highRiskLevels → tool.targetAllowlistRequired = true
  evidence :
    PyStr.ofString "execute" ∈ tool.mode → tool.evidenceRequired = true

/-! ## Reading fields back -/

theorem readField_eq_ok_iff {Value : Type} {decode : Json → Option Value}
    {data : Document} {key : PyStr} {value : Value} :
    readField decode data key = .ok value ↔
      ∃ held, fieldOf data key = some held ∧ decode held = some value := by
  simp only [readField, bind_eq_ok_iff, orExit_eq_ok_iff]

@[simp]
theorem asStr_eq_some_iff {held : Json} {value : PyStr} :
    asStr held = some value ↔ held = .str value := by
  cases held <;> simp [asStr]

@[simp]
theorem asBool_eq_some_iff {held : Json} {value : Bool} :
    asBool held = some value ↔ held = .bool value := by
  cases held <;> simp [asBool]

theorem mapM_asStr_eq_some_iff {items : List Json} {texts : List PyStr} :
    items.mapM asStr = some texts ↔ items = texts.map .str := by
  induction items generalizing texts with
  | nil => cases texts <;> simp
  | cons item rest induction =>
      cases texts with
      | nil => simp [List.mapM_cons, Option.bind_eq_some_iff]
      | cons text others =>
          simp [List.mapM_cons, Option.bind_eq_some_iff, induction]

/-- A list of strings is read element by element. -/
theorem asStrings_eq_some_iff {held : Json} {texts : List PyStr} :
    asStrings held = some texts ↔ held = .list (texts.map .str) := by
  cases held <;> simp [asStrings, mapM_asStr_eq_some_iff]

/-- The fields of a definition the rules speak about, as they were read. -/
structure ReadFrom (entries : Document) (tool : ToolDefinition) : Prop where
  riskLevel :
    fieldOf entries "risk_level" = some (.str tool.riskLevel)
  mode :
    fieldOf entries "mode" = some (.list (tool.mode.map .str))
  approvalRequired :
    fieldOf entries "approval_required" =
      some (.bool tool.approvalRequired)
  targetAllowlistRequired :
    fieldOf entries "target_allowlist_required" =
      some (.bool tool.targetAllowlistRequired)
  evidenceRequired :
    fieldOf entries "evidence_required" =
      some (.bool tool.evidenceRequired)

theorem ToolDefinition.fromDict_eq_ok {entries : Document}
    {tool : ToolDefinition}
    (result : ToolDefinition.fromDict entries = .ok tool) :
    ReadFrom entries tool := by
  simp only [ToolDefinition.fromDict, bind_eq_ok_iff, readField_eq_ok_iff,
    pure_eq_ok_iff, asStr_eq_some_iff, asBool_eq_some_iff,
    asStrings_eq_some_iff, exists_eq_right] at result
  obtain ⟨-, -, name, -, version, -, riskLevel, risk, mode, modes, scope,
    -, approvalRequired, approval, idempotent, -, timeout, -, allowlisted,
    allowlist, rollback, -, evidenceRequired, evidence, sideEffect, -,
    limit, -, rfl⟩ := result
  exact
    { riskLevel := risk
      mode := modes
      approvalRequired := approval
      targetAllowlistRequired := allowlist
      evidenceRequired := evidence }

/-! ## From the schema to the definition -/

section Rules

variable {entries : Document} {tool : ToolDefinition}

/-- A property pinned to `true` by a rule reads back as `true`. -/
theorem eq_true_of_const {schemas : List (PyStr × Schema)} {key : PyStr}
    {value : Bool}
    (accepted :
      (Schema.properties schemas).accepts (.dict entries) = true)
    (pinned : (key, Schema.const (.bool true)) ∈ schemas)
    (held : fieldOf entries key = some (.bool value)) :
    value = true := by
  have equal := Schema.accepts_property accepted pinned held
  simpa [Schema.accepts] using equal

theorem highRiskRule_sound (read : ReadFrom entries tool)
    (accepted : highRiskRule.accepts (.dict entries) = true)
    (risky : tool.riskLevel ∈ highRiskLevels) :
    tool.approvalRequired = true ∧ tool.targetAllowlistRequired = true := by
  have consequence :
      (Schema.allOf [
        .properties
          [("approval_required", .const (.bool true)),
            ("target_allowlist_required", .const (.bool true))],
        .required ["approval_required", "target_allowlist_required"]]).accepts
          (.dict entries) = true := by
    refine (Bool.or_eq_true_iff.mp accepted).resolve_left ?_
    have held : PyDict.lookupIn (PyStr.ofString "risk_level") entries =
        some (.str tool.riskLevel) := read.riskLevel
    simp only [highRiskLevels, List.mem_cons, List.not_mem_nil,
      or_false] at risky
    rcases risky with level | level <;>
      simp [Schema.accepts, Schema.acceptsProperties, held, level]
  have pinned := Schema.accepts_of_mem_allOf consequence
    (List.mem_cons_self ..)
  exact ⟨eq_true_of_const pinned (by simp) read.approvalRequired,
    eq_true_of_const pinned (by simp) read.targetAllowlistRequired⟩

theorem executeRule_sound (read : ReadFrom entries tool)
    (accepted : executeRule.accepts (.dict entries) = true)
    (executable : PyStr.ofString "execute" ∈ tool.mode) :
    tool.evidenceRequired = true := by
  have consequence :
      (Schema.allOf [
        .properties [("evidence_required", .const (.bool true))],
        .required ["evidence_required"]]).accepts (.dict entries) = true := by
    refine (Bool.or_eq_true_iff.mp accepted).resolve_left ?_
    have held : PyDict.lookupIn (PyStr.ofString "mode") entries =
        some (.list (tool.mode.map .str)) := read.mode
    simp [Schema.accepts, Schema.acceptsProperties, held, executable]
  have pinned := Schema.accepts_of_mem_allOf consequence
    (List.mem_cons_self ..)
  exact eq_true_of_const pinned (by simp) read.evidenceRequired

variable [PyRuntime]

/-- The schema makes a definition governed. -/
theorem governed_of_accepts (read : ReadFrom entries tool)
    (accepted : toolDefinitionSchema.accepts (.dict entries) = true) :
    Governed tool := by
  have rules :
      (Schema.allOf [highRiskRule, executeRule]).accepts (.dict entries) =
        true :=
    Schema.accepts_of_mem_allOf accepted (by simp)
  have highRisk := Schema.accepts_of_mem_allOf rules
    (List.mem_cons_self ..)
  have execute := Schema.accepts_of_mem_allOf rules
    (List.mem_cons_of_mem _ (List.mem_singleton_self executeRule))
  exact
    { approval := fun risky => (highRiskRule_sound read highRisk risky).1
      allowlist := fun risky => (highRiskRule_sound read highRisk risky).2
      evidence := executeRule_sound read execute }

/-- Every entry of a loaded catalog is governed and under its own name. -/
theorem loadCatalog_governed [DocumentParsers] {shipped : ShippedCatalog}
    {definitionsDir : Option Directory}
    {manifestPath : Option (Option (List UInt8))} {catalog : Catalog}
    (loaded :
      loadCatalog shipped definitionsDir manifestPath = .ok catalog)
    {key : PyStr} {tool : ToolDefinition}
    (found : catalog.get? key = some tool) :
    key = tool.name ∧ Governed tool := by
  refine loadDefinitions_get?_of_step
    (fun key tool => key = tool.name ∧ Governed tool) ?_ (by simp)
    (loadCatalog_eq_ok loaded) key tool found
  intro file tool read
  obtain ⟨entries, -, accepted, decoded⟩ := loadDefinition_eq_ok read
  exact ⟨rfl,
    governed_of_accepts (ToolDefinition.fromDict_eq_ok decoded) accepted⟩

end Rules

end ArgosCyberTools.ToolCatalog
