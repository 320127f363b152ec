import ArgosCyberTools.Policies.Approval
import ArgosCyberTools.Python.Canonical
import ArgosCyberTools.Python.Reference

/-!
# The text a plan hash covers

`compute_plan_hash` hashes the canonical text of the tool, the target, the
action and the parameters, absent parameters being `{}`.  For plans made of
plain values that text determines the plan: two plans are hashed from one
text exactly when the three names agree and the parameters are the same JSON
object up to the order of its keys.
-/

namespace ArgosCyberTools.Policies

open Python ToolCatalog

/-- Names and parameters the canonical text tells apart. -/
structure PlainPlan (tool target action : PyStr) (params : Option Document) :
    Prop where
  tool : SurrogateFree tool
  target : SurrogateFree target
  action : SurrogateFree action
  params : (Json.dict (params.getD [])).Plain

/-- The document `compute_plan_hash` serializes. -/
def planDocument (tool target action : PyStr) (params : Option Document) :
    Json :=
  .dict
    [("tool", .str tool), ("target", .str target), ("action", .str action),
      ("params", .dict (params.getD []))]

section Texts

variable {tool otherTool target otherTarget action otherAction : PyStr}
  {params otherParams : Option Document}

theorem PlainPlan.planDocument (plain : PlainPlan tool target action params) :
    (planDocument tool target action params).Plain := by
  have unique : ([("tool" : PyStr), "target", "action", "params"]).Nodup := by
    decide
  apply Json.Plain.dict
  · exact unique
  · simp only [List.forall_mem_cons]
    exact ⟨surrogateFree_ofString _, surrogateFree_ofString _,
      surrogateFree_ofString _, surrogateFree_ofString _, by simp⟩
  · simp only [List.forall_mem_cons]
    exact ⟨.str plain.tool, .str plain.target, .str plain.action,
      plain.params, by simp⟩

/-- Plan documents are the same when their four values are. -/
theorem same_planDocument_iff :
    (planDocument tool target action params).same
        (planDocument otherTool otherTarget otherAction otherParams) = true ↔
      tool = otherTool ∧ target = otherTarget ∧ action = otherAction ∧
        (Json.dict (params.getD [])).same
          (.dict (otherParams.getD [])) = true := by
  have atTarget : ¬ ("tool" : PyStr) = "target" := by decide
  have atAction : ¬ ("tool" : PyStr) = "action" := by decide
  have atParams : ¬ ("tool" : PyStr) = "params" := by decide
  have targetAction : ¬ ("target" : PyStr) = "action" := by decide
  have targetParams : ¬ ("target" : PyStr) = "params" := by decide
  have actionParams : ¬ ("action" : PyStr) = "params" := by decide
  simp only [planDocument, Json.same, Json.sameEntries, PyDict.lookupIn,
    atTarget, atAction, atParams, targetAction, targetParams, actionParams,
    ↓reduceIte, List.length_cons, List.length_nil, decide_true, Bool.true_and,
    Bool.and_true, Bool.and_eq_true, decide_eq_true_eq]

variable [PyRuntime]

/-- The text hashed for a plan is faithful to the plan. -/
theorem planText_eq_iff (plain : PlainPlan tool target action params)
    (otherPlain :
      PlainPlan otherTool otherTarget otherAction otherParams) :
    planText tool target action params =
        planText otherTool otherTarget otherAction otherParams ↔
      tool = otherTool ∧ target = otherTarget ∧ action = otherAction ∧
        (Json.dict (params.getD [])).same
          (.dict (otherParams.getD [])) = true :=
  (plain.planDocument.dumps_eq_iff otherPlain.planDocument).trans
    same_planDocument_iff

end Texts

section Example

attribute [local instance] Reference.runtime

/-- Parameters with a quote, a backslash, a line feed and an astral character. -/
def escapedParams : Document :=
  [("note \"1\"", .str "back\\slash\nñ😀"),
    ("limits", .dict
      [("retries", .list [.int (-1), .bool true, .null]), ("none", .dict [])])]

/-- The same parameters, written in another order at both levels. -/
def reorderedParams : Document :=
  [("limits", .dict
      [("none", .dict []), ("retries", .list [.int (-1), .bool true, .null])]),
    ("note \"1\"", .str "back\\slash\nñ😀")]

/-- The same texts, cut at another quote. -/
def recutParams : Document :=
  [("note \"1", .str "\"back\\slash\nñ😀"),
    ("limits", .dict
      [("retries", .list [.int (-1), .bool true, .null]), ("none", .dict [])])]

theorem plainPlan_of_isPlain {params : Document}
    (checked : (Json.dict params).isPlain = true) :
    PlainPlan "isolate" "web" "apply" (some params) where
  tool := surrogateFree_ofString _
  target := surrogateFree_ofString _
  action := surrogateFree_ofString _
  params := Json.isPlain_iff.mp checked

/-- The order of the keys does not change the text, the place of a quote does. -/
theorem planText_eq_iff_of_escaped :
    planText "isolate" "web" "apply" (some escapedParams) =
        planText "isolate" "web" "apply" (some reorderedParams) ∧
      planText "isolate" "web" "apply" (some escapedParams) ≠
        planText "isolate" "web" "apply" (some recutParams) := by
  have plain : PlainPlan "isolate" "web" "apply" (some escapedParams) :=
    plainPlan_of_isPlain (by decide +kernel)
  constructor
  · exact (planText_eq_iff plain
      (plainPlan_of_isPlain (by decide +kernel))).mpr
        ⟨rfl, rfl, rfl, by decide +kernel⟩
  · intro equal
    have same := (planText_eq_iff plain
      (plainPlan_of_isPlain (by decide +kernel))).mp equal
    exact absurd same.2.2.2 (by decide +kernel)

end Example

end ArgosCyberTools.Policies
