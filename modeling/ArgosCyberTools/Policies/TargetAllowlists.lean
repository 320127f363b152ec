import ArgosCyberTools.ToolCatalog.Governance

/-!
# Loading the target allowlists

`load_target_allowlists` reads the YAML files of a directory in order and
keeps, for each tool, the set a file lists for it.  A later file of the same
tool replaces an earlier one.  Only texts are kept of a set: no other value
equals the target of a request, nor a name that is no text the name of a
tool.
-/

namespace ArgosCyberTools.Policies

open Python ToolCatalog

inductive AllowlistError where
  /-- `UnicodeDecodeError` or `YAMLError`. -/
  | unreadable
  | builtin (error : BuiltinError)

/-- `data[key]`, for a text as the key. -/
def subscript (data : Json) (key : PyStr) : Except BuiltinError Json :=
  match data with
  | .dict entries => orExit (PyDict.lookupIn key entries) (.keyError key)
  | _ => .error .typeError

/-- The texts in `set(value)`. -/
def textSet : Json → Except BuiltinError (Finset PyStr)
  | .str text => .ok (text.map ([·])).toFinset
  | .list items => do
      let _ ← items.mapM Json.hashKey
      return (items.filterMap asStr).toFinset
  | .dict entries => .ok (entries.map Prod.fst).toFinset
  | _ => .error .typeError

abbrev TargetAllowlists := PyDict PyStr (Finset PyStr)

/-- `allowlists[tool] = targets`, for a hashable name. -/
def assigned (allowlists : TargetAllowlists) (tool : Json)
    (targets : Finset PyStr) : TargetAllowlists :=
  match asStr tool with
  | some name => allowlists.assign name targets
  | none => allowlists

section Loading

variable [DocumentParsers]

/-- One turn of the loop. -/
def loadAllowlist (allowlists : TargetAllowlists)
    (file : PyStr × List UInt8) :
    Except AllowlistError TargetAllowlists :=
  match DocumentParsers.yamlSafeLoad file.2 with
  | none => .error .unreadable
  | some data => Except.mapError .builtin do
      -- Python evaluates the right-hand side first.
      let targets ← textSet (← subscript data "allowlist")
      let tool ← subscript data "tool"
      let _ ← tool.hashKey
      return assigned allowlists tool targets

/-- `load_target_allowlists`; `shipped` is the module's own directory. -/
def loadTargetAllowlists (shipped : Directory)
    (directory : Option Directory) :
    Except AllowlistError TargetAllowlists :=
  (directory.getD shipped).sortedFiles.foldlM loadAllowlist PyDict.empty

/-! ## What a file declares -/

/-- The file is a mapping with a set, for a name that can be a key. -/
structure Declares (file : PyStr × List UInt8) (tool listed : Json)
    (targets : Finset PyStr) : Prop where
  read : ∃ entries,
    DocumentParsers.yamlSafeLoad file.2 = some (.dict entries) ∧
      PyDict.lookupIn ("allowlist" : PyStr) entries = some listed ∧
      PyDict.lookupIn ("tool" : PyStr) entries = some tool
  collected : textSet listed = .ok targets
  hashable : ∃ key, tool.hashKey = .ok key

omit [DocumentParsers] in
theorem subscript_eq_ok_iff {data value : Json} {key : PyStr} :
    subscript data key = .ok value ↔
      ∃ entries, data = .dict entries ∧
        PyDict.lookupIn key entries = some value := by
  cases data with
  | dict entries => simp [subscript, orExit_eq_ok_iff]
  | null => simp [subscript]
  | bool value => simp [subscript]
  | int value => simp [subscript]
  | float value => simp [subscript]
  | str value => simp [subscript]
  | list items => simp [subscript]

omit [DocumentParsers] in
theorem get?_assigned (allowlists : TargetAllowlists) (tool : Json)
    (targets : Finset PyStr) (name : PyStr) :
    (assigned allowlists tool targets).get? name =
      if asStr tool = some name then some targets
      else allowlists.get? name := by
  unfold assigned
  cases asStr tool with
  | none => rfl
  | some other =>
      rw [PyDict.get?_assign]
      simp only [Option.some.injEq, eq_comm]

/-- A turn of the loop assigns what the file declares, or raises. -/
theorem loadAllowlist_eq_ok_iff {allowlists loaded : TargetAllowlists}
    {file : PyStr × List UInt8} :
    loadAllowlist allowlists file = .ok loaded ↔
      ∃ tool listed targets, Declares file tool listed targets ∧
        loaded = assigned allowlists tool targets := by
  unfold loadAllowlist
  cases parsed : DocumentParsers.yamlSafeLoad file.2 with
  | none =>
      constructor
      · intro returned
        cases returned
      · rintro ⟨_, _, _, ⟨⟨_, read, -⟩, -, -⟩, -⟩
        cases parsed.symm.trans read
  | some data =>
      simp only [mapError_eq_ok_iff, bind_eq_ok_iff, subscript_eq_ok_iff,
        pure_eq_ok_iff]
      constructor
      · rintro ⟨listed, ⟨entries, rfl, hasList⟩, targets, collected, tool,
          ⟨_, same, hasTool⟩, key, hashable, rfl⟩
        cases same
        exact ⟨tool, listed, targets,
          ⟨⟨entries, parsed, hasList, hasTool⟩, collected, key, hashable⟩,
          rfl⟩
      · rintro ⟨tool, listed, targets,
          ⟨⟨entries, read, hasList, hasTool⟩, collected, key, hashable⟩, rfl⟩
        cases parsed.symm.trans read
        exact ⟨listed, ⟨entries, rfl, hasList⟩, targets, collected, tool,
          ⟨entries, rfl, hasTool⟩, key, hashable, rfl⟩

theorem Declares.unique {file : PyStr × List UInt8}
    {tool listed otherTool otherListed : Json}
    {targets otherTargets : Finset PyStr}
    (declares : Declares file tool listed targets)
    (other : Declares file otherTool otherListed otherTargets) :
    tool = otherTool ∧ listed = otherListed ∧ targets = otherTargets := by
  obtain ⟨⟨entries, read, hasList, hasTool⟩, collected, -⟩ := declares
  obtain ⟨⟨others, readToo, hasOther, hasOtherTool⟩, collectedToo, -⟩ := other
  cases read.symm.trans readToo
  cases hasList.symm.trans hasOther
  cases hasTool.symm.trans hasOtherTool
  cases collected.symm.trans collectedToo
  exact ⟨rfl, rfl, rfl⟩

/-- The file declares something for this tool. -/
def Names (file : PyStr × List UInt8) (name : PyStr) : Prop :=
  ∃ listed targets, Declares file (.str name) listed targets

/-- The last of the files that name the tool lists these targets. -/
def LastDeclared (files : List (PyStr × List UInt8)) (name : PyStr)
    (targets : Finset PyStr) : Prop :=
  ∃ before file after listed, files = before ++ file :: after ∧
    Declares file (.str name) listed targets ∧
    ∀ other ∈ after, ¬ Names other name

theorem lastDeclared_cons_iff {file : PyStr × List UInt8}
    {rest : List (PyStr × List UInt8)} {name : PyStr}
    {targets : Finset PyStr} :
    LastDeclared (file :: rest) name targets ↔
      LastDeclared rest name targets ∨
        (∃ listed, Declares file (.str name) listed targets) ∧
          ∀ other ∈ rest, ¬ Names other name := by
  constructor
  · rintro ⟨before, last, after, listed, split, declares, silent⟩
    cases before with
    | nil =>
        cases split
        exact .inr ⟨⟨listed, declares⟩, silent⟩
    | cons first more =>
        cases split
        exact .inl ⟨more, last, after, listed, rfl, declares, silent⟩
  · rintro (⟨before, last, after, listed, rfl, declares, silent⟩ |
      ⟨⟨listed, declares⟩, silent⟩)
    · exact ⟨file :: before, last, after, listed, rfl, declares, silent⟩
    · exact ⟨[], file, rest, listed, rfl, declares, silent⟩

/-- The loop keeps the last declaration of every tool. -/
theorem foldlM_loadAllowlist_get? {files : List (PyStr × List UInt8)}
    {allowlists loaded : TargetAllowlists}
    (result : files.foldlM loadAllowlist allowlists = .ok loaded)
    (name : PyStr) (targets : Finset PyStr) :
    loaded.get? name = some targets ↔
      LastDeclared files name targets ∨
        allowlists.get? name = some targets ∧
          ∀ file ∈ files, ¬ Names file name := by
  induction files generalizing allowlists with
  | nil =>
      cases result
      simp [LastDeclared]
  | cons file rest induction =>
      rw [List.foldlM_cons, bind_eq_ok_iff] at result
      obtain ⟨next, turned, remaining⟩ := result
      obtain ⟨tool, listed, declared, declares, rfl⟩ :=
        loadAllowlist_eq_ok_iff.mp turned
      rw [induction remaining, get?_assigned, lastDeclared_cons_iff,
        or_assoc, List.forall_mem_cons]
      refine or_congr_right ?_
      split_ifs with same
      · cases asStr_eq_some_iff.mp same
        have named : Names file name := ⟨listed, declared, declares⟩
        simp only [named, not_true_eq_false, false_and, and_false, or_false]
        refine and_congr_left fun _ => ?_
        constructor
        · rintro ⟨⟩
          exact ⟨listed, declares⟩
        · rintro ⟨_, other⟩
          rw [(declares.unique other).2.2]
      · have unnamed : ¬ Names file name := by
          rintro ⟨_, _, other⟩
          exact same (asStr_eq_some_iff.mpr (declares.unique other).1)
        have none : ¬ ∃ listed, Declares file (.str name) listed targets := by
          rintro ⟨_, other⟩
          exact unnamed ⟨_, _, other⟩
        simp [none, unnamed]

theorem foldlM_loadAllowlist_ok_iff {files : List (PyStr × List UInt8)}
    {allowlists : TargetAllowlists} :
    (∃ loaded, files.foldlM loadAllowlist allowlists = .ok loaded) ↔
      ∀ file ∈ files, ∃ tool listed targets,
        Declares file tool listed targets := by
  induction files generalizing allowlists with
  | nil => simp [pure, Except.pure]
  | cons file rest induction =>
      simp only [List.foldlM_cons, bind_eq_ok_iff, List.forall_mem_cons,
        loadAllowlist_eq_ok_iff]
      constructor
      · rintro ⟨loaded, next, ⟨tool, listed, targets, declares, rfl⟩, later⟩
        exact ⟨⟨tool, listed, targets, declares⟩,
          induction.mp ⟨loaded, later⟩⟩
      · rintro ⟨⟨tool, listed, targets, declares⟩, others⟩
        obtain ⟨loaded, later⟩ := induction.mpr others
        exact ⟨loaded, _, ⟨tool, listed, targets, declares, rfl⟩, later⟩

/-! ## What a set holds -/

/-- A text is in `set(value)`. -/
def InSet (listed : Json) (target : PyStr) : Prop :=
  match listed with
  | .str text => ∃ point ∈ text, target = [point]
  | .list items => .str target ∈ items
  | .dict entries => target ∈ entries.map Prod.fst
  | _ => False

omit [DocumentParsers] in
theorem mem_textSet_iff {listed : Json} {targets : Finset PyStr}
    (collected : textSet listed = .ok targets) (target : PyStr) :
    target ∈ targets ↔ InSet listed target := by
  cases listed with
  | str text =>
      cases collected
      simp [InSet, eq_comm]
  | list items =>
      simp only [textSet, bind_eq_ok_iff, pure_eq_ok_iff] at collected
      obtain ⟨_, -, rfl⟩ := collected
      simp only [InSet, List.mem_toFinset, List.mem_filterMap]
      constructor
      · rintro ⟨item, member, isText⟩
        rwa [← asStr_eq_some_iff.mp isText]
      · intro member
        exact ⟨_, member, rfl⟩
  | dict entries =>
      cases collected
      simp [InSet]
  | null => cases collected
  | bool value => cases collected
  | int value => cases collected
  | float value => cases collected

end Loading

end ArgosCyberTools.Policies
