import ArgosCyberTools.Python.JsonWriter
import ArgosCyberTools.Python.TextFiles

/-!
# JSON files

The program writes its JSON files with `indent=2`, sorted keys and a final
line feed, and reads them with `json.loads`.  A portable value is read back
with its keys in order, and a dictionary of texts as the sorted dictionary.
-/

namespace Python

open Coding

theorem IsPrinted.surrogateFree {text : PyStr} (printed : IsPrinted text) :
    SurrogateFree text := by
  intro point member
  have bound := printed point member
  unfold PrintedPoint at bound
  exact decide_eq_false (by omega)

section Files

variable [PyRuntime] [FloatReader]

omit [FloatReader] in
/-- `json.dumps(value, indent=2, sort_keys=True) + "\n"`. -/
def jsonFileText (value : Json) : PyStr :=
  value.dumpsWith (.indented 2) 0 ++ [0x0A]

omit [FloatReader] in
/-- `path.write_text(json.dumps(...) + "\n", encoding="utf-8")`. -/
def writeJsonFile (value : Json) : Except BuiltinError (List UInt8) :=
  writeText (jsonFileText value)

omit [PyRuntime] in
/-- `json.loads(path.read_text(encoding="utf-8"))`; `none` is `ValueError`. -/
def readJsonFile (bytes : List UInt8) : Option Json :=
  (readText bytes).bind Json.loads

omit [FloatReader] in
theorem isPrinted_jsonFileText {value : Json} (portable : value.Portable) :
    IsPrinted (jsonFileText value) := by
  rw [jsonFileText, isPrinted_append]
  exact ⟨portable.printed _ 0, isPrinted_cons.mpr ⟨by decide, isPrinted_nil⟩⟩

omit [FloatReader] in
theorem writeJsonFile_eq {value : Json} (portable : value.Portable) :
    writeJsonFile value = .ok ((jsonFileText value).flatMap utf8Bytes) := by
  have scalar := (isPrinted_jsonFileText portable).surrogateFree
  rw [writeJsonFile, writeText, PyStr.encode_of_surrogateFree scalar]

/-- A JSON file is read back as it was written, keys in order. -/
theorem Json.Portable.readJsonFile_eq {value : Json}
    (portable : value.Portable) {bytes : List UInt8}
    (written : writeJsonFile value = .ok bytes) :
    readJsonFile bytes = some value.ordered := by
  have blanks : ∀ point ∈ ([0x0A] : PyStr), isJsonBlank point = true := by
    intro point member
    rw [List.mem_singleton.mp member]
    decide
  have noReturn : (0x0D : CodePoint) ∉ jsonFileText value := by
    intro member
    exact absurd (isPrinted_jsonFileText portable _ member) (by decide)
  rw [readJsonFile, readText_of_writeText written noReturn, Option.bind_some,
    jsonFileText, portable.loads_dumpsWith blanks]

end Files

/-! ## Dictionaries of texts -/

/-- The JSON object a dictionary of texts is written as. -/
def PyDict.toJson (dict : PyDict PyStr PyStr) : JsonObject where
  entries := dict.entries.map fun entry => (entry.1, .str entry.2)
  unique := by
    rw [List.map_map]
    exact dict.unique

namespace PyDict

variable {dict : PyDict PyStr PyStr}

theorem get?_toJson (dict : PyDict PyStr PyStr) (key : PyStr) :
    dict.toJson.get? key = (dict.get? key).map Json.str := by
  show lookupIn key (dict.entries.map _) = _
  rw [get?]
  induction dict.entries with
  | nil => rfl
  | cons entry rest induction =>
      obtain ⟨present, value⟩ := entry
      simp only [List.map_cons, lookupIn]
      split_ifs
      · rfl
      · exact induction

theorem toJson_assign (dict : PyDict PyStr PyStr) (key value : PyStr) :
    (dict.assign key value).toJson = dict.toJson.assign key (.str value) := by
  apply ext_entries
  show (assignIn key value dict.entries).map _ = assignIn key _ (dict.entries.map _)
  induction dict.entries with
  | nil => rfl
  | cons entry rest induction =>
      obtain ⟨present, held⟩ := entry
      simp only [List.map_cons, assignIn]
      split_ifs
      · rfl
      · rw [List.map_cons, induction]

/-- Texts that can be written: no lone surrogates. -/
def IsScalar (dict : PyDict PyStr PyStr) : Prop :=
  ∀ key value, dict.get? key = some value →
    SurrogateFree key ∧ SurrogateFree value

theorem IsScalar.portable (scalar : dict.IsScalar) :
    (Json.dict dict.toJson.entries).Portable := by
  apply Json.Portable.dict dict.toJson.unique
  · intro entry member
    obtain ⟨source, isEntry, rfl⟩ := List.mem_map.mp member
    exact (scalar _ _ (lookupIn_of_mem dict.unique isEntry)).1
  · intro entry member
    obtain ⟨source, isEntry, rfl⟩ := List.mem_map.mp member
    exact .str (scalar _ _ (lookupIn_of_mem dict.unique isEntry)).2

/-- In order, a dictionary of texts is the sorted dictionary. -/
theorem ordered_toJson (dict : PyDict PyStr PyStr) :
    (Json.dict dict.toJson.entries).ordered =
      .dict (dict.sortedBy (· ≤ ·)).toJson.entries := by
  have texts : Json.orderedEntries dict.toJson.entries =
      dict.toJson.entries := by
    show Json.orderedEntries (dict.entries.map _) = dict.entries.map _
    induction dict.entries with
    | nil => rfl
    | cons entry rest induction =>
        simp only [List.map_cons, Json.orderedEntries, Json.ordered, induction]
  rw [Json.ordered, texts]
  congr 1
  symm
  apply List.map_insertionSort
  intro entry _ other _
  exact Iff.rfl

/-- The file does not depend on the order of the entries. -/
theorem jsonFileText_sortedBy [PyRuntime] (dict : PyDict PyStr PyStr) :
    jsonFileText (.dict (dict.sortedBy (· ≤ ·)).toJson.entries) =
      jsonFileText (.dict dict.toJson.entries) := by
  have perm : (dict.sortedBy (· ≤ ·)).toJson.entries.Perm
      dict.toJson.entries :=
    (List.perm_insertionSort _ dict.entries).map _
  have sorted := insertionSort_keys_congr
    (dict.sortedBy (· ≤ ·)).toJson.unique perm
  simp only [jsonFileText, Json.dumpsWith, Json.map_entryText,
    Json.sortEntries, sorted]

end PyDict

end Python
