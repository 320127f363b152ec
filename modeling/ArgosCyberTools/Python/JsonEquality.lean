import ArgosCyberTools.Python.Value

/-!
# Equal JSON values

Two JSON values are equal when they have the same shape and, in it, the same
scalars; the entries of an object are compared by key, so their order does
not count.  Unlike `==`, which identifies `True` and `1`, this tells values
of different JSON types apart.

Plain values are those the canonical text tells apart: their strings hold no
lone surrogates, an object has each key once, and there are no floats.
-/

namespace Python

namespace Json

mutual

/-- The values are the same up to the order of object keys. -/
def same : Json → Json → Bool
  | .null, .null => true
  | .bool value, .bool other => value = other
  | .int value, .int other => value = other
  | .float value, .float other => value = other
  | .str value, .str other => value = other
  | .list items, .list others => sameItems items others
  | .dict entries, .dict others =>
      entries.length = others.length && sameEntries entries others
  | _, _ => false

def sameItems : List Json → List Json → Bool
  | [], [] => true
  | item :: items, other :: others => item.same other && sameItems items others
  | _, _ => false

/-- Every entry has one with the same value under its key. -/
def sameEntries : List (PyStr × Json) → List (PyStr × Json) → Bool
  | [], _ => true
  | (key, value) :: entries, others =>
      (match PyDict.lookupIn key others with
        | some other => value.same other
        | none => false) &&
        sameEntries entries others

end

theorem sameItems_iff {items others : List Json} :
    sameItems items others = true ↔
      List.Forall₂ (fun item other => item.same other = true) items others := by
  induction items generalizing others with
  | nil => cases others <;> simp [sameItems]
  | cons item items induction =>
      cases others with
      | nil => simp [sameItems]
      | cons other others => simp [sameItems, induction]

theorem sameEntries_iff {entries others : List (PyStr × Json)} :
    sameEntries entries others = true ↔
      ∀ entry ∈ entries, ∃ other,
        PyDict.lookupIn entry.1 others = some other ∧
          entry.2.same other = true := by
  induction entries with
  | nil => simp [sameEntries]
  | cons entry entries induction =>
      obtain ⟨key, value⟩ := entry
      rw [sameEntries, Bool.and_eq_true, induction, List.forall_mem_cons]
      cases PyDict.lookupIn key others <;> simp

@[simp]
theorem same_list_iff {items others : List Json} :
    (Json.list items).same (.list others) = true ↔
      List.Forall₂ (fun item other => item.same other = true) items others := by
  rw [same, sameItems_iff]

@[simp]
theorem same_dict_iff {entries others : List (PyStr × Json)} :
    (Json.dict entries).same (.dict others) = true ↔
      entries.length = others.length ∧
        ∀ entry ∈ entries, ∃ other,
          PyDict.lookupIn entry.1 others = some other ∧
            entry.2.same other = true := by
  rw [same, Bool.and_eq_true, decide_eq_true_eq, sameEntries_iff]

/-- Strings without lone surrogates, distinct keys and no floats throughout. -/
inductive Plain : Json → Prop
  | null : Plain .null
  | bool (value : Bool) : Plain (.bool value)
  | int (value : Int) : Plain (.int value)
  | str {value : PyStr} (scalar : SurrogateFree value) : Plain (.str value)
  | list {items : List Json} (plain : ∀ item ∈ items, Plain item) :
      Plain (.list items)
  | dict {entries : List (PyStr × Json)}
      (unique : (entries.map Prod.fst).Nodup)
      (scalar : ∀ entry ∈ entries, SurrogateFree entry.1)
      (plain : ∀ entry ∈ entries, Plain entry.2) :
      Plain (.dict entries)

/-- Whether a text holds no lone surrogate. -/
def isScalarText (text : PyStr) : Bool :=
  text.all fun point => !point.isSurrogate

theorem isScalarText_iff {text : PyStr} :
    isScalarText text = true ↔ SurrogateFree text := by
  simp [isScalarText, SurrogateFree]

mutual

/-- Whether a value is plain. -/
def isPlain : Json → Bool
  | .null | .bool _ | .int _ => true
  | .float _ => false
  | .str value => isScalarText value
  | .list items => plainItems items
  | .dict entries =>
      decide (entries.map Prod.fst).Nodup && plainEntries entries

def plainItems : List Json → Bool
  | [] => true
  | item :: items => item.isPlain && plainItems items

def plainEntries : List (PyStr × Json) → Bool
  | [] => true
  | (key, value) :: entries =>
      isScalarText key && value.isPlain && plainEntries entries

end

mutual

theorem plain_of_isPlain (value : Json) (checked : value.isPlain = true) :
    value.Plain := by
  cases value with
  | null => exact .null
  | bool value => exact .bool value
  | int value => exact .int value
  | float value => cases checked
  | str value =>
      exact .str (isScalarText_iff.mp checked)
  | list items => exact .list (plain_of_plainItems items checked)
  | dict entries =>
      rw [isPlain, Bool.and_eq_true, decide_eq_true_eq] at checked
      have held := plain_of_plainEntries entries checked.2
      exact .dict checked.1 (fun entry member => (held entry member).1)
        (fun entry member => (held entry member).2)

theorem plain_of_plainItems (items : List Json)
    (checked : plainItems items = true) : ∀ item ∈ items, item.Plain := by
  cases items with
  | nil => simp
  | cons item items =>
      rw [plainItems, Bool.and_eq_true] at checked
      exact List.forall_mem_cons.mpr
        ⟨plain_of_isPlain item checked.1, plain_of_plainItems items checked.2⟩

theorem plain_of_plainEntries (entries : List (PyStr × Json))
    (checked : plainEntries entries = true) :
    ∀ entry ∈ entries, SurrogateFree entry.1 ∧ entry.2.Plain := by
  cases entries with
  | nil => simp
  | cons entry entries =>
      obtain ⟨key, value⟩ := entry
      rw [plainEntries, Bool.and_eq_true, Bool.and_eq_true,
        isScalarText_iff] at checked
      exact List.forall_mem_cons.mpr
        ⟨⟨checked.1.1, plain_of_isPlain value checked.1.2⟩,
          plain_of_plainEntries entries checked.2⟩

end

theorem plainItems_iff {items : List Json} :
    plainItems items = true ↔ ∀ item ∈ items, item.isPlain = true := by
  induction items with
  | nil => simp [plainItems]
  | cons item items induction => simp [plainItems, induction]

theorem plainEntries_iff {entries : List (PyStr × Json)} :
    plainEntries entries = true ↔
      ∀ entry ∈ entries,
        SurrogateFree entry.1 ∧ entry.2.isPlain = true := by
  induction entries with
  | nil => simp [plainEntries]
  | cons entry entries induction =>
      obtain ⟨key, value⟩ := entry
      rw [plainEntries, Bool.and_eq_true, induction, List.forall_mem_cons,
        Bool.and_eq_true, isScalarText_iff]

theorem isPlain_iff {value : Json} : value.isPlain = true ↔ value.Plain := by
  constructor
  · exact plain_of_isPlain value
  · intro plain
    induction plain with
    | null | bool | int => rfl
    | str scalar => exact isScalarText_iff.mpr scalar
    | list plain induction => exact plainItems_iff.mpr induction
    | dict unique scalar plain induction =>
        rw [isPlain, Bool.and_eq_true, decide_eq_true_eq, plainEntries_iff]
        exact ⟨unique,
          fun entry member => ⟨scalar entry member, induction entry member⟩⟩

instance (value : Json) : Decidable value.Plain :=
  decidable_of_iff (value.isPlain = true) isPlain_iff

end Json

end Python
