import ArgosCyberTools.Python.Text

/-!
# Python dictionaries

A `dict` keeps its keys unique and iterates in insertion order; assigning to
a present key keeps its position.  Uniqueness is a field of the structure, so
the operations carry its proof.
-/

namespace Python

/-- An insertion-ordered dictionary. -/
structure PyDict (Key Value : Type) where
  entries : List (Key × Value)
  unique : (entries.map Prod.fst).Nodup

namespace PyDict

variable {Key Value : Type}

@[ext]
theorem ext_entries {left right : PyDict Key Value}
    (equal : left.entries = right.entries) : left = right := by
  cases left
  cases right
  cases equal
  rfl

variable [DecidableEq Key]

instance [DecidableEq Value] : DecidableEq (PyDict Key Value) :=
  fun left right =>
    decidable_of_iff (left.entries = right.entries) (by
      cases left
      cases right
      simp)

/-- `{}`. -/
def empty : PyDict Key Value := ⟨[], List.nodup_nil⟩

def keys (dict : PyDict Key Value) : List Key :=
  dict.entries.map Prod.fst

/-! ## Operations on the entries -/

def lookupIn (key : Key) : List (Key × Value) → Option Value
  | [] => none
  | (present, value) :: rest =>
      if present = key then some value else lookupIn key rest

def assignIn (key : Key) (value : Value) :
    List (Key × Value) → List (Key × Value)
  | [] => [(key, value)]
  | (present, old) :: rest =>
      if present = key then (present, value) :: rest
      else (present, old) :: assignIn key value rest

theorem map_fst_assignIn (key : Key) (value : Value)
    (entries : List (Key × Value)) :
    (assignIn key value entries).map Prod.fst =
      if key ∈ entries.map Prod.fst then entries.map Prod.fst
      else entries.map Prod.fst ++ [key] := by
  induction entries with
  | nil => simp [assignIn]
  | cons entry rest induction =>
      obtain ⟨present, old⟩ := entry
      by_cases same : present = key
      · simp [assignIn, same]
      · have different : ¬ key = present := fun equal => same equal.symm
        simp only [assignIn, same, ↓reduceIte, List.map_cons,
          induction, List.mem_cons, different, false_or]
        split_ifs <;> simp

theorem lookupIn_eq_none_iff (key : Key)
    (entries : List (Key × Value)) :
    lookupIn key entries = none ↔ key ∉ entries.map Prod.fst := by
  induction entries with
  | nil => simp [lookupIn]
  | cons entry rest induction =>
      obtain ⟨present, old⟩ := entry
      by_cases same : present = key
      · simp [lookupIn, same]
      · have different : ¬ key = present := fun equal => same equal.symm
        simp [lookupIn, same, different, induction]

theorem assignIn_eq_self {key : Key} {value : Value}
    {entries : List (Key × Value)}
    (held : lookupIn key entries = some value) :
    assignIn key value entries = entries := by
  induction entries with
  | nil => simp [lookupIn] at held
  | cons entry rest induction =>
      obtain ⟨present, old⟩ := entry
      by_cases here : present = key
      · simp only [lookupIn, here, ↓reduceIte, Option.some.injEq] at held
        simp [assignIn, here, held]
      · simp only [lookupIn, here, ↓reduceIte] at held
        simp [assignIn, here, induction held]

theorem assignIn_of_new {key : Key} {value : Value}
    {entries : List (Key × Value)} (new : key ∉ entries.map Prod.fst) :
    assignIn key value entries = entries ++ [(key, value)] := by
  induction entries with
  | nil => rfl
  | cons entry rest induction =>
      obtain ⟨present, old⟩ := entry
      rw [List.map_cons, List.mem_cons, not_or] at new
      have different : ¬ present = key := fun same => new.1 same.symm
      simp [assignIn, different, induction new.2]

/-! ## The dictionary interface -/

/-- `dict.get(key)`. -/
def get? (dict : PyDict Key Value) (key : Key) : Option Value :=
  lookupIn key dict.entries

/-- `key in dict`. -/
def contains (dict : PyDict Key Value) (key : Key) : Bool :=
  (dict.get? key).isSome

/-- `dict[key] = value`. -/
def assign (dict : PyDict Key Value) (key : Key) (value : Value) :
    PyDict Key Value where
  entries := assignIn key value dict.entries
  unique := by
    rw [map_fst_assignIn]
    split_ifs with present
    · exact dict.unique
    · exact List.nodup_append.mpr
        ⟨dict.unique, by simp, by
          rintro old oldMember new newMember rfl
          simp only [List.mem_singleton] at newMember
          exact present (newMember ▸ oldMember)⟩

/-- `dict.pop(key, None)` as an update. -/
def pop (dict : PyDict Key Value) (key : Key) : PyDict Key Value where
  entries := dict.entries.filter fun entry => entry.1 ≠ key
  unique := dict.unique.sublist
    ((List.filter_sublist (l := dict.entries)).map Prod.fst)

/-- `{key: value, ...}`: later entries overwrite earlier ones. -/
def ofList (entries : List (Key × Value)) : PyDict Key Value :=
  entries.foldl (fun dict entry => dict.assign entry.1 entry.2) empty

theorem entries_foldl_assign {dict : PyDict Key Value}
    {entries : List (Key × Value)}
    (unique : ((dict.entries ++ entries).map Prod.fst).Nodup) :
    (entries.foldl (fun dict entry => dict.assign entry.1 entry.2)
      dict).entries = dict.entries ++ entries := by
  induction entries generalizing dict with
  | nil => simp
  | cons entry rest induction =>
      have new : entry.1 ∉ dict.entries.map Prod.fst := by
        rw [List.map_append, List.nodup_append] at unique
        intro member
        exact unique.2.2 _ member _ (by simp) rfl
      have assigned : (dict.assign entry.1 entry.2).entries =
          dict.entries ++ [entry] := assignIn_of_new new
      rw [List.foldl_cons, induction, assigned, List.append_assoc,
        List.singleton_append]
      rwa [assigned, List.append_assoc, List.singleton_append]

/-- A literal without repeated keys keeps its entries. -/
theorem entries_ofList {entries : List (Key × Value)}
    (unique : (entries.map Prod.fst).Nodup) :
    (ofList entries).entries = entries :=
  @entries_foldl_assign Key Value _ empty entries unique

theorem mem_of_lookupIn {key : Key} {value : Value}
    {entries : List (Key × Value)}
    (held : lookupIn key entries = some value) :
    (key, value) ∈ entries := by
  induction entries with
  | nil => simp [lookupIn] at held
  | cons entry rest induction =>
      obtain ⟨present, old⟩ := entry
      by_cases here : present = key
      · simp only [lookupIn, here, ↓reduceIte, Option.some.injEq] at held
        simp [here, held]
      · simp only [lookupIn, here, ↓reduceIte] at held
        exact List.mem_cons_of_mem _ (induction held)

theorem lookupIn_of_mem {key : Key} {value : Value}
    {entries : List (Key × Value)}
    (unique : (entries.map Prod.fst).Nodup)
    (member : (key, value) ∈ entries) :
    lookupIn key entries = some value := by
  induction entries with
  | nil => cases member
  | cons entry rest induction =>
      obtain ⟨present, old⟩ := entry
      rw [List.map_cons, List.nodup_cons] at unique
      rcases List.mem_cons.mp member with here | later
      · cases here
        simp [lookupIn]
      · have different : present ≠ key := by
          rintro rfl
          exact unique.1 (List.mem_map.mpr ⟨_, later, rfl⟩)
        simp [lookupIn, different, induction unique.2 later]

/-- A slot holds a value when the dictionary has that entry. -/
theorem get?_eq_some_iff (dict : PyDict Key Value) {key : Key}
    {value : Value} :
    dict.get? key = some value ↔ (key, value) ∈ dict.entries :=
  ⟨mem_of_lookupIn, lookupIn_of_mem dict.unique⟩

/-- The same entries, in the order of their keys. -/
def sortedBy (below : Key → Key → Prop) [DecidableRel below]
    (dict : PyDict Key Value) : PyDict Key Value where
  entries :=
    dict.entries.insertionSort fun left right => below left.1 right.1
  unique :=
    ((List.perm_insertionSort _ dict.entries).map Prod.fst).nodup_iff.mpr
      dict.unique

@[simp]
theorem get?_sortedBy (below : Key → Key → Prop) [DecidableRel below]
    (dict : PyDict Key Value) (key : Key) :
    (dict.sortedBy below).get? key = dict.get? key := by
  apply Option.ext
  intro value
  simp only [get?_eq_some_iff, sortedBy, List.mem_insertionSort]

@[simp]
theorem get?_empty (key : Key) :
    (empty : PyDict Key Value).get? key = none :=
  rfl

theorem lookupIn_assignIn (key asked : Key) (value : Value)
    (entries : List (Key × Value)) :
    lookupIn asked (assignIn key value entries) =
      if asked = key then some value else lookupIn asked entries := by
  induction entries with
  | nil =>
      by_cases same : asked = key
      · simp [assignIn, lookupIn, same]
      · have different : ¬ key = asked := fun equal => same equal.symm
        simp [assignIn, lookupIn, same, different]
  | cons entry rest induction =>
      obtain ⟨present, old⟩ := entry
      by_cases here : present = key
      · subst here
        by_cases same : asked = present
        · simp [assignIn, lookupIn, same]
        · have different : ¬ present = asked := fun equal => same equal.symm
          simp [assignIn, lookupIn, same, different]
      · by_cases found : present = asked
        · subst found
          simp [assignIn, lookupIn, here]
        · simp [assignIn, lookupIn, here, found, induction]

/-- Assignment changes exactly the slot it names. -/
theorem get?_assign (dict : PyDict Key Value) (key asked : Key)
    (value : Value) :
    (dict.assign key value).get? asked =
      if asked = key then some value else dict.get? asked :=
  lookupIn_assignIn key asked value dict.entries

@[simp]
theorem get?_assign_self (dict : PyDict Key Value) (key : Key)
    (value : Value) :
    (dict.assign key value).get? key = some value := by
  simp [get?_assign]

theorem lookupIn_append (asked : Key) (front back : List (Key × Value)) :
    lookupIn asked (front ++ back) =
      (lookupIn asked front).or (lookupIn asked back) := by
  induction front with
  | nil => rfl
  | cons entry rest induction =>
      obtain ⟨present, value⟩ := entry
      by_cases here : present = asked
      · simp [lookupIn, here]
      · simp [lookupIn, here, induction]

theorem get?_foldl_assign (dict : PyDict Key Value)
    (entries : List (Key × Value)) (asked : Key) :
    (entries.foldl (fun dict entry => dict.assign entry.1 entry.2)
      dict).get? asked =
        (lookupIn asked entries.reverse).or (dict.get? asked) := by
  induction entries generalizing dict with
  | nil => rfl
  | cons entry rest induction =>
      obtain ⟨key, value⟩ := entry
      rw [List.foldl_cons, induction, List.reverse_cons, lookupIn_append,
        Option.or_assoc, get?_assign]
      congr 1
      by_cases here : asked = key
      · simp [lookupIn, here]
      · have different : ¬ key = asked := fun same => here same.symm
        simp [lookupIn, here, different]

/-- In a literal the last entry of a key counts. -/
theorem get?_ofList (entries : List (Key × Value)) (asked : Key) :
    (ofList entries).get? asked = lookupIn asked entries.reverse := by
  rw [ofList, get?_foldl_assign, get?_empty, Option.or_none]

theorem mem_of_get?_ofList {entries : List (Key × Value)} {key : Key}
    {value : Value} (held : (ofList entries).get? key = some value) :
    (key, value) ∈ entries := by
  rw [get?_ofList] at held
  exact List.mem_reverse.mp (mem_of_lookupIn held)

theorem exists_get?_ofList {entries : List (Key × Value)} {key : Key}
    {value : Value} (member : (key, value) ∈ entries) :
    ∃ last, (ofList entries).get? key = some last := by
  rw [get?_ofList, ← Option.ne_none_iff_exists', ne_eq,
    lookupIn_eq_none_iff, not_not]
  exact List.mem_map.mpr ⟨_, List.mem_reverse.mpr member, rfl⟩

theorem get?_assign_of_ne (dict : PyDict Key Value) {key asked : Key}
    (value : Value) (different : asked ≠ key) :
    (dict.assign key value).get? asked = dict.get? asked := by
  simp [get?_assign, different]

theorem get?_pop (dict : PyDict Key Value) (key asked : Key) :
    (dict.pop key).get? asked =
      if asked = key then none else dict.get? asked := by
  unfold get? pop
  simp only
  induction dict.entries with
  | nil => simp [lookupIn]
  | cons entry rest induction =>
      obtain ⟨present, old⟩ := entry
      by_cases removed : present = key
      · subst removed
        by_cases same : asked = present
        · simpa [same] using induction
        · have different : ¬ present = asked := fun equal => same equal.symm
          simpa [lookupIn, same, different] using induction
      · by_cases found : present = asked
        · subst found
          simp [lookupIn, removed]
        · simpa [lookupIn, removed, found] using induction

theorem mem_keys_iff (dict : PyDict Key Value) (key : Key) :
    key ∈ dict.keys ↔ ∃ value, dict.get? key = some value := by
  rw [← Option.ne_none_iff_exists', ne_eq, get?, lookupIn_eq_none_iff,
    not_not]
  rfl

/-- Writing back the value a slot already holds changes nothing. -/
theorem assign_eq_self_iff (dict : PyDict Key Value) (key : Key)
    (value : Value) :
    dict.assign key value = dict ↔ dict.get? key = some value := by
  constructor
  · intro equal
    rw [← equal, get?_assign_self]
  · intro held
    exact ext_entries (assignIn_eq_self held)

end PyDict

end Python
