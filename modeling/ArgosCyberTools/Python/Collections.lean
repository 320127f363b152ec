import ArgosCyberTools.Python.Dict

/-!
# Sorted sets and dictionaries filled by a loop

`sorted` on a list, on a set and on the items of a dictionary, and the
dictionary a loop fills under a key of each value: the last value filed under
a key counts.  What comes out sorted depends on the members only, and with
distinct keys what a dictionary holds does not depend on the order of the
loop.
-/

namespace Python

/-! ## Sorting -/

section Sorting

variable {Item : Type} [LinearOrder Item] {items others : List Item}

/-- `sorted(items)`. -/
def sorted (items : List Item) : List Item :=
  items.insertionSort (· ≤ ·)

/-- `sorted(set(items))`. -/
def sortedSet (items : List Item) : List Item :=
  sorted items.dedup

@[simp]
theorem mem_sorted {item : Item} : item ∈ sorted items ↔ item ∈ items :=
  List.mem_insertionSort _

theorem sorted_perm (items : List Item) : (sorted items).Perm items :=
  List.perm_insertionSort _ items

/-- The order of the list does not matter. -/
theorem sorted_congr (perm : items.Perm others) : sorted items = sorted others := by
  have rearranged := (sorted_perm items).trans (perm.trans (sorted_perm others).symm)
  exact rearranged.eq_of_pairwise' (List.pairwise_insertionSort _ items)
    (List.pairwise_insertionSort _ others)

@[simp]
theorem mem_sortedSet {item : Item} : item ∈ sortedSet items ↔ item ∈ items := by
  rw [sortedSet, mem_sorted, List.mem_dedup]

theorem nodup_sortedSet (items : List Item) : (sortedSet items).Nodup :=
  (sorted_perm items.dedup).nodup_iff.mpr items.nodup_dedup

/-- A set is determined by its members. -/
theorem sortedSet_congr (same : ∀ item, item ∈ items ↔ item ∈ others) :
    sortedSet items = sortedSet others := by
  apply sorted_congr
  apply (List.perm_ext_iff_of_nodup items.nodup_dedup others.nodup_dedup).mpr
  simpa using same

end Sorting

namespace PyDict

/-! ## Sorted items -/

section SortedItems

variable {Key Value : Type} [DecidableEq Key] (below : Key → Key → Prop)
  [DecidableRel below]

theorem mem_sortedBy {dict : PyDict Key Value} {entry : Key × Value} :
    entry ∈ (dict.sortedBy below).entries ↔
      dict.get? entry.1 = some entry.2 := by
  rw [sortedBy, List.mem_insertionSort, get?_eq_some_iff]

/-- Dictionaries with the same slots have the same entries in some order. -/
theorem entries_perm {left right : PyDict Key Value}
    (same : ∀ key, left.get? key = right.get? key) :
    left.entries.Perm right.entries := by
  apply (List.perm_ext_iff_of_nodup (List.Nodup.of_map Prod.fst left.unique)
    (List.Nodup.of_map Prod.fst right.unique)).mpr
  rintro ⟨key, value⟩
  rw [← get?_eq_some_iff, ← get?_eq_some_iff, same]

/-- The sorted items depend on what the slots hold only. -/
theorem sortedBy_congr [Std.Total below] [IsTrans Key below]
    (antisymm : ∀ left right, below left right → below right left → left = right)
    {left right : PyDict Key Value}
    (same : ∀ key, left.get? key = right.get? key) :
    left.sortedBy below = right.sortedBy below := by
  apply ext_entries
  have sortedSame : ∀ key, (left.sortedBy below).get? key =
      (right.sortedBy below).get? key := by
    intro key
    rw [get?_sortedBy, get?_sortedBy, same]
  have total : Std.Total fun first second : Key × Value =>
      below first.1 second.1 :=
    ⟨fun first second => Std.Total.total first.1 second.1⟩
  have transitive : IsTrans (Key × Value) fun first second =>
      below first.1 second.1 :=
    ⟨fun _ _ _ => IsTrans.trans (r := below) _ _ _⟩
  refine List.Perm.eq_of_pairwise ?_
    (List.pairwise_insertionSort _ left.entries)
    (List.pairwise_insertionSort _ right.entries) (entries_perm sortedSame)
  intro first second firstMember secondMember ordered reversed
  have sameKey := antisymm _ _ ordered reversed
  have firstHeld := (mem_sortedBy below).mp firstMember
  have secondHeld := (mem_sortedBy below).mp secondMember
  rw [sameKey, same, secondHeld] at firstHeld
  exact Prod.ext sameKey (Option.some.inj firstHeld).symm

end SortedItems

/-! ## The last entry counts -/

section Last

variable {Key Value Item : Type} [DecidableEq Key]

theorem lookupIn_eq_some_iff {key : Key} {value : Value}
    {entries : List (Key × Value)} :
    lookupIn key entries = some value ↔
      ∃ front back, entries = front ++ (key, value) :: back ∧
        key ∉ front.map Prod.fst := by
  induction entries with
  | nil => simp [lookupIn]
  | cons entry rest induction =>
      obtain ⟨present, held⟩ := entry
      constructor
      · intro found
        by_cases here : present = key
        · simp only [lookupIn, here, ↓reduceIte, Option.some.injEq] at found
          exact ⟨[], rest, by rw [here, found]; rfl, List.not_mem_nil⟩
        · simp only [lookupIn, here, ↓reduceIte] at found
          obtain ⟨front, back, rfl, absent⟩ := induction.mp found
          refine ⟨(present, held) :: front, back, rfl, ?_⟩
          rw [List.map_cons, List.mem_cons, not_or]
          exact ⟨fun same => here same.symm, absent⟩
      · rintro ⟨front, back, split, absent⟩
        cases front with
        | nil =>
            cases split
            simp [lookupIn]
        | cons first front =>
            cases split
            rw [List.map_cons, List.mem_cons, not_or] at absent
            have different : ¬ present = key := fun same => absent.1 same.symm
            simp only [lookupIn, different, ↓reduceIte]
            exact induction.mpr ⟨front, back, rfl, absent.2⟩

/-- In a literal, an entry counts when no later one has its key. -/
theorem get?_ofList_eq_some_iff {key : Key} {value : Value}
    {entries : List (Key × Value)} :
    (ofList entries).get? key = some value ↔
      ∃ front back, entries = front ++ (key, value) :: back ∧
        key ∉ back.map Prod.fst := by
  rw [get?_ofList, lookupIn_eq_some_iff]
  constructor
  · rintro ⟨front, back, split, absent⟩
    refine ⟨back.reverse, front.reverse, ?_, ?_⟩
    · have reversed := congrArg List.reverse split
      simpa using reversed
    · simpa using absent
  · rintro ⟨front, back, rfl, absent⟩
    refine ⟨back.reverse, front.reverse, by simp, ?_⟩
    simpa using absent

/-- The dictionary a loop fills with what its items declare, under its key. -/
def tabulate (declared : Item → Option Value) (keyOf : Value → Key)
    (items : List Item) : PyDict Key Value :=
  ofList ((items.filterMap declared).map fun value => (keyOf value, value))

variable {declared : Item → Option Value} {keyOf : Value → Key}
  {items others : List Item} {key : Key} {value : Value}

/-- One more turn of the loop. -/
theorem tabulate_concat (items : List Item) (item : Item) :
    tabulate declared keyOf (items ++ [item]) =
      match declared item with
      | some value =>
          (tabulate declared keyOf items).assign (keyOf value) value
      | none => tabulate declared keyOf items := by
  cases here : declared item <;>
    simp [tabulate, ofList, List.filterMap_append, here]

omit [DecidableEq Key] in
theorem mem_map_fst_filed {values : List Value} :
    key ∈ (values.map fun value => (keyOf value, value)).map Prod.fst ↔
      ∃ value ∈ values, keyOf value = key := by
  simp

/-- The last item that declares something under the key counts. -/
theorem get?_tabulate_eq_some_iff :
    (tabulate declared keyOf items).get? key = some value ↔
      keyOf value = key ∧
        ∃ front item back, items = front ++ item :: back ∧
          declared item = some value ∧
          ∀ later ∈ back, ∀ other, declared later = some other →
            keyOf other ≠ key := by
  rw [tabulate, get?_ofList_eq_some_iff]
  constructor
  · rintro ⟨front, back, split, absent⟩
    obtain ⟨firsts, filed, frontEq, restEq, backSplit⟩ :=
      List.map_eq_append_iff.mp split
    obtain ⟨last, lasts, rfl, isLast, rfl⟩ := List.map_eq_cons_iff.mp backSplit
    cases isLast
    obtain ⟨before, after, rfl, rfl, afterEq⟩ :=
      List.filterMap_eq_append_iff.mp frontEq
    obtain ⟨skipped, item, later, rfl, none, here, rfl⟩ :=
      List.filterMap_eq_cons_iff.mp afterEq
    refine ⟨rfl, before ++ skipped, item, later, by simp, here, ?_⟩
    intro other member declaredOther isOther same
    apply absent
    exact mem_map_fst_filed.mpr
      ⟨declaredOther, List.mem_filterMap.mpr ⟨other, member, isOther⟩, same⟩
  · rintro ⟨rfl, front, item, back, rfl, here, later⟩
    refine ⟨(front.filterMap declared).map fun value => (keyOf value, value),
      (back.filterMap declared).map fun value => (keyOf value, value), ?_, ?_⟩
    · simp [List.filterMap_append, here]
    · rw [mem_map_fst_filed]
      rintro ⟨other, member, same⟩
      obtain ⟨source, isSource, isDeclared⟩ := List.mem_filterMap.mp member
      exact later source isSource other isDeclared same

/-- What is held was declared. -/
theorem exists_declared_of_get?_tabulate
    (held : (tabulate declared keyOf items).get? key = some value) :
    keyOf value = key ∧ ∃ item ∈ items, declared item = some value := by
  obtain ⟨filed, front, item, back, rfl, here, -⟩ :=
    get?_tabulate_eq_some_iff.mp held
  exact ⟨filed, item, by simp, here⟩

/-- A slot is filled when some item declares something under its key. -/
theorem exists_get?_tabulate_iff :
    (∃ value, (tabulate declared keyOf items).get? key = some value) ↔
      ∃ item ∈ items, ∃ value, declared item = some value ∧
        keyOf value = key := by
  constructor
  · rintro ⟨value, held⟩
    obtain ⟨filed, item, member, here⟩ := exists_declared_of_get?_tabulate held
    exact ⟨item, member, value, here, filed⟩
  · rintro ⟨item, member, value, here, filed⟩
    have entry : (key, value) ∈
        (items.filterMap declared).map fun value => (keyOf value, value) :=
      List.mem_map.mpr
        ⟨value, List.mem_filterMap.mpr ⟨item, member, here⟩, by rw [filed]⟩
    exact exists_get?_ofList entry

omit [DecidableEq Key] in
/-- Keys are distinct when no two items declare something under one key. -/
theorem nodup_keys_of_pairwise
    (distinct : items.Pairwise fun first second => ∀ value other,
      declared first = some value → declared second = some other →
        keyOf value ≠ keyOf other) :
    ((items.filterMap declared).map keyOf).Nodup := by
  rw [List.Nodup, List.pairwise_map, List.pairwise_filterMap]
  apply distinct.imp
  intro first second differ value isValue other isOther
  exact differ value other isValue isOther

/-- With distinct keys every declaration is held. -/
theorem get?_tabulate_of_distinct
    (distinct : ((items.filterMap declared).map keyOf).Nodup) :
    (tabulate declared keyOf items).get? key = some value ↔
      keyOf value = key ∧ ∃ item ∈ items, declared item = some value := by
  have unique : (((items.filterMap declared).map fun value =>
      (keyOf value, value)).map Prod.fst).Nodup := by
    simpa [List.map_map, Function.comp_def] using distinct
  rw [tabulate, get?_eq_some_iff, entries_ofList unique, List.mem_map]
  constructor
  · rintro ⟨other, member, equal⟩
    cases equal
    exact ⟨rfl, List.mem_filterMap.mp member⟩
  · rintro ⟨rfl, item⟩
    exact ⟨value, List.mem_filterMap.mpr item, rfl⟩

/-- So the order of the items does not matter. -/
theorem get?_tabulate_perm
    (distinct : ((items.filterMap declared).map keyOf).Nodup)
    (perm : items.Perm others) :
    (tabulate declared keyOf items).get? key =
      (tabulate declared keyOf others).get? key := by
  have otherDistinct : ((others.filterMap declared).map keyOf).Nodup :=
    (((perm.filterMap declared).map keyOf).nodup_iff).mp distinct
  apply Option.ext
  intro value
  rw [get?_tabulate_of_distinct distinct,
    get?_tabulate_of_distinct otherDistinct]
  simp only [perm.mem_iff]

/-- An item that declares nothing under a key leaves its slot alone. -/
theorem get?_tabulate_insert {front back : List Item} {item : Item}
    (elsewhere : ∀ value, declared item = some value → keyOf value ≠ key) :
    (tabulate declared keyOf (front ++ item :: back)).get? key =
      (tabulate declared keyOf (front ++ back)).get? key := by
  cases here : declared item with
  | none =>
      simp [tabulate, List.filterMap_append, here]
  | some value =>
      have different : ¬ keyOf value = key := elsewhere value here
      simp only [tabulate, get?_ofList, List.filterMap_append,
        List.filterMap_cons, here, List.map_append, List.map_cons,
        List.reverse_append, List.reverse_cons, lookupIn_append, lookupIn,
        different, ↓reduceIte, Option.or_none]

end Last

/-! ## First occurrences -/

section FirstSeen

variable {Item : Type} [DecidableEq Item] {items others : List Item}

/-- `dict.setdefault(key, value)` as an update. -/
def setDefault {Value : Type} (dict : PyDict Item Value) (key : Item)
    (value : Value) : PyDict Item Value :=
  if dict.contains key then dict else dict.assign key value

/-- A dictionary whose keys are the items, by their first occurrence. -/
def firstSeen (items : List Item) : PyDict Item Unit :=
  items.foldl (fun seen item => seen.setDefault item ()) empty

theorem mem_keys_setDefault {seen : PyDict Item Unit} {item key : Item} :
    key ∈ (seen.setDefault item ()).keys ↔ key = item ∨ key ∈ seen.keys := by
  unfold setDefault
  split_ifs with present
  · constructor
    · exact .inr
    · rintro (rfl | member)
      · exact (mem_keys_iff seen key).mpr (Option.isSome_iff_exists.mp present)
      · exact member
  · rw [mem_keys_iff, mem_keys_iff, get?_assign]
    split_ifs with same <;> simp [same]

theorem mem_keys_foldl_setDefault {seen : PyDict Item Unit} {key : Item} :
    key ∈ (items.foldl (fun seen item => seen.setDefault item ()) seen).keys ↔
      key ∈ items ∨ key ∈ seen.keys := by
  induction items generalizing seen with
  | nil => simp
  | cons item rest induction =>
      rw [List.foldl_cons, induction, mem_keys_setDefault, List.mem_cons]
      tauto

@[simp]
theorem mem_keys_firstSeen {key : Item} :
    key ∈ (firstSeen items).keys ↔ key ∈ items := by
  rw [firstSeen, mem_keys_foldl_setDefault]
  exact or_iff_left List.not_mem_nil

/-- The same items are seen, in whatever order. -/
theorem keys_firstSeen_perm (same : ∀ item, item ∈ items ↔ item ∈ others) :
    (firstSeen items).keys.Perm (firstSeen others).keys := by
  apply (List.perm_ext_iff_of_nodup (firstSeen items).unique
    (firstSeen others).unique).mpr
  intro item
  exact mem_keys_firstSeen.trans ((same item).trans mem_keys_firstSeen.symm)

end FirstSeen

end PyDict

end Python
