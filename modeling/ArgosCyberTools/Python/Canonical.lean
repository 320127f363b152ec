import ArgosCyberTools.Coding.Separated
import ArgosCyberTools.Python.Collections
import ArgosCyberTools.Python.JsonEquality
import ArgosCyberTools.Python.JsonText

/-!
# The canonical text is faithful

Plain values have the same canonical text exactly when they are the same up
to the order of object keys.  A text is read from its first symbol: a string,
a list and an object each begin with a symbol of their own, and a bare word
ends where a comma or a closing bracket follows.  The keys of an object are
sorted, so objects with the same entries are written alike.
-/

namespace Python

open Coding

theorem joinWith_eq_intercalate (separator : PyStr) (pieces : List PyStr) :
    PyStr.joinWith separator pieces = separator.intercalate pieces := by
  induction pieces with
  | nil => rfl
  | cons head tail induction =>
      cases tail with
      | nil => rw [PyStr.joinWith, List.intercalate_singleton]
      | cons next rest =>
          rw [PyStr.joinWith, induction, List.intercalate_cons_cons]

/-- With distinct keys the order of the entries does not matter. -/
theorem insertionSort_keys_congr {Value : Type}
    {entries others : List (PyStr × Value)}
    (unique : (entries.map Prod.fst).Nodup)
    (perm : entries.Perm others) :
    entries.insertionSort (fun left right => left.1 ≤ right.1) =
      others.insertionSort fun left right => left.1 ≤ right.1 := by
  have otherUnique : (others.map Prod.fst).Nodup :=
    ((perm.map Prod.fst).nodup_iff).mp unique
  have same (key : PyStr) :
      (PyDict.mk entries unique).get? key =
        (PyDict.mk others otherUnique).get? key := by
    apply Option.ext
    intro value
    rw [PyDict.get?_eq_some_iff, PyDict.get?_eq_some_iff]
    exact perm.mem_iff
  exact congrArg PyDict.entries
    (PyDict.sortedBy_congr (· ≤ ·) (fun _ _ => le_antisymm) same)

theorem sortByKey_congr {entries others : List (PyStr × PyStr)}
    (unique : (entries.map Prod.fst).Nodup)
    (perm : entries.Perm others) :
    sortByKey entries = sortByKey others :=
  insertionSort_keys_congr unique perm

namespace Json

section Shapes

/-! ## First symbols -/

/-- The symbol a string, a list or an object begins with. -/
def bracket : Json → Option CodePoint
  | .str _ => some 0x22
  | .list _ => some 0x5B
  | .dict _ => some 0x7B
  | _ => none

/-- The whole text of a value that is written without brackets. -/
def bareWord : Json → Option PyStr
  | .null => some "null"
  | .bool value => some (if value then "true" else "false")
  | .int value => some (PyStr.ofInt value)
  | _ => none

/-- The symbols of numerals and of `null`, `true` and `false`. -/
def IsBare (symbol : CodePoint) : Prop :=
  0x2D ≤ symbol.val ∧ symbol.val < 0x3A ∨
    0x61 ≤ symbol.val ∧ symbol.val ≤ 0x7A

instance (symbol : CodePoint) : Decidable (IsBare symbol) :=
  inferInstanceAs (Decidable (_ ∨ _))

/-- What may follow a value: a comma or a closing bracket. -/
def valueEnds : Set CodePoint := {0x2C, 0x5D, 0x7D}

theorem comma_mem_valueEnds : (0x2C : CodePoint) ∈ valueEnds := .inl rfl

theorem closeBracket_mem_valueEnds : (0x5D : CodePoint) ∈ valueEnds :=
  .inr (.inl rfl)

theorem closeBrace_mem_valueEnds : (0x7D : CodePoint) ∈ valueEnds :=
  .inr (.inr rfl)

variable {value other : Json} {word : PyStr} {symbol : CodePoint}

theorem IsBare.not_mem_valueEnds (bare : IsBare symbol) :
    symbol ∉ valueEnds := by
  rintro (rfl | rfl | rfl) <;> revert bare <;> decide

theorem not_isBare_of_bracket (opened : value.bracket = some symbol) :
    ¬ IsBare symbol := by
  cases value <;> cases opened <;> decide

theorem not_mem_valueEnds_of_bracket (opened : value.bracket = some symbol) :
    symbol ∉ valueEnds := by
  cases value <;> cases opened <;> rintro (same | same | same) <;>
    exact absurd same (by decide)

theorem isBare_of_mem_bareWord (written : value.bareWord = some word) :
    ∀ symbol ∈ word, IsBare symbol := by
  have spelled (text : PyStr)
      (all : (text.all fun symbol => decide (IsBare symbol)) = true) :
      ∀ symbol ∈ text, IsBare symbol := by
    simpa using all
  cases value with
  | null =>
      cases written
      exact spelled _ (by decide)
  | bool truth =>
      cases truth <;> cases written <;> exact spelled _ (by decide)
  | int number =>
      cases written
      intro symbol member
      exact .inl (PyStr.ofInt_symbols number symbol member)
  | _ => cases written

theorem bareWord_ne_nil (written : value.bareWord = some word) :
    word ≠ [] := by
  cases value with
  | null =>
      cases written
      exact List.cons_ne_nil _ _
  | bool truth =>
      cases truth <;> cases written <;> exact List.cons_ne_nil _ _
  | int number =>
      cases written
      exact PyStr.ofInt_ne_nil number
  | _ => cases written

/-- A bare word spelled like a numeral is that number. -/
theorem eq_int_of_bareWord {number : Int}
    (written : value.bareWord = some (PyStr.ofInt number)) :
    value = .int number := by
  cases value with
  | null =>
      have equal := Option.some.inj written.symm
      exact (PyStr.ofInt_ne_word List.mem_cons_self (by decide) equal).elim
  | bool value =>
      have equal := Option.some.inj written.symm
      cases value <;>
        exact (PyStr.ofInt_ne_word List.mem_cons_self (by decide) equal).elim
  | int other =>
      rw [PyStr.ofInt_injective (Option.some.inj written)]
  | _ => cases written

theorem eq_of_bareWord (written : value.bareWord = some word)
    (otherWritten : other.bareWord = some word) : value = other := by
  cases value with
  | int number =>
      cases written
      exact (eq_int_of_bareWord otherWritten).symm
  | null =>
      cases other with
      | int number =>
          cases otherWritten
          exact eq_int_of_bareWord written
      | null => rfl
      | bool truth =>
          cases written
          cases truth <;> exact absurd otherWritten (by decide)
      | _ => cases otherWritten
  | bool truth =>
      cases other with
      | int number =>
          cases otherWritten
          exact eq_int_of_bareWord written
      | null =>
          cases otherWritten
          cases truth <;> exact absurd written (by decide)
      | bool otherTruth =>
          cases written
          cases truth <;> cases otherTruth <;>
            first
              | rfl
              | exact absurd otherWritten (by decide)
      | _ => cases otherWritten
  | _ => cases written

theorem same_self_of_bareWord (written : value.bareWord = some word) :
    value.same value = true := by
  cases value with
  | null => rfl
  | bool truth => exact decide_eq_true rfl
  | int number => exact decide_eq_true rfl
  | _ => cases written

/-- A plain value is a bare word or begins with a bracket of its own. -/
theorem Plain.bareWord_or_bracket (plain : value.Plain) :
    (∃ word, value.bareWord = some word) ∨
      ∃ symbol, value.bracket = some symbol := by
  cases plain with
  | null => exact .inl ⟨_, rfl⟩
  | bool truth => exact .inl ⟨_, rfl⟩
  | int number => exact .inl ⟨_, rfl⟩
  | str scalar => exact .inr ⟨_, rfl⟩
  | list plain => exact .inr ⟨_, rfl⟩
  | dict unique scalar plain => exact .inr ⟨_, rfl⟩

end Shapes

/-! ## Sorted entries -/

/-- The entries of an object in the order they are written in. -/
def sortEntries (entries : List (PyStr × Json)) : List (PyStr × Json) :=
  entries.insertionSort fun left right => left.1 ≤ right.1

theorem mem_sortEntries {entry : PyStr × Json} {entries : List (PyStr × Json)} :
    entry ∈ sortEntries entries ↔ entry ∈ entries :=
  List.mem_insertionSort _

theorem sortEntries_perm (entries : List (PyStr × Json)) :
    (sortEntries entries).Perm entries :=
  List.perm_insertionSort _ entries

variable [PyRuntime] {value left right : Json}

/-- The canonical text of one entry. -/
def dumpsEntry (entry : PyStr × Json) : PyStr :=
  quoteJson entry.1 ++ ":" ++ entry.2.dumps

theorem dumpsItems_eq_map (items : List Json) :
    dumpsItems items = items.map dumps := by
  induction items with
  | nil => rfl
  | cons item items induction => rw [dumpsItems, induction, List.map_cons]

theorem dumpsEntries_eq_map (entries : List (PyStr × Json)) :
    dumpsEntries entries =
      entries.map fun entry => (entry.1, entry.2.dumps) := by
  induction entries with
  | nil => rfl
  | cons entry entries induction =>
      rw [dumpsEntries, induction, List.map_cons]

/-- Whether entries are sorted before or after their values are written. -/
theorem sortByKey_dumpsEntries (entries : List (PyStr × Json)) :
    sortByKey (dumpsEntries entries) =
      (sortEntries entries).map fun entry => (entry.1, entry.2.dumps) := by
  rw [dumpsEntries_eq_map, sortByKey, sortEntries]
  symm
  apply List.map_insertionSort
  intro entry _ other _
  exact Iff.rfl

theorem dumps_list (items : List Json) :
    (Json.list items).dumps =
      (0x5B : CodePoint) ::
        ([(0x2C : CodePoint)].intercalate (items.map dumps) ++
          [(0x5D : CodePoint)]) := by
  rw [dumps, dumpsItems_eq_map, joinWith_eq_intercalate]
  rfl

theorem dumps_dict (entries : List (PyStr × Json)) :
    (Json.dict entries).dumps =
      (0x7B : CodePoint) ::
        ([(0x2C : CodePoint)].intercalate
            ((sortEntries entries).map dumpsEntry) ++
          [(0x7D : CodePoint)]) := by
  rw [dumps, sortByKey_dumpsEntries, List.map_map, joinWith_eq_intercalate]
  rfl

/-! ## The same values are written alike -/

/-- Objects with the same entries hold the same written entries. -/
theorem dumpsEntries_perm {entries others : List (PyStr × Json)}
    (unique : (entries.map Prod.fst).Nodup)
    (length : entries.length = others.length)
    (written : ∀ entry ∈ entries, ∃ other,
      PyDict.lookupIn entry.1 others = some other ∧
        entry.2.dumps = other.dumps) :
    (dumpsEntries entries).Perm (dumpsEntries others) := by
  rw [dumpsEntries_eq_map, dumpsEntries_eq_map]
  have distinct :
      (entries.map fun entry => (entry.1, entry.2.dumps)).Nodup := by
    apply List.Nodup.of_map Prod.fst
    rw [List.map_map]
    exact unique
  refine (List.subperm_of_subset distinct ?_).perm_of_length_le ?_
  · intro writtenEntry member
    obtain ⟨entry, source, rfl⟩ := List.mem_map.mp member
    obtain ⟨other, held, alike⟩ := written entry source
    exact List.mem_map.mpr
      ⟨(entry.1, other), PyDict.mem_of_lookupIn held, by rw [alike]⟩
  · rw [List.length_map, List.length_map, length]

theorem Plain.dumps_congr (plain : left.Plain) (same : left.same right = true) :
    left.dumps = right.dumps := by
  induction plain generalizing right with
  | null =>
      cases right with
      | null => rfl
      | _ => cases same
  | bool value =>
      cases right with
      | bool other =>
          obtain rfl : value = other := of_decide_eq_true same
          rfl
      | _ => cases same
  | int value =>
      cases right with
      | int other =>
          obtain rfl : value = other := of_decide_eq_true same
          rfl
      | _ => cases same
  | @str value scalar =>
      cases right with
      | str other =>
          obtain rfl : value = other := of_decide_eq_true same
          rfl
      | _ => cases same
  | @list items plain induction =>
      cases right with
      | list others =>
          have alike : items.map dumps = others.map dumps := by
            rw [← List.forall₂_eq_eq_eq, List.forall₂_map_left_iff,
              List.forall₂_map_right_iff]
            have pairs :=
              (List.forall₂_and_left items others).mpr
                ⟨induction, same_list_iff.mp same⟩
            exact pairs.imp fun item other holds => holds.1 holds.2
          rw [dumps_list, dumps_list, alike]
      | _ => cases same
  | @dict entries unique scalar plain induction =>
      cases right with
      | dict others =>
          obtain ⟨length, held⟩ := same_dict_iff.mp same
          have perm := dumpsEntries_perm unique length fun entry member => by
            obtain ⟨other, found, alike⟩ := held entry member
            exact ⟨other, found, induction entry member alike⟩
          have keys : ((dumpsEntries entries).map Prod.fst).Nodup := by
            rw [dumpsEntries_eq_map, List.map_map]
            exact unique
          rw [dumps, dumps, sortByKey_congr keys perm]
      | _ => cases same

/-! ## Different values are written differently -/

theorem dumps_of_bareWord {word : PyStr}
    (written : value.bareWord = some word) : value.dumps = word := by
  cases value <;> cases written <;> rfl

theorem dumps_of_bracket {symbol : CodePoint}
    (opened : value.bracket = some symbol) :
    ∃ rest, value.dumps = symbol :: rest := by
  cases value with
  | str text =>
      cases opened
      exact ⟨_, rfl⟩
  | list items =>
      cases opened
      exact ⟨_, dumps_list items⟩
  | dict entries =>
      cases opened
      exact ⟨_, dumps_dict entries⟩
  | _ => cases opened

/-- No value begins with a symbol that may follow one. -/
theorem Plain.exists_dumps_eq_cons (plain : value.Plain) :
    ∃ first rest, value.dumps = first :: rest ∧ first ∉ valueEnds := by
  rcases plain.bareWord_or_bracket with ⟨word, written⟩ | ⟨symbol, opened⟩
  · obtain ⟨first, rest, rfl⟩ :=
      List.exists_cons_of_ne_nil (bareWord_ne_nil written)
    have bare := isBare_of_mem_bareWord written first List.mem_cons_self
    exact ⟨first, rest, dumps_of_bareWord written, bare.not_mem_valueEnds⟩
  · obtain ⟨rest, code⟩ := dumps_of_bracket opened
    exact ⟨symbol, rest, code, not_mem_valueEnds_of_bracket opened⟩

section Peeling

variable {ends : Set CodePoint} {fact : Prop} {word : PyStr}
  {symbol other : CodePoint}

theorem peels_of_brackets_ne (opened : left.bracket = some symbol)
    (otherOpened : right.bracket = some other) (differ : symbol ≠ other) :
    Peels ends left.dumps right.dumps fact := by
  obtain ⟨rest, code⟩ := dumps_of_bracket opened
  obtain ⟨otherRest, otherCode⟩ := dumps_of_bracket otherOpened
  rw [code, otherCode]
  exact .of_heads_ne differ

/-- A bare word begins with no bracket. -/
theorem peels_of_bareWord_of_bracket (written : left.bareWord = some word)
    (opened : right.bracket = some symbol) :
    Peels ends left.dumps right.dumps fact := by
  obtain ⟨first, rest, rfl⟩ :=
    List.exists_cons_of_ne_nil (bareWord_ne_nil written)
  have bare := isBare_of_mem_bareWord written first List.mem_cons_self
  obtain ⟨otherRest, code⟩ := dumps_of_bracket opened
  rw [dumps_of_bareWord written, code]
  apply Peels.of_heads_ne
  rintro rfl
  exact not_isBare_of_bracket opened bare

theorem peels_of_bracket_of_bareWord (opened : left.bracket = some symbol)
    (written : right.bareWord = some word) :
    Peels ends left.dumps right.dumps fact :=
  (peels_of_bareWord_of_bracket written opened).symm

/-- A bare word is read up to the symbol that follows it. -/
theorem peels_of_bareWord (written : left.bareWord = some word)
    (rightPlain : right.Plain) :
    Peels valueEnds left.dumps right.dumps (left.same right = true) := by
  rcases rightPlain.bareWord_or_bracket with
    ⟨otherWord, otherWritten⟩ | ⟨symbol, opened⟩
  · have free : Peels valueEnds word otherWord (word = otherWord) :=
      .of_free
        (fun symbol member =>
          (isBare_of_mem_bareWord written symbol member).not_mem_valueEnds)
        (fun symbol member =>
          (isBare_of_mem_bareWord otherWritten symbol member).not_mem_valueEnds)
    rw [dumps_of_bareWord written, dumps_of_bareWord otherWritten]
    apply free.imp
    rintro rfl
    rw [eq_of_bareWord written otherWritten]
    exact same_self_of_bareWord otherWritten
  · exact peels_of_bareWord_of_bracket written opened

end Peeling

/-- Entries that are written alike have equal keys and peelable values. -/
theorem peels_dumpsEntry {entry other : PyStr × Json} {fact : Prop}
    (scalar : SurrogateFree entry.1) (otherScalar : SurrogateFree other.1)
    (peels : Peels valueEnds entry.2.dumps other.2.dumps fact) :
    Peels valueEnds (dumpsEntry entry) (dumpsEntry other)
      (entry.1 = other.1 ∧ fact) := by
  rw [dumpsEntry, dumpsEntry, List.append_assoc, List.append_assoc]
  exact quoteJson_selfDelimiting.peels_append scalar otherScalar
    (peels.prepend ":")

omit [PyRuntime] in
/-- Objects whose sorted entries correspond are the same. -/
theorem same_dict_of_sortEntries {entries others : List (PyStr × Json)}
    (otherUnique : (others.map Prod.fst).Nodup)
    (pairs : List.Forall₂
      (fun entry other => entry.1 = other.1 ∧ entry.2.same other.2 = true)
      (sortEntries entries) (sortEntries others)) :
    (Json.dict entries).same (.dict others) = true := by
  apply same_dict_iff.mpr
  constructor
  · rw [← (sortEntries_perm entries).length_eq, pairs.length_eq,
      (sortEntries_perm others).length_eq]
  · intro entry member
    obtain ⟨position, bound, rfl⟩ :=
      List.mem_iff_getElem.mp (mem_sortEntries.mpr member)
    have otherBound : position < (sortEntries others).length :=
      pairs.length_eq ▸ bound
    have pair := pairs.get bound otherBound
    simp only [List.get_eq_getElem] at pair
    obtain ⟨keys, values⟩ := pair
    have held := mem_sortEntries.mp (List.getElem_mem otherBound)
    refine ⟨(sortEntries others)[position].2, ?_, values⟩
    rw [keys]
    exact PyDict.lookupIn_of_mem otherUnique held

/-- The canonical text of a plain value is read in one way. -/
theorem Plain.peels_dumps (leftPlain : left.Plain)
    (rightPlain : right.Plain) :
    Peels valueEnds left.dumps right.dumps (left.same right = true) := by
  -- The first symbol fixes the shape; items and sorted entries are peeled in
  -- turn, each with the hypothesis for the value on the left.
  induction leftPlain generalizing right with
  | null => exact peels_of_bareWord rfl rightPlain
  | bool truth => exact peels_of_bareWord rfl rightPlain
  | int number => exact peels_of_bareWord rfl rightPlain
  | @str text scalar =>
      cases rightPlain with
      | str otherScalar =>
          exact (quoteJson_selfDelimiting.peels scalar otherScalar).imp
            decide_eq_true
      | list | dict => exact peels_of_brackets_ne rfl rfl (by decide)
      | null | bool | int => exact peels_of_bracket_of_bareWord rfl rfl
  | @list items plain induction =>
      cases rightPlain with
      | @list others otherPlain =>
          have fresh (item : Json) (member : item ∈ items ∨ item ∈ others) :
              ∃ first rest, item.dumps = first :: rest ∧ first ≠ 0x5D := by
            have itemPlain := member.elim (plain item) (otherPlain item)
            obtain ⟨first, rest, code, opens⟩ := itemPlain.exists_dumps_eq_cons
            refine ⟨first, rest, code, ?_⟩
            rintro rfl
            exact opens closeBracket_mem_valueEnds
          have pairs (item : Json) (member : item ∈ items) (other : Json)
              (otherMember : other ∈ others) :
              Peels valueEnds item.dumps other.dumps
                (item.same other = true) :=
            induction item member (otherPlain other otherMember)
          have peels : Peels valueEnds _ _ _ :=
            peels_separated comma_mem_valueEnds closeBracket_mem_valueEnds
              (by decide) fresh pairs
          rw [dumps_list, dumps_list]
          exact (peels.imp same_list_iff.mpr).prepend [0x5B]
      | str | dict => exact peels_of_brackets_ne rfl rfl (by decide)
      | null | bool | int => exact peels_of_bracket_of_bareWord rfl rfl
  | @dict entries unique scalar plain induction =>
      cases rightPlain with
      | @dict others otherUnique otherScalar otherPlain =>
          have fresh (entry : PyStr × Json)
              (_ : entry ∈ sortEntries entries ∨ entry ∈ sortEntries others) :
              ∃ first rest, dumpsEntry entry = first :: rest ∧ first ≠ 0x7D :=
            ⟨0x22, _, rfl, by decide⟩
          have pairs (entry : PyStr × Json) (member : entry ∈ sortEntries entries)
              (other : PyStr × Json) (otherMember : other ∈ sortEntries others) :
              Peels valueEnds (dumpsEntry entry) (dumpsEntry other)
                (entry.1 = other.1 ∧ entry.2.same other.2 = true) := by
            replace member := mem_sortEntries.mp member
            replace otherMember := mem_sortEntries.mp otherMember
            exact peels_dumpsEntry (scalar entry member)
              (otherScalar other otherMember)
              (induction entry member (otherPlain other otherMember))
          have peels : Peels valueEnds _ _ _ :=
            peels_separated comma_mem_valueEnds closeBrace_mem_valueEnds
              (by decide) fresh pairs
          rw [dumps_dict, dumps_dict]
          exact (peels.imp (same_dict_of_sortEntries otherUnique)).prepend
            [0x7B]
      | str | list => exact peels_of_brackets_ne rfl rfl (by decide)
      | null | bool | int => exact peels_of_bracket_of_bareWord rfl rfl

/-- Plain values are written alike exactly when they are the same. -/
theorem Plain.dumps_eq_iff (leftPlain : left.Plain)
    (rightPlain : right.Plain) :
    left.dumps = right.dumps ↔ left.same right = true :=
  ⟨(leftPlain.peels_dumps rightPlain).of_eq, leftPlain.dumps_congr⟩

end Json

end Python
