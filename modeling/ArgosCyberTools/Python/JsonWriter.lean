import ArgosCyberTools.Python.JsonScalars

/-!
# `json.dumps` with indentation, and reading it back

The documents the program keeps on disk are written with `indent=2`.  A style
says how lines are broken and what stands behind a colon; every plain value
whose integers are short is read back from its text in any style, with the
keys of its objects in order.
-/

namespace Python

open Coding

/-- How `json.dumps` breaks lines and separates values from their keys. -/
structure JsonStyle where
  /-- What stands in front of an item or a closing bracket of a level. -/
  newline : Nat → PyStr
  /-- What stands behind a colon. -/
  colonGap : PyStr
  newlineBlank : ∀ level, ∀ point ∈ newline level, point = 0x0A ∨ point = 0x20
  colonGapBlank : ∀ point ∈ colonGap, point = 0x0A ∨ point = 0x20

/-- `indent=width`. -/
def JsonStyle.indented (width : Nat) : JsonStyle where
  newline level := 0x0A :: List.replicate (width * level) 0x20
  colonGap := [0x20]
  newlineBlank level := by
    intro point member
    rcases List.mem_cons.mp member with rfl | indent
    · exact .inl rfl
    · exact .inr (List.eq_of_mem_replicate indent)
  colonGapBlank point member := .inr (List.mem_singleton.mp member)

/-- `separators=(",", ":")`. -/
def JsonStyle.compact : JsonStyle where
  newline _ := []
  colonGap := []
  newlineBlank _ := by simp
  colonGapBlank := by simp

/-- A style puts blanks between the tokens. -/
theorem isJsonBlank_of_gap {gap : PyStr}
    (blank : ∀ point ∈ gap, point = 0x0A ∨ point = 0x20) :
    ∀ point ∈ gap, isJsonBlank point = true := by
  intro point member
  rcases blank point member with rfl | rfl
  · decide
  · decide

theorem isPrinted_of_gap {gap : PyStr}
    (blank : ∀ point ∈ gap, point = 0x0A ∨ point = 0x20) :
    IsPrinted gap := by
  intro point member
  rcases blank point member with rfl | rfl
  · decide
  · decide

variable (style : JsonStyle)

/-- The items of a list or an object, and its closing bracket. -/
def JsonStyle.enclose (level : Nat) (close : CodePoint)
    (pieces : List PyStr) : PyStr :=
  if pieces = [] then [close]
  else
    style.newline (level + 1) ++
      ((0x2C :: style.newline (level + 1)).intercalate pieces ++
        (style.newline level ++ [close]))

/-- The text of one entry. -/
def JsonStyle.entryText (entry : PyStr × PyStr) : PyStr :=
  quoteJson entry.1 ++ 0x3A :: (style.colonGap ++ entry.2)

section Writing

variable [PyRuntime]

mutual

/-- `json.dumps(value, sort_keys=True)` at a level of indentation. -/
def Json.dumpsWith (level : Nat) : Json → PyStr
  | .null => "null"
  | .bool value => if value then "true" else "false"
  | .int value => PyStr.ofInt value
  | .float value => PyRuntime.floatRepr value
  | .str value => quoteJson value
  | .list items =>
      0x5B :: style.enclose level 0x5D (Json.dumpsItemsWith (level + 1) items)
  | .dict entries =>
      0x7B :: style.enclose level 0x7D
        ((sortByKey (Json.dumpsEntriesWith (level + 1) entries)).map
          style.entryText)

def Json.dumpsItemsWith (level : Nat) : List Json → List PyStr
  | [] => []
  | item :: rest =>
      item.dumpsWith level :: Json.dumpsItemsWith level rest

def Json.dumpsEntriesWith (level : Nat) :
    List (PyStr × Json) → List (PyStr × PyStr)
  | [] => []
  | (key, value) :: rest =>
      (key, value.dumpsWith level) :: Json.dumpsEntriesWith level rest

end

end Writing

namespace Json

mutual

/-- The value with the keys of every object in order. -/
def ordered : Json → Json
  | .list items => .list (orderedItems items)
  | .dict entries => .dict (sortEntries (orderedEntries entries))
  | .null => .null
  | .bool value => .bool value
  | .int value => .int value
  | .float value => .float value
  | .str value => .str value

def orderedItems : List Json → List Json
  | [] => []
  | item :: rest => item.ordered :: orderedItems rest

def orderedEntries : List (PyStr × Json) → List (PyStr × Json)
  | [] => []
  | (key, value) :: rest => (key, value.ordered) :: orderedEntries rest

end

/-- Plain, with integers of at most 4300 digits. -/
inductive Portable : Json → Prop
  | null : Portable .null
  | bool (value : Bool) : Portable (.bool value)
  | int {value : Int}
      (short : (PyStr.ofNat value.natAbs).length ≤ maxStrDigits) :
      Portable (.int value)
  | str {value : PyStr} (scalar : SurrogateFree value) : Portable (.str value)
  | list {items : List Json} (portable : ∀ item ∈ items, Portable item) :
      Portable (.list items)
  | dict {entries : List (PyStr × Json)}
      (unique : (entries.map Prod.fst).Nodup)
      (scalar : ∀ entry ∈ entries, SurrogateFree entry.1)
      (portable : ∀ entry ∈ entries, Portable entry.2) :
      Portable (.dict entries)

/-! ## Entries, written and in order -/

theorem orderedItems_eq_map (items : List Json) :
    orderedItems items = items.map ordered := by
  induction items with
  | nil => rfl
  | cons item items induction => rw [orderedItems, induction, List.map_cons]

theorem orderedEntries_eq_map (entries : List (PyStr × Json)) :
    orderedEntries entries =
      entries.map fun entry => (entry.1, entry.2.ordered) := by
  induction entries with
  | nil => rfl
  | cons entry entries induction =>
      rw [orderedEntries, induction, List.map_cons]

/-- Entries may be ordered before or after their values. -/
theorem sortEntries_orderedEntries (entries : List (PyStr × Json)) :
    sortEntries (orderedEntries entries) =
      (sortEntries entries).map fun entry => (entry.1, entry.2.ordered) := by
  rw [orderedEntries_eq_map, sortEntries, sortEntries]
  symm
  apply List.map_insertionSort
  intro entry _ other _
  exact Iff.rfl

theorem nodup_keys_sortEntries {entries : List (PyStr × Json)}
    (unique : (entries.map Prod.fst).Nodup) :
    ((sortEntries entries).map Prod.fst).Nodup :=
  (((sortEntries_perm entries).map Prod.fst).nodup_iff).mpr unique

section Texts

variable [PyRuntime]

theorem dumpsItemsWith_eq_map (level : Nat) (items : List Json) :
    dumpsItemsWith style level items = items.map (dumpsWith style level) := by
  induction items with
  | nil => rfl
  | cons item items induction =>
      rw [dumpsItemsWith, induction, List.map_cons]

/-- The text of an entry and its value. -/
def entryTextOf (level : Nat) (entry : PyStr × Json) : PyStr :=
  style.entryText (entry.1, entry.2.dumpsWith style level)

/-- The entries are written in the order of their keys. -/
theorem map_entryText (level : Nat) (entries : List (PyStr × Json)) :
    (sortByKey (dumpsEntriesWith style level entries)).map style.entryText =
      (sortEntries entries).map (entryTextOf style level) := by
  have mapped : dumpsEntriesWith style level entries =
      entries.map fun entry =>
        (entry.1, entry.2.dumpsWith style level) := by
    induction entries with
    | nil => rfl
    | cons entry entries induction =>
        rw [dumpsEntriesWith, induction, List.map_cons]
  have sorted : sortByKey (dumpsEntriesWith style level entries) =
      (sortEntries entries).map fun entry =>
        (entry.1, entry.2.dumpsWith style level) := by
    rw [mapped, sortByKey, sortEntries]
    symm
    apply List.map_insertionSort
    intro entry _ other _
    exact Iff.rfl
  rw [sorted, List.map_map]
  rfl

end Texts

/-! ## The text is printed -/

section Printed

theorem isPrinted_enclose {level : Nat} {close : CodePoint}
    (closes : PrintedPoint close) {pieces : List PyStr}
    (each : ∀ piece ∈ pieces, IsPrinted piece) :
    IsPrinted (style.enclose level close pieces) := by
  have closed : IsPrinted [close] := isPrinted_cons.mpr ⟨closes, isPrinted_nil⟩
  have newline (line : Nat) : IsPrinted (style.newline line) :=
    isPrinted_of_gap (style.newlineBlank line)
  have separator : IsPrinted (0x2C :: style.newline (level + 1)) :=
    isPrinted_cons.mpr ⟨by decide, newline (level + 1)⟩
  rw [JsonStyle.enclose]
  split_ifs
  · exact closed
  · rw [isPrinted_append, isPrinted_append, isPrinted_append]
    exact ⟨newline _, isPrinted_intercalate separator each, newline _, closed⟩

theorem Portable.printed [PyRuntime] {value : Json} (portable : value.Portable)
    (level : Nat) : IsPrinted (value.dumpsWith style level) := by
  induction portable generalizing level with
  | null =>
      show IsPrinted "null"
      exact isPrinted_of_all (by decide)
  | bool value =>
      show IsPrinted (if value then "true" else "false" : PyStr)
      cases value
      · exact isPrinted_of_all (by decide)
      · exact isPrinted_of_all (by decide)
  | @int number short =>
      intro point member
      have symbol := PyStr.ofInt_symbols number point member
      exact .inl ⟨by omega, by omega⟩
  | str scalar => exact isPrinted_quoteJson _
  | @list items portable induction =>
      rw [dumpsWith, dumpsItemsWith_eq_map, isPrinted_cons]
      refine ⟨by decide, isPrinted_enclose style (by decide) ?_⟩
      intro piece member
      obtain ⟨item, isItem, rfl⟩ := List.mem_map.mp member
      exact induction item isItem _
  | @dict entries unique scalar portable induction =>
      rw [dumpsWith, map_entryText, isPrinted_cons]
      refine ⟨by decide, isPrinted_enclose style (by decide) ?_⟩
      intro piece member
      obtain ⟨entry, sorted, rfl⟩ := List.mem_map.mp member
      have isEntry := mem_sortEntries.mp sorted
      rw [entryTextOf, JsonStyle.entryText, isPrinted_append, isPrinted_cons,
        isPrinted_append]
      exact ⟨isPrinted_quoteJson _, by decide,
        isPrinted_of_gap style.colonGapBlank, induction entry isEntry _⟩

end Printed

/-! ## Values are read back -/

section Reading

variable [PyRuntime] [FloatReader] {style} {value : Json} {level depth : Nat}

omit [PyRuntime] [FloatReader] in
theorem layout_of_closes {close : CodePoint} (level : Nat)
    (closes : close = 0x5D ∨ close = 0x7D) :
    Layout jsonEnds isJsonBlank 0x2C close (style.newline (level + 1))
      (style.newline level) where
  differ := by rcases closes with rfl | rfl <;> decide
  solidSeparator := by decide
  solidClose := by rcases closes with rfl | rfl <;> decide
  separates := .inr (.inl rfl)
  closes := by
    rcases closes with rfl | rfl
    · exact .inr closeBracket_mem_valueEnds
    · exact .inr closeBrace_mem_valueEnds
  blankEnds symbol blank := .inl blank
  gapBlank := isJsonBlank_of_gap (style.newlineBlank _)
  finishBlank := isJsonBlank_of_gap (style.newlineBlank _)

omit [FloatReader] in
/-- No value begins with a blank or a closing bracket. -/
theorem Portable.opens (portable : value.Portable) :
    ∃ first later, value.dumpsWith style level = first :: later ∧
      isJsonBlank first = false ∧ first ≠ 0x5D := by
  cases portable with
  | null => exact ⟨_, _, rfl, by decide, by decide⟩
  | bool value => cases value <;> exact ⟨_, _, rfl, by decide, by decide⟩
  | @int number short =>
      obtain ⟨first, later, spelled⟩ :=
        List.exists_cons_of_ne_nil (PyStr.ofInt_ne_nil number)
      have digit := PyStr.ofInt_symbols number first
        (by rw [spelled]; exact List.mem_cons_self)
      refine ⟨first, later, spelled, ?_, ?_⟩
      · simp only [isJsonBlank, Bool.or_eq_false_iff, decide_eq_false_iff_not]
        omega
      · rintro rfl
        exact absurd digit.2 (by decide)
  | str scalar => exact ⟨_, _, rfl, by decide, by decide⟩
  | list portable => exact ⟨_, _, rfl, by decide, by decide⟩
  | dict unique scalar portable => exact ⟨_, _, rfl, by decide, by decide⟩

omit [PyRuntime] [FloatReader] in
/-- Behind the key and its colon the value is read. -/
theorem readEntry_of_key {readItem : Reader CodePoint Json}
    {text key later : PyStr}
    (readKey : readString text = some (key, 0x3A :: later)) :
    readEntry readItem (0x22 :: text) =
      (readItem (skipBlanks later)).map fun taken =>
        ((key, taken.1), taken.2) := by
  have solid : isJsonBlank 0x3A = false := by decide
  have quote : (0x22 : CodePoint).val = 0x22 := rfl
  have colon : (0x3A : CodePoint).val = 0x3A := rfl
  rw [readEntry, if_pos quote, readKey]
  simp only [Option.bind_eq_bind, Option.bind_some, skipBlanks,
    dropWhile_blank_cons solid, if_pos colon]
  cases readItem (later.dropWhile isJsonBlank) <;> rfl

/-- An entry is read back if its value is. -/
theorem readsAs_entryText {entry : PyStr × Json}
    (scalar : SurrogateFree entry.1) (portable : entry.2.Portable)
    (reads : ReadsAs jsonEnds (readValue depth)
      (entry.2.dumpsWith style level) entry.2.ordered) :
    ReadsAs jsonEnds (readEntry (readValue depth))
      (entryTextOf style level entry) (entry.1, entry.2.ordered) := by
  intro rest follows
  obtain ⟨key, value⟩ := entry
  obtain ⟨first, later, spelled, solid, -⟩ :
      ∃ first later, value.dumpsWith style level = first :: later ∧
        isJsonBlank first = false ∧ first ≠ 0x5D :=
    portable.opens
  have behind : Follows Set.univ
      (0x3A :: (style.colonGap ++ (value.dumpsWith style level ++ rest))) :=
    follows_cons.mpr (Set.mem_univ _)
  have gap : skipBlanks
      (style.colonGap ++ (value.dumpsWith style level ++ rest)) =
        value.dumpsWith style level ++ rest := by
    rw [skipBlanks, dropWhile_blank_append (isJsonBlank_of_gap style.colonGapBlank), spelled,
      List.cons_append, dropWhile_blank_cons solid]
  have text : entryTextOf style level (key, value) ++ rest =
      0x22 :: (key.flatMap escapeChar ++ [0x22] ++
        (0x3A :: (style.colonGap ++
          (value.dumpsWith style level ++ rest)))) := by
    simp [entryTextOf, JsonStyle.entryText, quoteJson, PyStr.ofString,
      CodePoint.ofChar]
  rw [text, readEntry_of_key (readsAs_string scalar behind), gap,
    reads follows]
  rfl

omit [PyRuntime] [FloatReader] in
theorem readWord_append (word : PyStr) (value : Json) (rest : PyStr) :
    readWord word value (word ++ rest) = some (value, rest) := by
  rw [readWord, List.take_left, if_pos rfl, List.drop_left]

omit [PyRuntime] in
/-- A value that begins like a numeral is read as one. -/
theorem readValue_of_numeral {first : CodePoint} {rest : PyStr}
    (numeral : 0x2D ≤ first.val ∧ first.val < 0x3A) :
    readValue (depth + 1) (first :: rest) = readNumber (first :: rest) := by
  rw [readValue]
  split_ifs <;> first | rfl | omega

omit [PyRuntime] [FloatReader] in
/-- The items of a list or an object are read back up to its end. -/
theorem readsAs_enclose {α γ : Type} {ends : Set CodePoint}
    {close : CodePoint} {read : Reader CodePoint α} {items : List γ}
    {encode : γ → PyStr} {meaning : γ → α} {turns : Nat}
    (closes : close = 0x5D ∨ close = 0x7D)
    (opens : ∀ item ∈ items, ∃ first later,
      encode item = first :: later ∧ isJsonBlank first = false ∧
        first ≠ close)
    (reads : ∀ item ∈ items,
      ReadsAs jsonEnds read (encode item) (meaning item))
    (enough : (style.enclose level close (items.map encode)).length ≤ turns) :
    ReadsAs ends (readClosed isJsonBlank 0x2C close read turns)
      (style.enclose level close (items.map encode)) (items.map meaning) := by
  have layout := @layout_of_closes style close level closes
  have turnsEnough : items.length ≤ turns := by
    refine le_trans ?_ enough
    rw [JsonStyle.enclose]
    split_ifs with none
    · simp [List.map_eq_nil_iff.mp none]
    · have separators := @length_le_intercalate _ (0x2C : CodePoint)
        (style.newline (level + 1)) (items.map encode)
      rw [List.length_map] at separators
      simp only [List.length_append, List.length_singleton]
      omega
  have inner : ReadsAs ends (readClosed isJsonBlank 0x2C close read turns) _
      (items.map meaning) := layout.readsAs_closed opens reads turnsEnough
  simpa only [JsonStyle.enclose, List.map_eq_nil_iff] using inner

/-- The text of a portable value is read as the value, with its keys in order. -/
theorem Portable.readsAs (portable : value.Portable)
    (enough : sizeOf value < depth) :
    ReadsAs jsonEnds (readValue depth) (value.dumpsWith style level)
      value.ordered := by
  induction portable generalizing level depth with
  | null =>
      intro rest follows
      obtain ⟨depth, rfl⟩ := Nat.exists_eq_add_one_of_ne_zero
        (Nat.ne_of_gt (Nat.zero_lt_of_lt enough))
      exact readWord_append "null" .null rest
  | bool value =>
      intro rest follows
      obtain ⟨depth, rfl⟩ := Nat.exists_eq_add_one_of_ne_zero
        (Nat.ne_of_gt (Nat.zero_lt_of_lt enough))
      cases value with
      | false => exact readWord_append "false" (.bool false) rest
      | true => exact readWord_append "true" (.bool true) rest
  | @int number short =>
      intro rest follows
      obtain ⟨depth, rfl⟩ := Nat.exists_eq_add_one_of_ne_zero
        (Nat.ne_of_gt (Nat.zero_lt_of_lt enough))
      obtain ⟨first, later, spelled⟩ :=
        List.exists_cons_of_ne_nil (PyStr.ofInt_ne_nil number)
      have numeral := PyStr.ofInt_symbols number first
        (by rw [spelled]; exact List.mem_cons_self)
      have read := readsAs_ofInt short follows
      rw [dumpsWith, ordered]
      rw [spelled, List.cons_append] at read ⊢
      rw [readValue_of_numeral numeral, read]
  | @str text scalar =>
      intro rest follows
      obtain ⟨depth, rfl⟩ := Nat.exists_eq_add_one_of_ne_zero
        (Nat.ne_of_gt (Nat.zero_lt_of_lt enough))
      have read := readsAs_string scalar follows
      have quoted : (Json.str text).dumpsWith style level ++ rest =
          0x22 :: (text.flatMap escapeChar ++ [0x22] ++ rest) := by
        simp [dumpsWith, quoteJson, PyStr.ofString, CodePoint.ofChar]
      rw [quoted, readValue_quote, read]
      rfl
  | @list items portable induction =>
      intro rest follows
      obtain ⟨depth, rfl⟩ := Nat.exists_eq_add_one_of_ne_zero
        (Nat.ne_of_gt (Nat.zero_lt_of_lt enough))
      have inner (turns : Nat)
          (longEnough : (style.enclose level 0x5D
            (items.map (dumpsWith style (level + 1)))).length ≤ turns) :
          ReadsAs jsonEnds
            (readClosed isJsonBlank 0x2C 0x5D (readValue depth) turns)
            (style.enclose level 0x5D
              (items.map (dumpsWith style (level + 1))))
            (items.map ordered) := by
        apply readsAs_enclose (.inl rfl) _ _ longEnough
        · intro item member
          exact (portable item member).opens
        · intro item member
          apply induction item member
          have smaller := List.sizeOf_lt_of_mem member
          rw [Json.list.sizeOf_spec] at enough
          omega
      rw [dumpsWith, dumpsItemsWith_eq_map, List.cons_append,
        readValue_bracket, inner _ _ follows, ordered, orderedItems_eq_map]
      · rfl
      · rw [List.length_append]
        omega
  | @dict entries unique scalar portable induction =>
      intro rest follows
      obtain ⟨depth, rfl⟩ := Nat.exists_eq_add_one_of_ne_zero
        (Nat.ne_of_gt (Nat.zero_lt_of_lt enough))
      have inner (turns : Nat)
          (longEnough : (style.enclose level 0x7D
            ((sortEntries entries).map
              (entryTextOf style (level + 1)))).length ≤ turns) :
          ReadsAs jsonEnds
            (readClosed isJsonBlank 0x2C 0x7D (readEntry (readValue depth))
              turns)
            (style.enclose level 0x7D
              ((sortEntries entries).map (entryTextOf style (level + 1))))
            ((sortEntries entries).map fun entry =>
              (entry.1, entry.2.ordered)) := by
        apply readsAs_enclose (.inr rfl) _ _ longEnough
        · intro entry member
          exact ⟨0x22, _, rfl, by decide, by decide⟩
        · intro entry member
          replace member := mem_sortEntries.mp member
          apply readsAs_entryText (scalar entry member) (portable entry member)
          apply induction entry member
          have smaller := List.sizeOf_lt_of_mem member
          obtain ⟨key, value⟩ := entry
          rw [Json.dict.sizeOf_spec] at enough
          rw [Prod.mk.sizeOf_spec] at smaller
          show sizeOf value < depth
          omega
      have distinct : (((sortEntries entries).map fun entry =>
          (entry.1, entry.2.ordered)).map Prod.fst).Nodup := by
        rw [List.map_map]
        exact nodup_keys_sortEntries unique
      rw [dumpsWith, map_entryText, List.cons_append, readValue_brace,
        inner _ _ follows, ordered, sortEntries_orderedEntries]
      · simp only [Option.map_some, PyDict.entries_ofList distinct]
      · rw [List.length_append]
        omega

/-- `json.loads` reads back what `json.dumps` wrote, whatever blanks follow. -/
theorem Portable.loads_dumpsWith (portable : value.Portable) {blanks : PyStr}
    (trailing : ∀ point ∈ blanks, isJsonBlank point = true) :
    loads (value.dumpsWith style 0 ++ blanks) = some value.ordered := by
  obtain ⟨first, later, spelled, solid, -⟩ :
      ∃ first later, value.dumpsWith style 0 = first :: later ∧
        isJsonBlank first = false ∧ first ≠ 0x5D :=
    portable.opens
  have follows : Follows jsonEnds blanks := by
    cases blanks with
    | nil => exact follows_nil
    | cons point blanks =>
        exact follows_cons.mpr (.inl (trailing point List.mem_cons_self))
  have start : skipBlanks (value.dumpsWith style 0 ++ blanks) =
      value.dumpsWith style 0 ++ blanks := by
    rw [spelled, List.cons_append, skipBlanks, dropWhile_blank_cons solid]
  have ended : skipBlanks blanks = [] := List.dropWhile_eq_nil_iff.mpr trailing
  have read : readValue ((value.dumpsWith style 0 ++ blanks).length + 1)
      (value.dumpsWith style 0 ++ blanks) = some (value.ordered, blanks) := by
    -- Nesting bounds the depth as well, and any bound that is enough will do.
    let depth :=
      max ((value.dumpsWith style 0 ++ blanks).length + 1) (sizeOf value + 1)
    have text : (value.dumpsWith style 0 ++ blanks).length < depth :=
      lt_max_of_lt_left (Nat.lt_succ_self _)
    have nesting : sizeOf value < depth :=
      lt_max_of_lt_right (Nat.lt_succ_self _)
    rw [readValue_congr (Nat.lt_succ_self _) text]
    exact portable.readsAs nesting follows
  have noMark : (value.dumpsWith style 0 ++ blanks).head? ≠ some 0xFEFF := by
    rw [spelled, List.cons_append, List.head?_cons]
    intro mark
    have printed := portable.printed style 0 first
      (by rw [spelled]; exact List.mem_cons_self)
    rw [Option.some.inj mark] at printed
    exact absurd printed (by decide)
  rw [loads, if_neg noMark, start, read]
  simp only [Option.bind_eq_bind, Option.bind_some, ended, if_true]
  rfl

end Reading

end Json

end Python
