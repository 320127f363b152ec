import ArgosCyberTools.Python.Canonical
import ArgosCyberTools.Python.JsonWriter

/-!
# Reading the canonical text

What `json.loads` reads, in whatever style it was written, has the canonical
text of the value that was written: putting keys in order does not change how
a value is written.
-/

namespace Python

namespace Json

/-- Portable values are plain. -/
theorem Portable.plain {value : Json} (portable : value.Portable) :
    value.Plain := by
  induction portable with
  | null => exact .null
  | bool value => exact .bool value
  | int short => exact .int _
  | str scalar => exact .str scalar
  | list portable induction => exact .list induction
  | dict unique scalar portable induction => exact .dict unique scalar induction

variable [PyRuntime] {value : Json}

/-- Entries in another order are written alike. -/
theorem dumps_dict_of_perm {entries others : List (PyStr × Json)}
    (unique : (entries.map Prod.fst).Nodup) (perm : entries.Perm others) :
    (Json.dict entries).dumps = (Json.dict others).dumps := by
  rw [dumps_dict, dumps_dict, sortEntries, sortEntries,
    insertionSort_keys_congr unique perm]

/-- A value has the canonical text it has with its keys in order. -/
theorem Portable.dumps_ordered (portable : value.Portable) :
    value.ordered.dumps = value.dumps := by
  induction portable with
  | null => rfl
  | bool value => rfl
  | int short => rfl
  | str scalar => rfl
  | @list items portable induction =>
      rw [ordered, dumps_list, dumps_list, orderedItems_eq_map, List.map_map]
      congr 3
      apply List.map_congr_left
      exact induction
  | @dict entries unique scalar portable induction =>
      have keys : ((sortEntries (orderedEntries entries)).map
          Prod.fst).Nodup := by
        apply nodup_keys_sortEntries
        rw [orderedEntries_eq_map, List.map_map]
        exact unique
      rw [ordered, dumps_dict_of_perm keys (sortEntries_perm _), dumps_dict,
        dumps_dict, sortEntries_orderedEntries, List.map_map]
      congr 3
      apply List.map_congr_left
      intro entry member
      rw [Function.comp_apply, dumpsEntry, dumpsEntry,
        induction entry (mem_sortEntries.mp member)]

end Json

end Python
