import InlineSql.Proofs.Record.Basic
import Mathlib.Data.Finset.Card

namespace InlineSql.Record

inductive Reached : List (String × Value) → Record → Prop where
  | empty : Reached [] empty
  | ofEntries (entries : List (String × Value)) : Reached entries (ofEntries entries)
  | set {history : List (String × Value)} {r : Record} (before : Reached history r)
      (column : String) (value : Value) : Reached (history ++ [(column,value)]) (r.set column value)

theorem Reached.collected {history : List (String × Value)} {r : Record}
    (reached : Reached history r) : r = Record.ofEntries history := by
  induction reached with
  | empty => rfl
  | ofEntries entries => rfl
  | set before column value ih => rw [ih,ofEntries_concat]

structure Follows (r : Record) (history : List (String × Value)) : Prop where
  distinct : r.columns.Nodup
  order : r.columns = (history.map Prod.fst).eraseDups
  latest : ∀ c, r.get? c = ((history.filter (·.1 = c)).getLast?).map Prod.snd
  size : r.size = (history.map Prod.fst).toFinset.card
  paired : r.entries = r.columns.zip r.values
  widths : r.columns.length = r.size ∧ r.values.length = r.size
  places : r.columns.map r.get? = r.values.map some

theorem follows_ofEntries (history : List (String × Value)) :
    (ofEntries history).Follows history := by
  let r := ofEntries history
  have distinct : r.columns.Nodup := r.distinct
  constructor
  case distinct => exact distinct
  case order => exact columns_in_order history
  case latest => exact get_ofEntries history
  case size =>
    have same : (history.map Prod.fst).toFinset = r.columns.toFinset := by
      ext c
      rw [List.mem_toFinset,List.mem_toFinset,columns_ofEntries]
    rw [same,List.toFinset_card_of_nodup distinct,length_columns]
  case paired =>
    rw [columns,values,List.zip_map']
    exact (List.map_id r.entries).symm
  case widths => exact ⟨r.length_columns,r.length_values⟩
  case places => exact r.get_columns

structure Sets (r : Record) (column : String) (value : Value) : Prop where
  own : (r.set column value).get? column = some value
  others : ∀ c, c ≠ column → (r.set column value).get? c = r.get? c
  replaced : column ∈ r.columns → (r.set column value).columns = r.columns
  added : column ∉ r.columns → (r.set column value).columns = r.columns ++ [column]
  commutes : ∀ other next, other ≠ column → ∀ c,
    ((r.set column value).set other next).get? c = ((r.set other next).set column value).get? c

theorem sets (r : Record) (column : String) (value : Value) : r.Sets column value := by
  constructor
  case own => rw [get_set,if_pos rfl]
  case others =>
    intro c apart
    rw [get_set,if_neg apart]
  case replaced =>
    intro present
    rw [columns_set,if_pos present]
  case added =>
    intro absent
    rw [columns_set,if_neg absent]
  case commutes =>
    intro other next apart c
    rw [get_set,get_set,get_set,get_set]
    by_cases second : c = other
    · rw [if_pos second,if_neg (second ▸ apart),if_pos second]
    · rw [if_neg second,if_neg second]

-- However a record was built, it is the map of what was set on it, in the order in which the
-- columns first came. A call reaches its own column alone, and to take a record apart and collect
-- it again, or to collect in two parts, makes no difference.
theorem insertion_order {history : List (String × Value)} {r : Record}
    (reached : Reached history r) :
    r.Follows history ∧ (∀ column value, r.Sets column value) ∧ ofEntries r.entries = r ∧
    (∀ more, Reached (history ++ more) (more.foldl (fun r entry => r.set entry.1 entry.2) r)) ∧
    ∀ entries more, ofEntries (entries ++ more) =
      more.foldl (fun r entry => r.set entry.1 entry.2) (ofEntries entries) := by
  have collected := reached.collected
  refine ⟨?_,r.sets,r.ofEntries_entries,?_,?_⟩
  · rw [collected]
    exact follows_ofEntries history
  · intro more
    induction more generalizing history r with
    | nil => simpa using reached
    | cons entry rest ih =>
      have onward := reached.set entry.1 entry.2
      have behind := ih onward onward.collected
      rwa [List.append_assoc] at behind
  · intro entries more
    exact List.foldl_append

theorem insertion_order_repeated :
    let history := [("b",.int 1),("a",.int 2),("b",.null),("c",.int 3),("a",.int 4)]
    let r := ((ofEntries [("b",.int 1),("a",.int 2),("b",.null)]).set "c" (.int 3)).set "a" (.int 4)
    Reached history r ∧ r.columns = ["b","a","c"] ∧ r.size = 3 ∧ r.get? "b" = some .null ∧
      r.get? "a" = some (.int 4) ∧ r.get? "d" = none ∧ ofEntries r.entries = r := by
  intro history r
  have reached : Reached history r :=
    ((Reached.ofEntries [("b",.int 1),("a",.int 2),("b",.null)]).set "c" (.int 3)).set "a" (.int 4)
  obtain ⟨follows,_,collected,_⟩ := insertion_order reached
  refine ⟨reached,?_,?_,follows.latest "b",follows.latest "a",follows.latest "d",collected⟩
  · rw [follows.order]
    decide
  · rw [follows.size]
    decide

end InlineSql.Record
