import InlineSql.Record
import Mathlib.Data.List.Induction

namespace InlineSql

section
variable {α : Type} (name key : String)

theorem lookup_binding (value : α) (bindings : List (String × α)) :
    ((name,value) :: bindings).lookup key =
      if key = name then some value else bindings.lookup key := by
  rw [List.lookup_cons]
  by_cases same : key = name
  · simp [same]
  · simp [same,beq_false_of_ne same]

end

theorem lookup_setEntry (column : String) (value : Value) (entries : List (String × Value))
    (c : String) : (setEntry column value entries).lookup c =
      if c = column then some value else entries.lookup c := by
  induction entries with
  | nil => exact lookup_binding column c value []
  | cons entry rest ih =>
    obtain ⟨key,old⟩ := entry
    rw [setEntry]
    by_cases own : key = column
    · rw [if_pos own,lookup_binding,lookup_binding,own]
      by_cases same : c = column <;> simp [same]
    · rw [if_neg own,lookup_binding,ih,lookup_binding]
      by_cases same : c = key
      · simp [same,own]
      · simp [same]

theorem setEntry_absent {column : String} (value : Value) {entries : List (String × Value)}
    (absent : column ∉ entries.map Prod.fst) :
    setEntry column value entries = entries ++ [(column,value)] := by
  induction entries with
  | nil => rfl
  | cons entry rest ih =>
    rw [List.map_cons,List.mem_cons,not_or] at absent
    rw [setEntry,if_neg (Ne.symm absent.1),ih absent.2,List.cons_append]

namespace Record

theorem eq_of_entries {r t : Record} (same : r.entries = t.entries) : r = t := by
  cases r
  cases t
  cases same
  rfl

theorem length_columns (r : Record) : r.columns.length = r.size := List.length_map _

theorem length_values (r : Record) : r.values.length = r.size := List.length_map _

theorem size_same {r t : Record} (same : r.columns = t.columns) : r.size = t.size := by
  rw [← r.length_columns,same,t.length_columns]

theorem lookup_entries {entries : List (String × Value)}
    (distinct : (entries.map Prod.fst).Nodup) :
    entries.map (fun entry => entries.lookup entry.1) = entries.map (fun entry => some entry.2) := by
  induction entries with
  | nil => rfl
  | cons entry rest ih =>
    obtain ⟨key,value⟩ := entry
    rw [List.map_cons,List.nodup_cons] at distinct
    have others : rest.map (fun other => ((key,value) :: rest).lookup other.1) =
        rest.map (fun other => rest.lookup other.1) := by
      refine List.map_congr_left fun other member => ?_
      have listed : other.1 ∈ rest.map Prod.fst := List.mem_map_of_mem member
      have apart : other.1 ≠ key := fun same => distinct.1 (same ▸ listed)
      rw [lookup_binding,if_neg apart]
    rw [List.map_cons,List.map_cons,others,ih distinct.2,List.lookup_cons_self]

theorem get_columns (r : Record) : r.columns.map r.get? = r.values.map some := by
  have found := lookup_entries r.distinct
  simpa [columns,values,get?,Function.comp_def] using found

theorem get_set (r : Record) (column : String) (value : Value) (c : String) :
    (r.set column value).get? c = if c = column then some value else r.get? c :=
  lookup_setEntry column value r.entries c

theorem columns_set (r : Record) (column : String) (value : Value) :
    (r.set column value).columns =
      if column ∈ r.columns then r.columns else r.columns ++ [column] :=
  columns_setEntry column value r.entries

theorem ofEntries_concat (entries : List (String × Value)) (entry : String × Value) :
    ofEntries (entries ++ [entry]) = (ofEntries entries).set entry.1 entry.2 := by
  rw [ofEntries,List.foldl_append]
  rfl

theorem columns_in_order (entries : List (String × Value)) :
    (ofEntries entries).columns = (entries.map Prod.fst).eraseDups := by
  induction entries using List.reverseRecOn with
  | nil => rfl
  | append_singleton earlier entry ih =>
    have last : (entry.1 ∈ (ofEntries earlier).columns) ↔ entry.1 ∈ earlier.map Prod.fst := by
      rw [ih,List.mem_eraseDups]
    rw [ofEntries_concat,columns_set,List.map_append,List.eraseDups_append,← ih]
    have alone : [entry.1].eraseDups = [entry.1] := List.eraseDups_cons
    by_cases present : entry.1 ∈ earlier.map Prod.fst
    · rw [if_pos (last.mpr present)]
      simp [List.removeAll,present]
    · rw [if_neg (mt last.mp present)]
      simp [List.removeAll,present,alone]

theorem columns_ofEntries (entries : List (String × Value)) (c : String) :
    c ∈ (ofEntries entries).columns ↔ c ∈ entries.map Prod.fst := by
  rw [columns_in_order,List.mem_eraseDups]

theorem get_ofEntries (entries : List (String × Value)) (c : String) :
    (ofEntries entries).get? c = ((entries.filter (·.1 = c)).getLast?).map Prod.snd := by
  induction entries using List.reverseRecOn with
  | nil => rfl
  | append_singleton earlier entry ih =>
    rw [ofEntries_concat,get_set,ih,List.filter_append]
    by_cases own : entry.1 = c
    · simp [own]
    · simp [own,Ne.symm own]

theorem entries_ofEntries {entries : List (String × Value)}
    (distinct : (entries.map Prod.fst).Nodup) : (ofEntries entries).entries = entries := by
  induction entries using List.reverseRecOn with
  | nil => rfl
  | append_singleton earlier entry ih =>
    rw [List.map_append,List.nodup_append] at distinct
    obtain ⟨before,_,apart⟩ := distinct
    have absent : entry.1 ∉ earlier.map Prod.fst := fun present =>
      apart entry.1 present entry.1 (by simp) rfl
    rw [ofEntries_concat]
    change setEntry entry.1 entry.2 (ofEntries earlier).entries = earlier ++ [entry]
    rw [ih before,setEntry_absent entry.2 absent]

theorem ofEntries_entries (r : Record) : ofEntries r.entries = r :=
  eq_of_entries (entries_ofEntries r.distinct)

end Record
end InlineSql
