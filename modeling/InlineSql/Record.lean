import InlineSql.Value.Basic

namespace InlineSql

def setEntry (column : String) (value : Value) : List (String × Value) → List (String × Value)
  | [] => [(column,value)]
  | entry :: rest =>
    if entry.1 = column then (column,value) :: rest else entry :: setEntry column value rest

theorem columns_setEntry (column : String) (value : Value) (entries : List (String × Value)) :
    (setEntry column value entries).map Prod.fst =
      if column ∈ entries.map Prod.fst then entries.map Prod.fst
      else entries.map Prod.fst ++ [column] := by
  induction entries with
  | nil => simp [setEntry]
  | cons entry rest ih =>
    by_cases same : entry.1 = column
    · simp [setEntry,same]
    · by_cases later : column ∈ rest.map Prod.fst <;> simp_all [setEntry,eq_comm]

structure Record where
  entries : List (String × Value)
  distinct : (entries.map Prod.fst).Nodup

namespace Record

def empty : Record := ⟨[],by simp⟩

instance : Inhabited Record := ⟨empty⟩
instance : EmptyCollection Record := ⟨empty⟩

def columns (r : Record) : List String := r.entries.map Prod.fst
def values (r : Record) : List Value := r.entries.map Prod.snd
def size (r : Record) : Nat := r.entries.length

def get? (r : Record) (column : String) : Option Value := r.entries.lookup column

def set (r : Record) (column : String) (value : Value) : Record where
  entries := setEntry column value r.entries
  distinct := by
    rw [columns_setEntry]
    split
    · exact r.distinct
    · rename_i absent
      exact List.nodup_append.mpr ⟨r.distinct,by simp,by
        intro a old b new
        rw [List.mem_singleton.mp new]
        exact fun same => absent (same ▸ old)⟩

def ofEntries (entries : List (String × Value)) : Record :=
  entries.foldl (fun r entry => r.set entry.1 entry.2) empty

-- Order counts: the same columns in another order are another record.
def agrees (a b : Record) : Bool :=
  a.columns == b.columns && Value.allAgree a.values b.values

instance : BEq Record := ⟨agrees⟩

end Record
end InlineSql
