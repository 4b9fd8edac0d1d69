import InlineSql.Proofs.Scan.Containment
import InlineSql.Proofs.Statement.FirstDefect

namespace InlineSql

namespace Record

variable {r first : Record}

theorem places_length :
    first.columns.length = ((r.values.take first.size).rightpad first.size .null).length := by
  rw [length_place,length_columns]

def fitted (r first : Record) : Record where
  entries := first.columns.zip ((r.values.take first.size).rightpad first.size .null)
  distinct := by
    rw [List.map_fst_zip (Nat.le_of_eq places_length)]
    exact first.distinct

theorem columns_fitted : (r.fitted first).columns = first.columns :=
  List.map_fst_zip (Nat.le_of_eq places_length)

theorem values_fitted :
    (r.fitted first).values = (r.values.take first.size).rightpad first.size .null :=
  List.map_snd_zip (Nat.le_of_eq places_length.symm)

theorem fitted_same (same : r.columns = first.columns) : r.fitted first = r := by
  have width : r.values.length = first.size := r.length_values.trans (size_same same)
  have pairs : r.columns.zip r.values = r.entries := by
    rw [columns,values,List.zip_map']
    exact List.map_id r.entries
  refine eq_of_entries ?_
  change first.columns.zip ((r.values.take first.size).rightpad first.size .null) = r.entries
  rw [place_whole width,← same,pairs]

end Record

namespace Statement

variable {s : Statement} {first : Record} {rest : List Record}

def squared (s : Statement) : Statement :=
  match s.rows with
  | [] => s
  | first :: _ => {s with rows:=s.rows.map (·.fitted first)}

theorem squared_rows (rows : s.rows = first :: rest) :
    s.squared = {s with rows:=s.rows.map (·.fitted first)} := by
  rw [squared,rows]

theorem squared_rectangular (s : Statement) : s.squared.Rectangular := by
  intro head begins r member
  cases rows : s.rows with
  | nil => simp [squared,rows] at member
  | cons first rest =>
    rw [squared_rows rows] at begins member
    rw [rows] at begins
    cases begins
    obtain ⟨t,_,rfl⟩ := List.mem_map.mp member
    rw [Record.columns_fitted,Record.columns_fitted]

theorem squared_of_rectangular (same : s.Rectangular) : s.squared = s := by
  cases rows : s.rows with
  | nil => rw [squared,rows]
  | cons first rest =>
    have begins : s.rows[0]? = some first := by rw [rows]; rfl
    have kept : s.rows.map (·.fitted first) = s.rows.map id := List.map_congr_left fun r member =>
      Record.fitted_same (same first begins r member)
    rw [squared_rows rows,kept,List.map_id]

end Statement

namespace Dialect

variable (d : Dialect) (e : Escaper) {s : Statement} {first : Record} {rest : List Record}

theorem tuple_fitted (r first : Record) :
    d.tuple e first.size (r.fitted first) = d.tuple e first.size r := by
  rw [tuple,Record.values_fitted,place_whole length_place,tuple]

theorem compile_squared (s : Statement) : d.compile e s.squared = d.compile e s := by
  cases rows : s.rows with
  | nil => rw [Statement.squared,rows]
  | cons first rest =>
    have itself : first.fitted first = first := Record.fitted_same rfl
    have tuples : (s.rows.map (·.fitted first)).map (d.tuple e first.size) =
        s.rows.map (d.tuple e first.size) := by
      rw [List.map_map]
      exact List.map_congr_left fun r _ => d.tuple_fitted e r first
    have same : d.insertion e {s with rows:=s.rows.map (·.fitted first)} = d.insertion e s := by
      rw [rows,List.map_cons,itself] at tuples ⊢
      rw [insertion,insertion,rows]
      simp only [tuples]
    rw [Statement.squared_rows rows,compile,compile]
    cases s.method with
    | none => rfl
    | some method => cases method with
      | insert => exact same
      | _ => rfl

theorem tuple_text (width : Nat) (r : Record) : d.tuple e width r = "(" ++ ",".intercalate
    ((List.range width).map fun j => r.values[j]?.elim "null" (d.encode e)) ++ ")" := by
  have cell (j : Nat) : d.encode e (r.values[j]?.getD .null) =
      r.values[j]?.elim "null" (d.encode e) := by
    cases r.values[j]? with
    | none =>
      change d.encode e .null = "null"
      rw [encode]
    | some v => rfl
  rw [tuple,place_range,listLiteral,encodeAll_map,List.map_map]
  simp only [Function.comp_def,cell]

end Dialect

def ShowsBrackets (f : Flavor) (before : Mode → Prop) (x : List Char) (widths : List Nat)
    (after : Mode → Prop) : Prop := ∃ seen, Measures seen widths ∧ Shows f before x seen after

namespace ShowsBrackets

variable {f : Flavor} {before middle after : Mode → Prop} {w x y : List Char} {m n : List Nat}

theorem append (first : ShowsBrackets f before x m middle)
    (second : ShowsBrackets f middle y n after) : ShowsBrackets f before (x ++ y) (m ++ n) after := by
  obtain ⟨_,left,here⟩ := first
  obtain ⟨_,right,there⟩ := second
  exact ⟨_,left.append right,here.append there⟩

theorem calm (all : w.all isCalm = true := by decide) (flat : w.all isFlat = true := by decide) :
    ShowsBrackets f Mode.Ready w [] Mode.Ready := ⟨w,.flat flat,.calm all⟩

theorem intercalate {α : Type} {spell : α → List Char} {items : List α} {width : Nat}
    (each : ∀ a ∈ items, ShowsBrackets f Mode.Ready (spell a) [width] Mode.Ready) :
    ShowsBrackets f Mode.Ready ([','].intercalate (items.map spell))
      (List.replicate items.length width) Mode.Ready := by
  have comma : Shows f Mode.Ready [','] [','] Mode.Ready := .calm
  obtain ⟨parts,length,measured,shows⟩ := Shows.intercalate each comma fun _ ready => ready
  exact ⟨_,length ▸ Measures.intercalate measured,shows⟩

end ShowsBrackets

section
variable (f : Flavor) {s : Statement} {first : Record} {rest : List Record}

theorem shows_tuple {r : Record} (free : ∀ v ∈ r.values, v.leaves (fun v => !v.isRaw) = true)
    {width : Nat} (filled : 1 ≤ width) : ShowsBrackets f Mode.Ready
      (f.dialect.tuple f.escaper width r).toList [width] Mode.Ready := by
  have each : ∀ v ∈ (r.values.take width).rightpad width .null,
      v.leaves (fun v => !v.isRaw) = true := by
    intro v member
    rcases mem_place member with held | rfl
    · exact free v held
    · rfl
  obtain ⟨parts,length,closed,shows⟩ := shows_list f fun v member => shows_encode f (each v member)
  rw [length_place] at length
  have measures := Measures.bracket closed (length ▸ filled)
  rw [length] at measures
  exact ⟨_,measures,shows⟩

theorem shows_columns (names : ∀ c ∈ first.columns, c.toList.all isWordChar = true)
    (filled : 1 ≤ first.size) : ShowsBrackets f Mode.Ready
      (inBrackets (first.columns.map String.toList)) [first.size] Mode.Ready := by
  have words : ∀ part ∈ first.columns.map String.toList, part.all isWordChar = true := by
    intro part member
    obtain ⟨c,listed,rfl⟩ := List.mem_map.mp member
    exact names c listed
  have width : (first.columns.map String.toList).length = first.size := by
    rw [List.length_map,Record.length_columns]
  have calm : (inBrackets (first.columns.map String.toList)).all isCalm = true := by
    rw [inBrackets,List.all_append,List.all_append,
      all_intercalate (by decide) fun part member => calm_words (words part member)]
    rfl
  have measures := Measures.bracket (fun part member => closed_flat (flat_words (words part member)))
    (width ▸ filled)
  rw [width] at measures
  exact ⟨_,measures,.calm calm⟩

theorem shows_insertion (method : s.method = some .insert) (rows : s.rows = first :: rest)
    (table : s.table.toList.all isWordChar = true)
    (names : ∀ c ∈ first.columns, c.toList.all isWordChar = true)
    (free : ∀ r ∈ s.rows, ∀ v ∈ r.values, v.leaves (fun v => !v.isRaw) = true)
    (filled : 1 ≤ first.size) : ShowsBrackets f Mode.Ready (s.toSql f).toList
      (first.size :: List.replicate s.rows.length first.size) Mode.Fresh := by
  have into : ShowsBrackets f Mode.Ready "INSERT INTO ".toList [] Mode.Ready := .calm
  have target : ShowsBrackets f Mode.Ready s.table.toList [] Mode.Ready :=
    .calm (calm_words table) (flat_words table)
  have space : ShowsBrackets f Mode.Ready [' '] [] Mode.Ready := .calm
  have values : ShowsBrackets f Mode.Ready " VALUES ".toList [] Mode.Ready := .calm
  have tuples := ShowsBrackets.intercalate fun r member =>
    shows_tuple f (free r member) filled
  have close : ShowsBrackets f Mode.Ready [';'] [] Mode.Fresh := ⟨[';'],.flat (by decide),.fresh⟩
  have front := ((into.append target).append space).append (shows_columns f names filled)
  have whole := ((front.append values).append tuples).append close
  have text := congrArg String.toList (f.dialect.insertion_text f.escaper method rows)
  change (s.toSql f).toList = _ at text
  rw [text]
  simpa [inBrackets,Function.comp_def] using whole

end

namespace Statement

-- An insertion is a table under the columns of its first row. Each row gives a cell to each of
-- these columns by its place alone: a row that ends early goes on with nulls, and what it has
-- beyond the last column does not count.
structure Tabular (s : Statement) (first : Record) (d : Dialect) (e : Escaper) : Prop where
  text : (d.compile e s).sql = "INSERT INTO " ++ s.table ++ " (" ++
    ",".intercalate first.columns ++ ") VALUES " ++ ",".intercalate (s.rows.map fun r =>
      "(" ++ ",".intercalate ((List.range first.size).map fun j =>
        r.values[j]?.elim "null" (d.encode e)) ++ ")") ++ ";"
  columns : s.squared.rows.map Record.columns = s.rows.map fun _ => first.columns
  values : s.squared.rows.map Record.values = s.rows.map fun r =>
    (List.range first.size).map fun j => r.values[j]?.getD .null
  unchanged : d.compile e s.squared = d.compile e s
  settled : s.squared.squared = s.squared
  agreed : ∀ row expected found, s.squared.defect? ≠ some (.rowColumnsMismatch row expected found)

-- Whoever counts the places between the commas of the text, without looking into quotations, finds
-- as many in each row as the first one has columns, whatever stands in the values.
theorem insertion_tabular (d : Dialect) (e : Escaper) {s : Statement} {first : Record}
    {rest : List Record} (method : s.method = some .insert) (rows : s.rows = first :: rest) :
    s.Tabular first d e ∧ ∀ f : Flavor, s.table.toList.all isWordChar = true →
      (∀ c ∈ first.columns, c.toList.all isWordChar = true) →
      (∀ r ∈ s.rows, ∀ v ∈ r.values, v.leaves (fun v => !v.isRaw) = true) → 1 ≤ first.size →
      ∃ segments, f.divide (s.toSql f) = some segments ∧
        bracketWidths (segments.flatMap Segment.shown) =
          first.size :: s.rows.map fun _ => first.size := by
  constructor
  · constructor
    case text =>
      rw [d.insertion_text e method rows,funext (d.tuple_text e first.size)]
    case columns =>
      rw [squared_rows rows,List.map_map]
      exact List.map_congr_left fun r _ => Record.columns_fitted
    case values =>
      rw [squared_rows rows,List.map_map]
      exact List.map_congr_left fun r _ => Record.values_fitted.trans place_range
    case unchanged => exact d.compile_squared e s
    case settled => exact squared_of_rectangular s.squared_rectangular
    case agreed => exact rectangular_agrees s.squared_rectangular
  · intro f table names free filled
    obtain ⟨seen,measures,shows⟩ := shows_insertion f method rows table names free filled
    obtain ⟨segments,divided,same⟩ := shows.divide
    refine ⟨segments,divided,?_⟩
    rw [same,measures.widths_eq,List.map_const']

theorem insertion_tabular_hostile :
    let first := Record.ofEntries [("a",.text "1),('2"),("b",.list [.int (-1),.text "\\',("])]
    let rest := [Record.ofEntries [("b",.text "x,y")],first.set "c" (.text ")")]
    let s := (start "t" .insert).build ((first :: rest).map Clause.row)
    s.method = some .insert ∧ s.rows = first :: rest ∧
      s.Tabular first .postgres Flavor.postgresql.escaper ∧
      ∃ segments, Flavor.postgresql.divide (s.toSql .postgresql) = some segments ∧
        bracketWidths (segments.flatMap Segment.shown) = [2,2,2,2] := by
  intro first rest s
  obtain ⟨table,places⟩ := insertion_tabular .postgres Flavor.postgresql.escaper (s:=s) rfl rfl
  have names : ∀ c ∈ first.columns, c.toList.all isWordChar = true := by decide
  have free : ∀ r ∈ s.rows, ∀ v ∈ r.values, v.leaves (fun v => !v.isRaw) = true := by decide
  exact ⟨rfl,rfl,table,places .postgresql (by decide) names free (by decide)⟩

end Statement
end InlineSql
