import InlineSql.Proofs.Statement.Frame

namespace InlineSql

inductive Piece where
  | text (written : String)
  | name (identifier : String)
  | truth (b : Bool)
  | string (content : String)
  | window (offset count : Int64)

namespace Piece

def render (d : Dialect) (e : Escaper) : Piece → String
  | .text written => written
  | .name identifier => d.quoteIdentifier identifier
  | .truth b => d.boolLiteral b
  | .string content => d.stringMark ++ "'" ++ e.escape content ++ "'"
  | .window offset count => d.limitClause offset count

def string? : Piece → Option String
  | .string content => some content
  | _ => none

def isWindow : Piece → Bool
  | .window _ _ => true
  | _ => false

end Piece

def rendered (d : Dialect) (e : Escaper) (pieces : List Piece) : String :=
  String.join (pieces.map (Piece.render d e))

theorem rendered_append (d : Dialect) (e : Escaper) (before after : List Piece) :
    rendered d e (before ++ after) = rendered d e before ++ rendered d e after := by
  rw [rendered,List.map_append,String.join_append]
  rfl

theorem rendered_single (d : Dialect) (e : Escaper) (piece : Piece) :
    rendered d e [piece] = piece.render d e := by
  simp [rendered]

-- What the pieces say in every dialect and with every escaper, the strings among them in their
-- order, and how many windows they have at most.
structure Spells (pieces : List Piece) (written : Dialect → Escaper → String)
    (texts : List String) (windows : Nat) : Prop where
  rendered : ∀ d e, rendered d e pieces = written d e
  strings : pieces.filterMap Piece.string? = texts
  windows : pieces.countP Piece.isWindow ≤ windows

namespace Spells

theorem nil : Spells [] (fun _ _ => "") [] 0 := ⟨fun _ _ => rfl,rfl,Nat.le_refl _⟩

theorem text (written : String) : Spells [.text written] (fun _ _ => written) [] 0 :=
  ⟨fun d e => rendered_single d e _,rfl,Nat.le_refl _⟩

theorem name (identifier : String) :
    Spells [.name identifier] (fun d _ => d.quoteIdentifier identifier) [] 0 :=
  ⟨fun d e => rendered_single d e _,rfl,Nat.le_refl _⟩

theorem truth (b : Bool) : Spells [.truth b] (fun d _ => d.boolLiteral b) [] 0 :=
  ⟨fun d e => rendered_single d e _,rfl,Nat.le_refl _⟩

theorem string (content : String) :
    Spells [.string content] (fun d e => d.stringLiteral e content) [content] 0 :=
  ⟨fun d e => rendered_single d e _,rfl,Nat.le_refl _⟩

theorem window (offset count : Int64) :
    Spells [.window offset count] (fun d _ => d.limitClause offset count) [] 1 :=
  ⟨fun d e => rendered_single d e _,rfl,Nat.le_refl _⟩

variable {before after : List Piece} {first second : Dialect → Escaper → String}
  {x y : List String} {m n : Nat}

theorem append (left : Spells before first x m) (right : Spells after second y n) :
    Spells (before ++ after) (fun d e => first d e ++ second d e) (x ++ y) (m + n) := by
  refine ⟨fun d e => ?_,?_,?_⟩
  · rw [rendered_append,left.rendered,right.rendered]
  · rw [List.filterMap_append,left.strings,right.strings]
  · rw [List.countP_append]
    exact Nat.add_le_add left.windows right.windows

theorem fewer (few : Spells before first x 0) : Spells before first x 1 :=
  ⟨few.rendered,few.strings,Nat.le_succ_of_le few.windows⟩

theorem intercalate {α : Type} (separator : String) (items : List α) {pieces : α → List Piece}
    {write : Dialect → Escaper → α → String} {texts : α → List String}
    (each : ∀ a ∈ items, Spells (pieces a) (fun d e => write d e a) (texts a) 0) :
    Spells ([.text separator].intercalate (items.map pieces))
      (fun d e => separator.intercalate (items.map (write d e))) (items.flatMap texts) 0 := by
  induction items with
  | nil => exact nil
  | cons a rest ih =>
    have here := each a (by simp)
    have later := ih fun b member => each b (List.mem_cons_of_mem a member)
    cases rest with
    | nil => simpa using here
    | cons b others =>
      simpa [List.append_assoc,String.append_assoc] using (here.append (text separator)).append later

end Spells

namespace Value

mutual
def texts : Value → List String
  | .text s => [s]
  | .list items => textsAll items
  | _ => []
def textsAll : List Value → List String
  | [] => []
  | v :: rest => texts v ++ textsAll rest
end

mutual
def pieces : Value → List Piece
  | .null => [.text "null"]
  | .bool b => [.truth b]
  | .int n => [.text (toString n)]
  | .nat n => [.text (toString n)]
  | .float x => [.text (Dialect.floatLiteral x)]
  | .text s => [.string s]
  | .timestamp t => [.text ("'" ++ t.text ++ "'")]
  | .list items => [.text "("] ++ [.text ","].intercalate (piecesAll items) ++ [.text ")"]
  | .raw sql => [.text sql]
def piecesAll : List Value → List (List Piece)
  | [] => []
  | v :: rest => pieces v :: piecesAll rest
end

theorem texts_list (items : List Value) : (Value.list items).texts = items.flatMap texts := by
  rw [texts]
  induction items with
  | nil => simp [textsAll]
  | cons v rest ih => simp [textsAll,ih]

theorem pieces_list (items : List Value) : (Value.list items).pieces =
    [.text "("] ++ [.text ","].intercalate (items.map pieces) ++ [.text ")"] := by
  have all : piecesAll items = items.map pieces := by
    induction items with
    | nil => simp [piecesAll]
    | cons v rest ih => simp [piecesAll,ih]
  rw [pieces,all]

end Value

theorem spells_list (items : List Value)
    (each : ∀ v ∈ items, Spells v.pieces (fun d e => d.encode e v) v.texts 0) :
    Spells (Value.list items).pieces (fun d e => d.listLiteral e items) (Value.list items).texts 0 := by
  have inside := Spells.intercalate "," items each
  have whole := ((Spells.text "(").append inside).append (.text ")")
  simpa [Value.pieces_list,Value.texts_list,Dialect.listLiteral,Dialect.encodeAll_map] using whole

theorem spells_value (v : Value) : Spells v.pieces (fun d e => d.encode e v) v.texts 0 := by
  induction v using Value.nesting with
  | leaf v leaf =>
    cases v with
    | bool b => simpa [Value.pieces,Value.texts,Dialect.encode] using Spells.truth b
    | text s => simpa [Value.pieces,Value.texts,Dialect.encode] using Spells.string s
    | list items => cases leaf
    | _ => simpa [Value.pieces,Value.texts,Dialect.encode] using Spells.text _
  | list items ih => simpa only [Dialect.encode_list] using spells_list items ih

namespace Predicate

def pieces (p : Predicate) : List Piece :=
  [.name p.column] ++ match p.value with
    | .list items => [.text " IN "] ++ (Value.list items).pieces
    | value => [.text p.operator] ++ value.pieces

theorem spells (p : Predicate) :
    Spells p.pieces (fun d e => d.condition e p) p.value.texts 0 := by
  cases value : p.value with
  | list items =>
    have list : Spells (Value.list items).pieces (fun d e => d.listLiteral e items) _ 0 :=
      spells_list items fun v _ => spells_value v
    have whole := (Spells.name p.column).append ((Spells.text " IN ").append list)
    simpa [pieces,value,condition_list value] using whole
  | _ =>
    have leaf : p.value.isList = false := by rw [value]; rfl
    have compared := (Spells.text p.operator).append (spells_value p.value)
    have whole := (Spells.name p.column).append compared
    simpa [pieces,value,condition_leaf leaf] using whole

def piecesFrom : Bool → List Predicate → List Piece
  | _,[] => []
  | started,p :: rest =>
    if p.qualifies then
      [.text (if started then " " ++ p.connective.word ++ " " else " WHERE ")] ++ p.pieces ++
        piecesFrom true rest
    else piecesFrom started rest

theorem spells_from (ps : List Predicate) (index : Nat) (started : Bool) :
    Spells (piecesFrom started ps) (fun d e => (d.conditions e index started ps).sql)
      ((ps.filter Predicate.qualifies).flatMap fun p => p.value.texts) 0 := by
  induction ps generalizing index started with
  | nil => exact .nil
  | cons p rest ih =>
    by_cases written : p.qualifies = true
    · let opening := if started then " " ++ p.connective.word ++ " " else " WHERE "
      have here := ((Spells.text opening).append p.spells).append (ih (index + 1) true)
      simp only [piecesFrom,Dialect.conditions,if_pos written,List.filter_cons_of_pos written,
        List.flatMap_cons]
      exact here
    · simpa only [piecesFrom,Dialect.conditions,if_neg written,List.filter_cons_of_neg written] using
        ih (index + 1) started

end Predicate

namespace Statement

def wherePieces (s : Statement) : List Piece := Predicate.piecesFrom false s.predicates

def groupPieces (s : Statement) : List Piece :=
  match s.groupKey with
  | none => []
  | some key => if key = "" then [] else [.text " GROUP BY "] ++ [.name key]

def sortPieces (k : SortKey) : List Piece :=
  [.name k.column] ++ match k.direction with
    | .ascending => []
    | .descending => [.text " DESC"]

def orderPieces (s : Statement) : List Piece :=
  if s.orderings.isEmpty then []
  else [.text " ORDER BY "] ++ [.text ","].intercalate (s.orderings.map sortPieces)

def windowPieces (w : Window) : List Piece :=
  if w.isSet then [.window w.offset w.count] else []

def selectionPieces (s : Statement) : List Piece :=
  [.text "SELECT "] ++ [.text (Dialect.columnList s)] ++ [.text " FROM "] ++ [.text s.table] ++
    s.wherePieces ++ s.groupPieces ++ s.orderPieces ++ windowPieces s.window ++ [.text ";"]

def assignmentPieces (entry : String × Value) : List Piece :=
  [.name entry.1] ++ [.text "="] ++ entry.2.pieces

def updatePieces (s : Statement) : List Piece :=
  [.text "UPDATE "] ++ [.text s.table] ++ [.text " SET "] ++
    [.text ", "].intercalate (s.assignments.map assignmentPieces) ++ s.wherePieces ++ [.text ";"]

def tuplePieces (width : Nat) (r : Record) : List Piece :=
  (Value.list ((r.values.take width).rightpad width .null)).pieces

def insertionPieces (s : Statement) (first : Record) : List Piece :=
  [.text "INSERT INTO "] ++ [.text s.table] ++ [.text " ("] ++
    [.text (",".intercalate first.columns)] ++ [.text ") VALUES "] ++
    [.text ","].intercalate (s.rows.map (tuplePieces first.size)) ++ [.text ";"]

def tablePieces (head : String) (s : Statement) : List Piece :=
  [.text head] ++ [.text s.table] ++ s.wherePieces ++ [.text ";"]

def pieces (s : Statement) : List Piece :=
  match s.method with
  | none => []
  | some .select => s.selectionPieces
  | some .update => if s.assignments.isEmpty then [] else s.updatePieces
  | some .insert => match s.rows with
    | [] => []
    | first :: _ => s.insertionPieces first
  | some .delete => tablePieces "DELETE FROM " s
  | some .count => tablePieces "SELECT COUNT(*) AS c FROM " s
  | some .findByKey => if s.usableKey = none then [] else s.selectionPieces

-- The values that the method writes, in their order. A row shows no more than the width of
-- the first one; the nulls that fill a short row are not values of the statement.
def shown (s : Statement) : List Value :=
  let conditions := (s.predicates.filter Predicate.qualifies).map Predicate.value
  match s.method with
  | none => []
  | some .select | some .delete | some .count => conditions
  | some .update =>
    if s.assignments.isEmpty then [] else s.assignments.map Prod.snd ++ conditions
  | some .insert => match s.rows with
    | [] => []
    | first :: _ => s.rows.flatMap fun r => r.values.take first.size
  | some .findByKey => if s.usableKey = none then [] else conditions

section
variable (s : Statement)

theorem spells_where : Spells s.wherePieces (fun d e => (d.whereClause e s).sql)
    (((s.predicates.filter Predicate.qualifies).map Predicate.value).flatMap Value.texts) 0 := by
  rw [List.flatMap_map]
  exact Predicate.spells_from s.predicates 0 false

theorem spells_group : Spells s.groupPieces (fun d _ => d.groupClause s) [] 0 := by
  unfold groupPieces Dialect.groupClause
  cases s.groupKey with
  | none => exact .nil
  | some key =>
    by_cases empty : key = ""
    · simp only [if_pos empty]
      exact .nil
    · simp only [if_neg empty]
      exact (Spells.text " GROUP BY ").append (.name key)

theorem spells_sort (k : SortKey) : Spells (sortPieces k) (fun d _ => d.sortKey k) [] 0 := by
  unfold sortPieces Dialect.sortKey
  cases k.direction with
  | ascending => exact (Spells.name k.column).append .nil
  | descending => exact (Spells.name k.column).append (.text " DESC")

theorem spells_order : Spells s.orderPieces (fun d _ => d.orderClause s) [] 0 := by
  unfold orderPieces Dialect.orderClause
  split
  · exact .nil
  · have keys := Spells.intercalate "," s.orderings fun k _ => spells_sort k
    have none : s.orderings.flatMap (fun _ => ([] : List String)) = [] := by simp
    rw [none] at keys
    exact (Spells.text " ORDER BY ").append keys

theorem spells_window (w : Window) :
    Spells (windowPieces w) (fun d _ => d.windowClause w) [] 1 := by
  unfold windowPieces Dialect.windowClause
  split
  · exact .window w.offset w.count
  · exact ⟨fun _ _ => rfl,rfl,Nat.zero_le _⟩

theorem spells_selection : Spells s.selectionPieces (fun d e => (d.selection e s).sql)
    (((s.predicates.filter Predicate.qualifies).map Predicate.value).flatMap Value.texts) 1 := by
  have origin := (((Spells.text "SELECT ").append (.text (Dialect.columnList s))).append
    (.text " FROM ")).append (.text s.table)
  have keyed := ((origin.append s.spells_where).append s.spells_group).append s.spells_order
  have whole := (keyed.append (spells_window s.window)).append (.text ";")
  simp only [List.append_nil,List.nil_append] at whole
  exact whole

theorem spells_assignment (entry : String × Value) :
    Spells (assignmentPieces entry) (fun d e => d.assignment e entry) entry.2.texts 0 :=
  ((Spells.name entry.1).append (.text "=")).append (spells_value entry.2)

theorem spells_update (assigned : s.assignments.isEmpty = false) :
    Spells s.updatePieces (fun d e => (d.update e s).sql) ((s.assignments.map Prod.snd ++
      (s.predicates.filter Predicate.qualifies).map Predicate.value).flatMap Value.texts) 0 := by
  have head := ((Spells.text "UPDATE ").append (.text s.table)).append (.text " SET ")
  have entries := Spells.intercalate ", " s.assignments fun entry _ => spells_assignment entry
  have whole := ((head.append entries).append s.spells_where).append (.text ";")
  simp only [List.append_nil,List.nil_append] at whole
  rw [List.flatMap_append,List.flatMap_map]
  simp only [Dialect.update,assigned,Bool.false_eq_true,if_false]
  exact whole

theorem spells_tuple (width : Nat) (r : Record) : Spells (tuplePieces width r)
    (fun d e => d.tuple e width r) ((r.values.take width).flatMap Value.texts) 0 := by
  have cells := spells_list ((r.values.take width).rightpad width .null)
    fun v _ => spells_value v
  have filling : ∀ n : Nat, (List.replicate n Value.null).flatMap Value.texts = [] := by
    intro n
    rw [List.flatMap_eq_nil_iff]
    intro v member
    rw [List.eq_of_mem_replicate member,Value.texts]
    all_goals simp
  have texts : (Value.list ((r.values.take width).rightpad width .null)).texts =
      (r.values.take width).flatMap Value.texts := by
    rw [Value.texts_list,List.rightpad,List.flatMap_append,filling,List.append_nil]
  rw [texts] at cells
  exact cells

theorem spells_insertion {first : Record} {rest : List Record} (rows : s.rows = first :: rest) :
    Spells (s.insertionPieces first) (fun d e => (d.insertion e s).sql)
      ((s.rows.flatMap fun r => r.values.take first.size).flatMap Value.texts) 0 := by
  have head := (((((Spells.text "INSERT INTO ").append (.text s.table)).append (.text " (")).append
    (.text (",".intercalate first.columns))).append (.text ") VALUES "))
  have tuples := Spells.intercalate "," s.rows fun r _ => spells_tuple first.size r
  have whole := (head.append tuples).append (.text ";")
  simp only [List.append_nil,List.nil_append] at whole
  rw [List.flatMap_assoc]
  simp only [insertionPieces,Dialect.insertion,rows] at whole ⊢
  exact whole

theorem spells_table (head : String) : Spells (tablePieces head s)
    (fun d e => head ++ s.table ++ (d.whereClause e s).sql ++ ";")
    (((s.predicates.filter Predicate.qualifies).map Predicate.value).flatMap Value.texts) 0 := by
  have whole := (((Spells.text head).append (.text s.table)).append s.spells_where).append
    (.text ";")
  simp only [List.append_nil,List.nil_append] at whole
  exact whole

theorem spells_compile : Spells s.pieces (fun d e => (d.compile e s).sql)
    (s.shown.flatMap Value.texts) 1 := by
  unfold pieces shown Dialect.compile
  cases s.method with
  | none => exact Spells.nil.fewer
  | some m =>
    cases m with
    | select => exact s.spells_selection
    | delete => exact (s.spells_table _).fewer
    | count => exact (s.spells_table _).fewer
    | update =>
      cases assigned : s.assignments.isEmpty with
      | true =>
        simp only [Dialect.update,assigned,if_true]
        exact Spells.nil.fewer
      | false =>
        simp only [Bool.false_eq_true,if_false]
        exact (s.spells_update assigned).fewer
    | insert =>
      cases rows : s.rows with
      | nil =>
        simp only [Dialect.insertion,rows]
        exact Spells.nil.fewer
      | cons first rest =>
        have tuples := s.spells_insertion rows
        rw [rows] at tuples
        exact tuples.fewer
    | findByKey =>
      by_cases missing : s.usableKey = none
      · simp only [if_pos missing]
        exact Spells.nil.fewer
      · simp only [if_neg missing]
        exact s.spells_selection

end

theorem rendered_agree {d : Dialect} {e other : Escaper} {pieces : List Piece}
    (agree : ∀ t ∈ pieces.filterMap Piece.string?, e.escape t = other.escape t) :
    rendered d e pieces = rendered d other pieces := by
  refine congrArg String.join (List.map_congr_left fun piece member => ?_)
  cases piece with
  | string content =>
    have held : content ∈ pieces.filterMap Piece.string? :=
      List.mem_filterMap.mpr ⟨_,member,rfl⟩
    rw [Piece.render,Piece.render,agree content held]
  | _ => rfl

-- Dialects differ in how they spell the pieces and in nothing else. The escaper sees the texts
-- among the values that the method writes, each once and in their order, and nothing besides.
theorem compile_pieces (s : Statement) : ∃ (pieces : List Piece) (skips : List Skip),
    (∀ (d : Dialect) (e : Escaper),
      d.compile e s = ⟨String.join (pieces.map (Piece.render d e)),skips⟩) ∧
    pieces.filterMap Piece.string? = s.shown.flatMap Value.texts ∧
    pieces.countP Piece.isWindow ≤ 1 ∧
    ∀ (d : Dialect) (e other : Escaper),
      (∀ t ∈ s.shown.flatMap Value.texts, e.escape t = other.escape t) →
        d.compile e s = d.compile other s := by
  have spelled := s.spells_compile
  have compiled (d : Dialect) (e : Escaper) : d.compile e s = ⟨rendered d e s.pieces,s.skips⟩ := by
    rw [spelled.rendered,← d.compile_skips e s]
  refine ⟨s.pieces,s.skips,compiled,spelled.strings,spelled.windows,fun d e other agree => ?_⟩
  rw [compiled,compiled,rendered_agree (spelled.strings ▸ agree)]

end Statement
end InlineSql
