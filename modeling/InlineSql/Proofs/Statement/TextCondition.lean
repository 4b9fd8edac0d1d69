import InlineSql.Proofs.Scan.EscapeString

namespace InlineSql
open Scan

namespace Dialect

theorem conditions_append (d : Dialect) (e : Escaper) (earlier later : List Predicate) (index : Nat)
    (started : Bool) : (d.conditions e index started (earlier ++ later)).sql =
      (d.conditions e index started earlier).sql ++
        (d.conditions e (index + earlier.length) (started || earlier.any Predicate.qualifies)
          later).sql := by
  induction earlier generalizing index started with
  | nil => simp [conditions,Compiled.nothing]
  | cons p rest ih =>
    have places : index + 1 + rest.length = index + (p :: rest).length := by
      rw [List.length_cons]
      omega
    rw [List.cons_append,conditions,conditions]
    by_cases written : p.qualifies = true
    · simp [written,ih,places,String.append_assoc]
    · simp [written,ih,places]

end Dialect

def Parted (text : String) : Prop := text.toList.head?.all (fun c => c == ' ' || c == ';') = true

namespace Parted

variable {x y : String}

theorem append (first : Parted x) (second : Parted y) : Parted (x ++ y) := by
  unfold Parted at *
  rw [String.toList_append]
  cases here : x.toList with
  | nil => exact second
  | cons c rest =>
    rw [here] at first
    exact first

theorem empty : Parted "" := rfl

theorem blank (x y : String) (begins : x.toList.head? = some ' ' := by decide) :
    Parted (x ++ y) := by
  rw [Parted,String.toList_append,List.head?_append,begins]
  rfl

theorem unquoted (parted : Parted x) : x.toList.head? ≠ some '\'' := by
  intro mark
  rw [Parted,mark] at parted
  cases parted

end Parted

theorem opening_begins (started : Bool) (p : Predicate) :
    (opening started p).toList.head? = some ' ' := by cases started <;> simp [opening]

theorem opening_ends (started : Bool) (p : Predicate) :
    ∃ front, (opening started p).toList = front ++ [' '] := by
  cases started with
  | false => exact ⟨[' ','W','H','E','R','E'],by simp [opening]⟩
  | true => exact ⟨' ' :: p.connective.word.toList,by simp [opening]⟩

theorem conditions_parted (d : Dialect) (e : Escaper) (ps : List Predicate) (index : Nat)
    (started : Bool) : Parted (d.conditions e index started ps).sql := by
  induction ps generalizing index started with
  | nil => exact .empty
  | cons p rest ih =>
    rw [Dialect.conditions]
    split
    · have begins := opening_begins started p
      dsimp only
      rw [String.append_assoc]
      exact .blank _ _ begins
    · exact ih (index + 1) started

section
variable (f : Flavor) (e : Escaper) (s : Statement)

theorem group_parted : Parted (f.dialect.groupClause s) := by
  unfold Dialect.groupClause
  split
  · exact .empty
  · split
    · exact .empty
    · exact .blank " GROUP BY " _

theorem order_parted : Parted (f.dialect.orderClause s) := by
  unfold Dialect.orderClause
  split
  · exact .empty
  · exact .blank " ORDER BY " _

theorem window_parted (w : Window) : Parted (f.dialect.windowClause w) := by
  unfold Dialect.windowClause
  split
  · rw [Flavor.limitClause_text,String.append_assoc]
    exact .blank " LIMIT " _
  · exact .empty

variable {f e s} in
theorem frame_parted {w : Frame} (framed : f.dialect.frame e s = some w) : Parted w.after := by
  have close : Parted ";" := by rw [Parted]; rfl
  have clauses : Parted (f.dialect.selectionFrame s).after :=
    (((group_parted f s).append (order_parted f s)).append (window_parted f s.window)).append close
  unfold Dialect.frame at framed
  split at framed
  · cases framed
  · cases framed
  · cases framed
    exact clauses
  · split at framed
    · cases framed
    · cases framed
      exact close
  · cases framed
    exact close
  · cases framed
    exact close
  · split at framed
    · cases framed
    · cases framed
      exact clauses

end

def leadText (f : Flavor) (w : Frame) (earlier : List Predicate) (p : Predicate) : String :=
  w.before ++ (f.dialect.conditions f.escaper 0 false earlier).sql ++
    opening (earlier.any Predicate.qualifies) p

def tailText (f : Flavor) (w : Frame) (index : Nat) (later : List Predicate) : String :=
  (f.dialect.conditions f.escaper (index + 1) true later).sql ++ w.after

section
variable {f : Flavor} {s : Statement} {w : Frame} {earlier later : List Predicate} {p : Predicate}

theorem toSql_around (framed : f.dialect.frame f.escaper s = some w)
    (place : s.predicates = earlier ++ p :: later) (written : p.qualifies = true) :
    s.toSql f = leadText f w earlier p ++ f.dialect.condition f.escaper p ++
      tailText f w earlier.length later := by
  have conditions : (f.dialect.whereClause f.escaper s).sql =
      (f.dialect.conditions f.escaper 0 false earlier).sql ++
        (opening (earlier.any Predicate.qualifies) p ++ f.dialect.condition f.escaper p ++
          (f.dialect.conditions f.escaper (earlier.length + 1) true later).sql) := by
    rw [Dialect.whereClause,place,Dialect.conditions_append,Nat.zero_add,Bool.false_or,
      Dialect.conditions,if_pos written]
    rfl
  change (f.dialect.compile f.escaper s).sql = _
  rw [Dialect.compile_frame,framed]
  dsimp only [Dialect.framed]
  simp only [conditions,leadText,tailText,String.append_assoc]

theorem leadText_ends (f : Flavor) (w : Frame) (earlier : List Predicate) (p : Predicate) :
    ∃ front, (leadText f w earlier p).toList = front ++ [' '] := by
  obtain ⟨front,blank⟩ := opening_ends (earlier.any Predicate.qualifies) p
  exact ⟨_,by rw [leadText,String.toList_append,blank,← List.append_assoc]⟩

theorem tailText_parted (framed : f.dialect.frame f.escaper s = some w) (index : Nat)
    (later : List Predicate) : Parted (tailText f w index later) :=
  (conditions_parted _ _ later _ true).append (frame_parted framed)

theorem Predicate.SameShape.each (ps : List Predicate) : List.Forall₂ Predicate.SameShape ps ps :=
  List.forall₂_same.mpr fun _ _ => ⟨rfl,rfl,rfl,rfl⟩

theorem Statement.SameShape.refl (s : Statement) : s.SameShape s :=
  ⟨rfl,rfl,rfl,Predicate.SameShape.each s.predicates,rfl,rfl,rfl,rfl,rfl,rfl⟩

theorem leadText_outside (framed : f.dialect.frame f.escaper s = some w)
    (place : s.predicates = earlier ++ p :: later) (written : p.qualifies = true)
    (built : s.Built) (calm : s.Calm) (free : s.RawFree) :
    ∃ recent, (start.along f (leadText f w earlier p).toList).mode = .outside recent := by
  have begun : start.mode.Ready := by simp [start,Mode.Ready]
  have unremarked : start.Unremarked := by simp [start,Unremarked]
  have predicates := calm.predicate free
  rw [place] at predicates
  have frames := alike_frame (f:=f) built built calm free (.refl s)
  rw [framed] at frames
  cases frames with
  | some around =>
    have conditions := alike_conditions f (Predicate.SameShape.each earlier)
      (fun q member => predicates q (List.mem_append_left _ member)) 0 false
    have words := alike_opening f (earlier.any Predicate.qualifies) (predicates p (by simp) written)
    have lead := (around.before.append conditions).append words
    rw [← String.toList_append,← String.toList_append] at lead
    obtain ⟨_,fresh,_⟩ := lead start start rfl begun unremarked
    exact fresh.outside

end

-- A condition on a text that PostgreSQL reads as the encoder meant it: the text is one escape
-- string exactly when the condition begins outside every quotation and comment and its operator
-- does not end in a letter. Nothing is put between the operator and the letter of the string.
theorem text_in_escape_string {s : Statement} {w : Frame} {earlier later : List Predicate}
    {p : Predicate} {t : String}
    (framed : Flavor.postgresql.dialect.frame Flavor.postgresql.escaper s = some w)
    (place : s.predicates = earlier ++ p :: later) (written : p.qualifies = true)
    (value : p.value = .text t) (comparison : p.operator.toList.all isComparisonChar = true) :
    let lead := leadText .postgresql w earlier p
    let before := (lead ++ Flavor.postgresql.quote p.column ++ p.operator).toList
    let body := (Text.backslash t).toList
    let after := (tailText .postgresql w earlier.length later).toList
    (s.toSql .postgresql).toList = before ++ ['E','\''] ++ body ++ ['\''] ++ after ∧
      (EscapeString before body after ↔
        (∃ recent, (start.along .postgresql lead.toList).mode = .outside recent) ∧
          p.operator.toList.getLast?.any Char.isAlpha = false) ∧
      (s.Built → s.Calm → s.RawFree → EscapeString before body after) := by
  intro lead before body after
  have leaf : p.value.isList = false := by rw [value]; rfl
  have name : (Flavor.postgresql.quote p.column).toList =
      '"' :: p.column.toList.flatMap (Text.twice '"') ++ ['"'] := Text.toList_quoteName '"' p.column
  have exactly : EscapeString before body after ↔
      (∃ recent, (start.along .postgresql lead.toList).mode = .outside recent) ∧
        p.operator.toList.getLast?.any Char.isAlpha = false := by
    obtain ⟨front,ends⟩ := leadText_ends .postgresql w earlier p
    have parts : before = front ++ [' '] ++
        ('"' :: p.column.toList.flatMap (Text.twice '"') ++ ['"']) ++ p.operator.toList := by
      rw [← ends,← name,← String.toList_append,← String.toList_append]
    rw [parts,show lead.toList = front ++ [' '] from ends]
    exact escapeString_iff t comparison (tailText_parted framed earlier.length later).unquoted
  refine ⟨?_,exactly,fun built calm free => exactly.mpr ⟨?_,?_⟩⟩
  · rw [toSql_around framed place written,condition_leaf leaf,value,Dialect.encode,
      Flavor.dialect_quote]
    simp [lead,before,body,after,toList_stringLiteral,Flavor.dialect,Dialect.postgres,
      Flavor.escaper]
  · exact leadText_outside framed place written built calm free
  · obtain ⟨_,apart⟩ := calm.operators p (by simp [place]) written
    cases last : p.operator.toList.getLast? with
    | none => rfl
    | some c =>
      rw [last] at apart
      have letter := comparison_word
        (List.all_eq_true.mp comparison c (List.mem_of_getLast? last))
      simpa [letter] using apart

theorem text_in_escape_string_like :
    let p : Predicate := ⟨"name",.text "x\\' OR 1=1; -- ","NOT LIKE ",.or⟩
    let s := (Statement.start "users" .select).build [.whereEq "id" (.int 7),.predicate p,.limit 2]
    let before := "SELECT * FROM users WHERE \"id\"=7 OR \"name\"NOT LIKE ".toList
    let body := "x\\\\\\' OR 1=1; -- ".toList
    let after := " LIMIT 2 OFFSET 0;".toList
    s.predicates = [⟨"id",.int 7,"=",.and⟩] ++ p :: [] ∧ p.qualifies = true ∧
      p.operator.toList.all isComparisonChar = true ∧
      (s.toSql .postgresql).toList = before ++ ['E','\''] ++ body ++ ['\''] ++ after ∧
      EscapeString before body after := by
  intro p s before body after
  let w : Frame := ⟨"SELECT * FROM users"," LIMIT 2 OFFSET 0;"⟩
  have framed : Flavor.postgresql.dialect.frame Flavor.postgresql.escaper s = some w := by
    decide +kernel
  have place : s.predicates = [⟨"id",.int 7,"=",.and⟩] ++ p :: [] := rfl
  have comparison : p.operator.toList.all isComparisonChar = true := by decide +kernel
  obtain ⟨text,exactly,_⟩ := text_in_escape_string framed place rfl rfl comparison
  have front : (leadText .postgresql w [⟨"id",.int 7,"=",.and⟩] p ++
      Flavor.postgresql.quote p.column ++ p.operator).toList = before := by decide +kernel
  have inner : (Text.backslash "x\\' OR 1=1; -- ").toList = body := by decide +kernel
  have rest : (tailText .postgresql w 1 []).toList = after := by decide +kernel
  have outside : (start.along .postgresql
      (leadText .postgresql w [⟨"id",.int 7,"=",.and⟩] p).toList).mode =
        .outside "=7 OR ".toList.reverse := by decide +kernel
  have apart : p.operator.toList.getLast?.any Char.isAlpha = false := by decide +kernel
  rw [front,inner] at text exactly
  exact ⟨place,rfl,comparison,rest ▸ text,rest ▸ exactly.mpr ⟨⟨_,outside⟩,apart⟩⟩

-- A word without a blank takes the letter in. The string is then an ordinary one, which a text
-- with a quote can leave: what stands behind the quote is read as part of the statement.
theorem escape_string_lost :
    let s := (Statement.start "t" .select).build [.whereOp "name" "LIKE" (.text "x' OR 1=1 --")]
    let before := "SELECT * FROM t WHERE \"name\"LIKE".toList
    let body := "x\\' OR 1=1 --".toList
    "LIKE".toList.all isComparisonChar = true ∧
      (s.toSql .postgresql).toList = before ++ ['E','\''] ++ body ++ ['\''] ++ [';'] ∧
      ¬ EscapeString before body [';'] ∧
      Flavor.postgresql.divide (s.toSql .postgresql) = some
        [.outside "SELECT * FROM t WHERE ".toList,.quoted ⟨true,'"',false⟩ "name".toList,
          .outside "LIKEE".toList,.quoted ⟨false,'\'',false⟩ "x\\".toList,
          .outside " OR 1=1 -".toList,.comment .line "-';".toList] := by
  intro s before body
  have comparison : "LIKE".toList.all isComparisonChar = true := by decide +kernel
  have text : (s.toSql .postgresql).toList =
      before ++ ['E','\''] ++ body ++ ['\''] ++ [';'] := by decide +kernel
  refine ⟨comparison,text,?_,by decide +kernel⟩
  rintro ⟨segments,opened,_⟩
  have other : (start.along .postgresql (before ++ ['E','\''])).mode ≠
      .inside ⟨false,'\'',true⟩ [] := by decide +kernel
  exact other (congrArg Scan.mode opened)

end InlineSql
