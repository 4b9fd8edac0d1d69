import InlineSql.Proofs.Session.Traffic
import InlineSql.Proofs.Statement.KeySearch

namespace InlineSql

namespace Event

def TellsFailure (event : Event) : Prop :=
  event.level = .warn ∧ event.message = "count query failed, reporting 0"

def TellsNoRows (event : Event) : Prop :=
  event.level = .warn ∧ event.message = "count query returned no result set, reporting 0"

theorem tellsFailure_iff {event : Event} :
    event.TellsFailure ↔ ∃ table failure, event = .countFailed table failure := by
  cases event <;> simp [TellsFailure,level,message]

theorem tellsNoRows_iff {event : Event} :
    event.TellsNoRows ↔ ∃ table, event = .countWithoutRows table := by
  cases event <;> simp [TellsNoRows,level,message]

-- Compiling tells what it skips, which is neither of the two.
theorem told_behind {tells : Event → Prop} (quiet : ∀ skip, ¬ tells (.skipped skip)) (x : Compiled)
    (later : List Event) : (∃ event ∈ x.events ++ later, tells event) ↔ ∃ event ∈ later, tells event := by
  constructor
  · rintro ⟨event,member,told⟩
    rcases List.mem_append.mp member with skipped | behind
    · obtain ⟨skip,_,rfl⟩ := List.mem_map.mp skipped
      exact absurd told (quiet skip)
    · exact ⟨event,behind,told⟩
  · rintro ⟨event,behind,told⟩
    exact ⟨event,List.mem_append_right _ behind,told⟩

theorem failure_behind (x : Compiled) (later : List Event) :
    (∃ event ∈ x.events ++ later, event.TellsFailure) ↔ ∃ event ∈ later, event.TellsFailure :=
  told_behind (fun skip => by simp [tellsFailure_iff]) x later

theorem noRows_behind (x : Compiled) (later : List Event) :
    (∃ event ∈ x.events ++ later, event.TellsNoRows) ↔ ∃ event ∈ later, event.TellsNoRows :=
  told_behind (fun skip => by simp [tellsNoRows_iff]) x later

end Event

namespace Query

def answer (q : Query) (c : Connection) : Response := (c.query (q.compile c).sql).1
def served (q : Query) (c : Connection) : Connection := (c.query (q.compile c).sql).2

def counted (q : Query) (c : Connection) (value : Int64) (warnings : List Event) : Run Int64 :=
  ⟨value,q.served c,(q.compile c).events ++
    (.executing q.dialect.flavor (q.compile c).sql :: warnings)⟩

def countOf : Response → Int64
  | .ok (.rows set) => firstCount set
  | .ok (.affected _) | .error _ => 0

theorem countOf_first (first : Record) (later : List Record) :
    countOf (.ok (.rows ⟨first :: later⟩)) = ((first.get? "c").map Value.toInt64).getD 0 := by
  rw [countOf,firstCount,ResultSet.fetch,Option.bind_some]
  cases first.get? "c" <;> rfl

theorem countOf_pos {response : Response} : 0 < countOf response ↔ ∃ first later value,
    response = .ok (.rows ⟨first :: later⟩) ∧ first.get? "c" = some value ∧
      0 < value.toInt64 := by
  have nothing : ¬ (0 : Int64) < 0 := by decide
  constructor
  · intro positive
    rcases response with error | ⟨⟨_ | ⟨first,later⟩⟩⟩ | n
    case error => exact absurd positive nothing
    case ok.rows.nil => exact absurd positive nothing
    case ok.affected => exact absurd positive nothing
    case ok.rows.cons =>
      rw [countOf_first] at positive
      cases found : first.get? "c" with
      | none =>
        rw [found] at positive
        exact absurd positive nothing
      | some value =>
        rw [found] at positive
        exact ⟨first,later,value,rfl,found,positive⟩
  · rintro ⟨first,later,value,rfl,found,positive⟩
    rw [countOf_first,found]
    exact positive

def countWarnings (q : Query) : Response → List Event
  | .error error => [.countFailed q.statement.table (.connection error)]
  | .ok (.affected _) => [.countWithoutRows q.statement.table]
  | .ok (.rows _) => []

section
variable {q : Query} (c : Connection)

theorem executeCount_refused (idle : q.statement.isIdle = true) : q.executeCount c =
    ⟨0,c,(q.compile c).events ++ [.emptyRefused q.statement.table q.statement.method,
      .countFailed q.statement.table .emptyStatement]⟩ := by
  rw [executeCount,execute_refused c idle]
  dsimp only
  rw [List.append_assoc]
  rfl

theorem executeCount_performed (busy : q.statement.isIdle = false) :
    q.executeCount c = q.counted c (countOf (q.answer c)) (q.countWarnings (q.answer c)) := by
  have later (warning : Event) : (q.compile c).events ++
      [.executing q.dialect.flavor (q.compile c).sql] ++ [warning] = (q.compile c).events ++
        [.executing q.dialect.flavor (q.compile c).sql,warning] := List.append_assoc ..
  rw [executeCount,execute_performed c busy,answer,counted]
  cases (c.query (q.compile c).sql).1 with
  | error error => exact congrArg (Run.mk _ _) (later _)
  | ok outcome =>
    cases outcome with
    | affected n => exact congrArg (Run.mk _ _) (later _)
    | rows set => rfl

end

-- Every failure counts as zero, and the log tells them apart. What is counted is what the column
-- of the first row says, whatever other columns and rows there are.
structure Counts (q : Query) (c : Connection) : Prop where
  refused : q.statement.isIdle = true → q.executeCount c =
    ⟨0,c,(q.compile c).events ++ [.emptyRefused q.statement.table q.statement.method,
      .countFailed q.statement.table .emptyStatement]⟩
  failed : q.statement.isIdle = false → ∀ error, q.answer c = .error error →
    q.executeCount c = q.counted c 0 [.countFailed q.statement.table (.connection error)]
  affected : q.statement.isIdle = false → ∀ n, q.answer c = .ok (.affected n) →
    q.executeCount c = q.counted c 0 [.countWithoutRows q.statement.table]
  empty : q.statement.isIdle = false → q.answer c = .ok (.rows ⟨[]⟩) →
    q.executeCount c = q.counted c 0 []
  missing : q.statement.isIdle = false → ∀ first later,
    q.answer c = .ok (.rows ⟨first :: later⟩) → first.get? "c" = none →
      q.executeCount c = q.counted c 0 []
  found : q.statement.isIdle = false → ∀ first later value,
    q.answer c = .ok (.rows ⟨first :: later⟩) → first.get? "c" = some value →
      q.executeCount c = q.counted c value.toInt64 []
  failureTold : (∃ event ∈ (q.executeCount c).events, event.TellsFailure) ↔
    q.statement.isIdle = true ∨ ∃ error, q.answer c = .error error
  noRowsTold : (∃ event ∈ (q.executeCount c).events, event.TellsNoRows) ↔
    q.statement.isIdle = false ∧ ∃ n, q.answer c = .ok (.affected n)

theorem counts (q : Query) (c : Connection) : q.Counts c := by
  have performed := executeCount_performed (q:=q) c
  constructor
  case refused => exact executeCount_refused c
  case failed =>
    intro busy error answered
    rw [performed busy,answered]
    rfl
  case affected =>
    intro busy n answered
    rw [performed busy,answered]
    rfl
  case empty =>
    intro busy answered
    rw [performed busy,answered]
    rfl
  case missing =>
    intro busy first later answered absent
    rw [performed busy,answered,countOf_first,absent]
    rfl
  case found =>
    intro busy first later value answered present
    rw [performed busy,answered,countOf_first,present]
    rfl
  case failureTold =>
    cases idle : q.statement.isIdle with
    | true =>
      rw [executeCount_refused c idle,Event.failure_behind]
      simp [Event.tellsFailure_iff]
    | false =>
      rw [performed idle,counted,Event.failure_behind]
      rcases q.answer c with error | n | set <;> simp [Event.tellsFailure_iff,countWarnings]
  case noRowsTold =>
    cases idle : q.statement.isIdle with
    | true =>
      rw [executeCount_refused c idle,Event.noRows_behind]
      simp [Event.tellsNoRows_iff]
    | false =>
      rw [performed idle,counted,Event.noRows_behind]
      rcases q.answer c with error | n | set <;> simp [Event.tellsNoRows_iff,countWarnings]

end Query

namespace Dialect

variable (d : Dialect) (e : Escaper)

def entryText (entry : String × Value) : String :=
  d.quoteIdentifier entry.1 ++ d.keyText e entry.2

theorem join_and (entries : List (String × Value)) (first : String) :
    first ++ String.join (entries.map fun entry => " AND " ++ d.entryText e entry) =
      " AND ".intercalate (first :: entries.map (d.entryText e)) := by
  induction entries generalizing first with
  | nil => simp
  | cons entry rest ih =>
    rw [List.map_cons,List.map_cons,String.join_cons,String.intercalate_cons_cons,← ih]
    simp only [String.append_assoc]

theorem whereText_entries (entries : List (String × Value)) :
    d.whereText e (Clause.whereAll entries).predicates = match entries.filter (·.1 ≠ "") with
      | [] => ""
      | named => " WHERE " ++ " AND ".intercalate (named.map (d.entryText e)) := by
  let predicate : String × Value → Predicate := fun entry => {column:=entry.1,value:=entry.2}
  have qualifies : Predicate.qualifies ∘ predicate = fun entry => decide (entry.1 ≠ "") := by
    funext entry
    rw [Bool.eq_iff_iff]
    simp [Predicate.qualifies,predicate]
  have qualifying : (entries.map predicate).filter Predicate.qualifies =
      (entries.filter (·.1 ≠ "")).map predicate := by
    rw [List.filter_map,qualifies]
  rw [whereText_every]
  change d.everyCondition e ((entries.map predicate).filter Predicate.qualifies) = _
  rw [qualifying]
  cases entries.filter (·.1 ≠ "") with
  | nil => rfl
  | cons entry rest =>
    have linked : d.linkedText e ∘ predicate = fun entry => " AND " ++ d.entryText e entry := by
      funext entry
      change " " ++ "AND" ++ " " ++ d.condition e (predicate entry) = _
      rw [d.condition_key]
      rfl
    rw [List.map_cons,everyCondition_cons,d.condition_key,List.map_map,linked,String.append_assoc]
    exact congrArg (" WHERE " ++ ·) (d.join_and e rest (d.entryText e entry))

end Dialect

namespace Table

def countQuery (t : Table) (attributes : List (String × Value)) : Query :=
  t.count.add (.whereAll attributes)

theorem countQuery_statement (t : Table) (attributes : List (String × Value)) :
    (t.countQuery attributes).statement =
      {table:=t.name,method:=some .count,predicates:=(Clause.whereAll attributes).predicates} := by
  change (Statement.start t.name .count).add (.whereAll attributes) = _
  rw [Statement.add,Statement.foldl_addPredicate]
  rfl

-- A count by attributes is sent once, as it is written, and is read as any count is. There are
-- rows when it is positive, so never after a failure.
structure CountsBy (t : Table) (c : Connection) (attributes : List (String × Value)) : Prop where
  text : ((t.countQuery attributes).compile c).sql = "SELECT COUNT(*) AS c FROM " ++ t.name ++
    (match attributes.filter (·.1 ≠ "") with
      | [] => ""
      | named => " WHERE " ++ " AND ".intercalate (named.map (t.dialect.entryText c.escaper))) ++ ";"
  sent : (t.countBy c attributes).connection.sent =
    c.sent ++ [((t.countQuery attributes).compile c).sql]
  taken : (t.countBy c attributes).connection.pending = c.pending.tail
  counted : t.countBy c attributes = (t.countQuery attributes).executeCount c
  present : (t.existsBy c attributes).value = true ↔ 0 < (t.countBy c attributes).value
  alike : (t.existsBy c attributes).connection = (t.countBy c attributes).connection ∧
    (t.existsBy c attributes).events = (t.countBy c attributes).events
  shown : (t.existsBy c attributes).value = true ↔ ∃ first later value,
    (t.countQuery attributes).answer c = .ok (.rows ⟨first :: later⟩) ∧
      first.get? "c" = some value ∧ 0 < value.toInt64

theorem countsBy (t : Table) (c : Connection) (attributes : List (String × Value)) :
    t.CountsBy c attributes := by
  let q := t.countQuery attributes
  have statement := t.countQuery_statement attributes
  have busy : q.statement.isIdle = false := by rw [statement]; rfl
  have performed := Query.executeCount_performed c busy
  have positive : (t.existsBy c attributes).value = true ↔ 0 < Query.countOf (q.answer c) := by
    change decide (0 < (q.executeCount c).value) = true ↔ _
    rw [decide_eq_true_eq,performed]
    rfl
  constructor
  case text =>
    rw [Query.compile,statement,← t.dialect.whereText_entries c.escaper attributes]
    rfl
  case sent => exact congrArg (Connection.sent ∘ Run.connection) performed
  case taken => exact congrArg (Connection.pending ∘ Run.connection) performed
  case counted => rfl
  case present => exact decide_eq_true_iff
  case alike => exact ⟨rfl,rfl⟩
  case shown => exact positive.trans Query.countOf_pos

theorem count_exact : (∀ (q : Query) (c : Connection), q.Counts c) ∧
    ∀ (t : Table) (c : Connection) (attributes : List (String × Value)), t.CountsBy c attributes :=
  ⟨Query.counts,countsBy⟩

theorem count_exact_three :
    let t : Table := {name:="t",dialect:=.sqlite}
    let first := Record.ofEntries [("d",.int 9),("c",.int 3)]
    let c := Connection.connect (some .sqlite) none [.ok (.rows ⟨[first]⟩)]
    let attributes : List (String × Value) := [("",.int 8),("a",.int 1),("b",.text "it's")]
    (t.countBy c attributes).value = 3 ∧ (t.existsBy c attributes).value = true ∧
      (t.countBy c attributes).connection.sent =
        ["SELECT COUNT(*) AS c FROM t WHERE \"a\"=1 AND \"b\"='it''s';"] := by
  intro t first c attributes
  have counts := count_exact.1 (t.countQuery attributes) c
  have countsBy := count_exact.2 t c attributes
  have column : first.get? "c" = some (.int 3) := rfl
  have value : (t.countBy c attributes).value = 3 := by
    rw [countsBy.counted,counts.found rfl first [] (.int 3) rfl column]
    rfl
  have text : ((t.countQuery attributes).compile c).sql =
      "SELECT COUNT(*) AS c FROM t WHERE \"a\"=1 AND \"b\"='it''s';" := by
    rw [countsBy.text]
    decide +kernel
  refine ⟨value,countsBy.present.mpr (by rw [value]; decide),?_⟩
  rw [countsBy.sent,text]
  rfl

end Table
end InlineSql
