import InlineSql.Proofs.Record.Basic
import InlineSql.Proofs.Session.Traffic

namespace InlineSql

def QueryStart.begin (keyColumn : String) : QueryStart → Statement.Start
  | .select => .select
  | .update => .update
  | .insert => .insert
  | .delete => .delete
  | .count => .count
  | .findByKey key => .findByKey keyColumn key

theorem start_query (t : Table) (kind : QueryStart) :
    t.start kind = ⟨t.dialect,.start t.name (kind.begin t.keyColumn)⟩ := by
  cases kind <;> rfl

theorem build_query (q : Query) (clauses : List Clause) :
    q.build clauses = ⟨q.dialect,q.statement.build clauses⟩ := by
  induction clauses generalizing q with
  | nil => rfl
  | cons c rest ih => exact ih (q.add c)

-- What the calls alone say of a table. The family is the one that it was opened for; a table
-- that was given a dialect of its own was opened for none.
structure Handle where
  name : String
  keyColumn : String := "id"
  family : Option Flavor

structure Origin where
  table : Handle
  kind : QueryStart
  clauses : List Clause := []

def Origin.statement (o : Origin) : Statement :=
  (Statement.start o.table.name (o.kind.begin o.table.keyColumn)).build o.clauses

structure Ledger where
  tables : String → Option Handle
  queries : String → Option Origin

namespace Ledger

def empty : Ledger := ⟨fun _ => none,fun _ => none⟩

def setTable (l : Ledger) (target : String) (h : Option Handle) : Ledger :=
  {l with tables:=fun name => if name = target then h else l.tables name}

def setQuery (l : Ledger) (target : String) (o : Option Origin) : Ledger :=
  {l with queries:=fun name => if name = target then o else l.queries name}

def note (declared : Option Flavor) (l : Ledger) : Call → Ledger
  | .table target name => l.setTable target (some {name,family:=declared})
  | .tableWithFlavor target name flavor => l.setTable target (some {name,family:=some flavor})
  | .tableWithDialect target name _ => l.setTable target (some {name,family:=none})
  | .cloneTable target source => l.setTable target (l.tables source)
  | .setKeyColumn table column =>
    l.setTable table ((l.tables table).map fun h => {h with keyColumn:=column})
  | .start query table kind => l.setQuery query ((l.tables table).map fun h => {table:=h,kind})
  | .build query clause =>
    l.setQuery query ((l.queries query).map fun o => {o with clauses:=o.clauses ++ [clause]})
  | .intoStatement query _ => l.setQuery query none
  | _ => l

end Ledger

structure Handle.Fits (h : Handle) (t : Table) : Prop where
  name : t.name = h.name
  keyColumn : t.keyColumn = h.keyColumn
  dialect : ∀ f, h.family = some f → t.dialect = f.dialect

structure Origin.Fits (o : Origin) (q : Query) : Prop where
  statement : q.statement = o.statement
  dialect : ∀ f, o.table.family = some f → q.dialect = f.dialect

theorem Handle.Fits.start {h : Handle} {t : Table} (fits : h.Fits t) (kind : QueryStart) :
    Origin.Fits {table:=h,kind} (t.start kind) := by
  rw [start_query]
  refine ⟨?_,fits.dialect⟩
  rw [Origin.statement,fits.name,fits.keyColumn]
  rfl

theorem Origin.Fits.add {o : Origin} {q : Query} (fits : o.Fits q) (c : Clause) :
    Origin.Fits {o with clauses:=o.clauses ++ [c]} (q.add c) := by
  refine ⟨?_,fits.dialect⟩
  rw [Origin.statement,Statement.build,List.foldl_append,Query.add,fits.statement]
  rfl

namespace Session

theorem rel_statement {x : Option Origin} {y : Option Query} (related : Option.Rel Origin.Fits x y) :
    y.map Query.statement = x.map Origin.statement := by
  cases related with
  | some fits => exact congrArg some fits.statement
  | none => rfl

theorem rel_some {α β : Type} {r : α → β → Prop} {x : Option α} {b : β}
    (related : Option.Rel r x (some b)) : ∃ a, x = some a ∧ r a b := by
  cases related with
  | some fits => exact ⟨_,rfl,fits⟩

theorem some_rel {α β : Type} {r : α → β → Prop} {a : α} {y : Option β}
    (related : Option.Rel r (some a) y) : ∃ b, y = some b ∧ r a b := by
  cases related with
  | some fits => exact ⟨_,rfl,fits⟩

section
variable {α : Type} (name key : String)

theorem lookup_others (bindings : List (String × α)) :
    (bindings.filter (·.1 != name)).lookup key = if key = name then none else bindings.lookup key := by
  induction bindings with
  | nil => simp
  | cons entry rest ih =>
    obtain ⟨bound,value⟩ := entry
    rw [lookup_binding,List.filter_cons]
    by_cases own : bound = name
    · subst own
      rw [if_neg (by simp),ih]
      by_cases same : key = bound <;> simp [same]
    · have kept : (bound != name) = true := by simpa using own
      rw [if_pos kept,lookup_binding,ih]
      by_cases same : key = bound
      · simp [same,own]
      · simp [same]

theorem lookup_rebind (value : α) (bindings : List (String × α)) :
    (rebind name value bindings).lookup key =
      if key = name then some value else bindings.lookup key := by
  rw [rebind,lookup_binding,lookup_others]
  by_cases same : key = name <;> simp [same]

end

structure Follows (s : Session) (l : Ledger) : Prop where
  tables : ∀ name, Option.Rel Handle.Fits (l.tables name) (s.table? name)
  queries : ∀ name, Option.Rel Origin.Fits (l.queries name) (s.query? name)

namespace Follows

variable {s : Session} {l : Ledger} (follows : s.Follows l)
include follows

theorem bindTable {h : Option Handle} {t : Table} (target : String)
    (fits : Option.Rel Handle.Fits h (some t)) :
    (s.bindTable target t).Follows (l.setTable target h) := by
  refine ⟨fun name => ?_,follows.queries⟩
  rw [table?,Session.bindTable,lookup_rebind,Ledger.setTable]
  dsimp only
  split
  · exact fits
  · exact follows.tables name

theorem bindQuery {o : Option Origin} {q : Query} (target : String)
    (fits : Option.Rel Origin.Fits o (some q)) :
    (s.bindQuery target q).Follows (l.setQuery target o) := by
  refine ⟨follows.tables,fun name => ?_⟩
  rw [query?,Session.bindQuery,lookup_rebind,Ledger.setQuery]
  dsimp only
  split
  · exact fits
  · exact follows.queries name

theorem forgetQuery (target : String) :
    (s.forgetQuery target).Follows (l.setQuery target none) := by
  refine ⟨follows.tables,fun name => ?_⟩
  rw [query?,Session.forgetQuery,lookup_others,Ledger.setQuery]
  dsimp only
  split
  · exact .none
  · exact follows.queries name

theorem table {name : String} {t : Table} (bound : s.table? name = some t) :
    ∃ h, l.tables name = some h ∧ h.Fits t :=
  rel_some (bound ▸ follows.tables name)

theorem query {name : String} {q : Query} (bound : s.query? name = some q) :
    ∃ o, l.queries name = some o ∧ o.Fits q :=
  rel_some (bound ▸ follows.queries name)

theorem statement (name : String) :
    (s.query? name).map Query.statement = (l.queries name).map Origin.statement :=
  rel_statement (follows.queries name)

end Follows

theorem step_follows {s : Session} {l : Ledger} {call : Call} {step : Step} (follows : s.Follows l)
    (stepped : s.step call = some step) :
    step.session.Follows (l.note s.connection.flavor call) := by
  cases call with
  | table target name =>
    cases stepped
    refine follows.bindTable target (.some ⟨rfl,rfl,fun f declared => ?_⟩)
    have named : s.connection.flavor = some f := declared
    change (s.connection.flavor.getD s.defaultFlavor.current).dialect = f.dialect
    rw [named]
    rfl
  | tableWithFlavor target name flavor =>
    cases stepped
    exact follows.bindTable target (.some ⟨rfl,rfl,fun f given => by cases given; rfl⟩)
  | tableWithDialect target name dialect =>
    cases stepped
    exact follows.bindTable target (.some ⟨rfl,rfl,fun f given => by cases given⟩)
  | cloneTable target source =>
    obtain ⟨t,bound,rest⟩ := Option.bind_eq_some_iff.mp stepped
    cases rest
    exact follows.bindTable target (bound ▸ follows.tables source)
  | setKeyColumn table column =>
    obtain ⟨t,bound,rest⟩ := Option.bind_eq_some_iff.mp stepped
    obtain ⟨h,known,fits⟩ := follows.table bound
    cases rest
    rw [Ledger.note,known]
    exact follows.bindTable table (.some ⟨fits.name,rfl,fits.dialect⟩)
  | start query table kind =>
    obtain ⟨t,bound,rest⟩ := Option.bind_eq_some_iff.mp stepped
    obtain ⟨h,known,fits⟩ := follows.table bound
    cases rest
    rw [Ledger.note,known]
    exact follows.bindQuery query (.some (fits.start kind))
  | build query clause =>
    obtain ⟨q,bound,rest⟩ := Option.bind_eq_some_iff.mp stepped
    obtain ⟨o,known,fits⟩ := follows.query bound
    cases rest
    rw [Ledger.note,known]
    exact follows.bindQuery query (.some (fits.add clause))
  | intoStatement query flavor =>
    obtain ⟨q,bound,rest⟩ := Option.bind_eq_some_iff.mp stepped
    cases rest
    exact follows.forgetQuery query
  | respond _ | sent | defaultFlavor | setDefaultFlavor _ =>
    cases stepped
    exact ⟨follows.tables,follows.queries⟩
  | lookTable _ | compile _ | lookQuery _ | validate _ | execute _ | executeCount _ | countBy _ _
  | existsBy _ _ | encode _ _ | beginScope _ | endScope =>
    obtain ⟨_,_,rest⟩ := Option.bind_eq_some_iff.mp stepped
    cases rest
    exact ⟨follows.tables,follows.queries⟩
  | same _ _ =>
    obtain ⟨_,_,later⟩ := Option.bind_eq_some_iff.mp stepped
    obtain ⟨_,_,rest⟩ := Option.bind_eq_some_iff.mp later
    cases rest
    exact ⟨follows.tables,follows.queries⟩

theorem execute_escaper (q : Query) (c : Connection) :
    (q.execute c).connection.escaper = c.escaper := by
  unfold Query.execute
  dsimp only
  split <;> rfl

theorem step_escaper {s : Session} {call : Call} {step : Step} (stepped : s.step call = some step) :
    step.session.connection.escaper = s.connection.escaper := by
  cases executed : s.executed? call with
  | none => rw [step_quiet stepped executed]
  | some q =>
    obtain ⟨_,_,found,_⟩ := step_executed executed
    cases stepped.symm.trans found
    exact execute_escaper q s.connection

theorem run_follows {s : Session} {l : Ledger} {calls : List Call} {steps : List Step}
    (follows : s.Follows l) (ran : s.run calls = some steps) :
    (s.last steps).Follows (calls.foldl (Ledger.note s.connection.flavor) l) ∧
      (s.last steps).connection.escaper = s.connection.escaper := by
  -- What a call notes depends on the declared family, so the escaper is carried along.
  induction calls generalizing s l steps with
  | nil =>
    cases ran
    exact ⟨follows,rfl⟩
  | cons call rest ih =>
    obtain ⟨first,later,stepped,followed,rfl⟩ := run_cons ran
    have escaper := step_escaper stepped
    have flavor : first.session.connection.flavor = s.connection.flavor :=
      congrArg Escaper.flavor escaper
    have onward := ih (step_follows follows stepped) followed
    rw [last_cons,List.foldl_cons]
    rw [flavor,escaper] at onward
    exact onward

end Session

structure Connection.Obeys (c : Connection) (f : Flavor) : Prop where
  declared : c.flavor = some f
  escapes : ∀ text, c.escaper.escape text = f.escaper.escape text

theorem Connection.Obeys.escaper {c : Connection} {f : Flavor} (obeys : c.Obeys f) :
    c.escaper = f.escaper := by
  obtain ⟨declared,escapes⟩ := obeys
  have same : c.escaper.escape = f.escaper.escape := funext escapes
  change (⟨c.escaper.escape,c.flavor⟩ : Escaper) = ⟨f.escaper.escape,some f⟩
  rw [same,declared]

namespace Query

variable {q : Query} {c : Connection} {f : Flavor}

theorem compile_offline (dialect : q.dialect = f.dialect) (obeys : c.Obeys f) :
    q.compile c = q.statement.compileFor f := by
  rw [compile,dialect,obeys.escaper]
  rfl

theorem execute_offline (dialect : q.dialect = f.dialect) (obeys : c.Obeys f)
    (shown : q.statement.toSql f ≠ "") :
    (q.execute c).connection.sent = c.sent ++ [q.statement.toSql f] := by
  have busy : q.statement.isIdle = false := by
    rw [Statement.toSql,Statement.compileFor,Statement.compileWith,ne_eq,compile_empty_iff] at shown
    exact Bool.eq_false_iff.mpr shown
  rw [(execute_sent c busy).2,compile_offline dialect obeys]
  rfl

theorem execute_answered {outcome : Outcome} (f : Flavor)
    (answered : (q.execute c).value = .ok outcome) : q.statement.toSql f ≠ "" := by
  intro empty
  have idle : q.statement.isIdle = true := (compile_empty_iff _ _ _).mp empty
  rw [(execute_idle c idle).1] at answered
  cases answered

end Query

namespace Session

structure Holds (s : Session) (name : String) (o : Origin) : Prop where
  statement : ∃ q, s.query? name = some q ∧ q.statement = o.statement
  taken : ∀ f, ∃ step, s.step (.intoStatement name f) = some step ∧
    step.reply = .sql (o.statement.toSql f) ∧ step.session.query? name = none
  compiled : ∀ f, o.table.family = some f → s.connection.Obeys f → ∃ events,
    s.step (.compile name) = some ⟨s,.sql (o.statement.toSql f),events⟩
  sent : ∀ f, o.table.family = some f → s.connection.Obeys f → ∃ step,
    s.step (.execute name) = some step ∧
      (o.statement.toSql f ≠ "" ∨ (∃ outcome, step.reply = .outcome (.ok outcome)) →
        step.session.connection.sent = s.connection.sent ++ [o.statement.toSql f])

theorem Follows.holds {s : Session} {l : Ledger} (follows : s.Follows l) {name : String} {o : Origin}
    (known : l.queries name = some o) : s.Holds name o := by
  obtain ⟨q,bound,fits⟩ := some_rel (known ▸ follows.queries name)
  constructor
  case statement => exact ⟨q,bound,fits.statement⟩
  case taken =>
    intro f
    refine ⟨_,by rw [step,bound]; rfl,?_,?_⟩
    · rw [← fits.statement]
      rfl
    · exact (lookup_others name name s.queries).trans (if_pos rfl)
  case compiled =>
    intro f family obeys
    have text := Query.compile_offline (fits.dialect f family) obeys
    refine ⟨(q.compile s.connection).events,?_⟩
    rw [step,bound,← fits.statement,Statement.toSql,← text]
    rfl
  case sent =>
    intro f family obeys
    have dialect := fits.dialect f family
    have executed : s.executed? (.execute name) = some q := bound
    obtain ⟨reply,events,stepped,answered⟩ := step_executed executed
    refine ⟨_,stepped,?_⟩
    rw [← fits.statement]
    rintro (shown | ⟨outcome,ran⟩)
    · exact Query.execute_offline dialect obeys shown
    · have value := (answered name rfl).symm.trans ran
      injection value with value
      exact Query.execute_offline dialect obeys (Query.execute_answered f value)

-- Building a query is building the plain statement that a table's name and its key column of
-- the moment begin, whatever other calls come between. Where the connection obeys the family
-- that the table was opened for, the query's text is the one that is written without a connection.
theorem run_refines {s : Session} {calls : List Call} {steps : List Step} (tables : s.tables = [])
    (queries : s.queries = []) (ran : s.run calls = some steps) :
    let after := s.last steps
    let ledger := calls.foldl (Ledger.note s.connection.flavor) .empty
    (∀ (t : Table) (kind : QueryStart) (clauses : List Clause),
      ((t.start kind).build clauses).statement =
        (Statement.start t.name (kind.begin t.keyColumn)).build clauses) ∧
    (∀ name, (after.query? name).map Query.statement =
      (ledger.queries name).map Origin.statement) ∧
    (∀ name o, ledger.queries name = some o → after.Holds name o) ∧
    after.connection.escaper = s.connection.escaper ∧
    (∀ (t : Session) (target source : String) (step : Step),
      t.step (.cloneTable target source) = some step →
        step.session.table? target = t.table? source) ∧
    ∀ (t : Session) (table column : String) (step : Step),
      t.step (.setKeyColumn table column) = some step →
        step.session.table? table = (t.table? table).map ({· with keyColumn:=column}) ∧
          step.session.queries = t.queries := by
  have begun : s.Follows .empty := by
    constructor
    case tables => intro name; rw [table?,tables]; exact .none
    case queries => intro name; rw [query?,queries]; exact .none
  obtain ⟨follows,escaper⟩ := run_follows begun ran
  refine ⟨fun t kind clauses => by rw [start_query,build_query],follows.statement,
    fun name o known => follows.holds known,escaper,?clone,?key⟩
  case clone =>
    intro t target source step stepped
    obtain ⟨u,bound,rest⟩ := Option.bind_eq_some_iff.mp stepped
    cases rest
    exact (lookup_rebind target target u t.tables).trans ((if_pos rfl).trans bound.symm)
  case key =>
    intro t table column step stepped
    obtain ⟨u,bound,rest⟩ := Option.bind_eq_some_iff.mp stepped
    cases rest
    refine ⟨?_,rfl⟩
    rw [bound]
    exact (lookup_rebind table table _ t.tables).trans (if_pos rfl)

theorem run_refines_cloned :
    let s : Session := {connection:=.connect (some .sqlite) none []}
    let calls : List Call := [.table "t" "users",.setKeyColumn "t" "uid",.cloneTable "u" "t",
      .start "q" "u" (.findByKey (.int 7)),.setKeyColumn "u" "other",.build "q" (.columns ["name"]),
      .compile "q",.setKeyColumn "t" "last",.build "q" (.whereEq "name" (.text "it's"))]
    ∃ steps step, s.run calls = some steps ∧ (s.last steps).step (.execute "q") = some step ∧
      step.session.connection.sent =
        ["SELECT name FROM users WHERE \"uid\"=7 AND \"name\"='it''s' LIMIT 1 OFFSET 0;"] := by
  intro s calls
  have complete : (s.run calls).isSome = true := by decide +kernel
  obtain ⟨steps,ran⟩ := Option.isSome_iff_exists.mp complete
  obtain ⟨-,-,holds,escaper,-⟩ := run_refines rfl rfl ran
  let o : Origin := ⟨⟨"users","uid",some .sqlite⟩,.findByKey (.int 7),
    [.columns ["name"],.whereEq "name" (.text "it's")]⟩
  have known : (calls.foldl (Ledger.note (some .sqlite)) .empty).queries "q" = some o := rfl
  have obeys : (s.last steps).connection.Obeys .sqlite :=
    ⟨congrArg Escaper.flavor escaper,fun text => congrArg (Escaper.escape · text) escaper⟩
  have text : o.statement.toSql .sqlite =
      "SELECT name FROM users WHERE \"uid\"=7 AND \"name\"='it''s' LIMIT 1 OFFSET 0;" := by
    decide +kernel
  obtain ⟨step,stepped,sends⟩ := (holds "q" o known).sent .sqlite rfl obeys
  refine ⟨steps,step,ran,stepped,?_⟩
  have silent : (s.moments calls).flatMap Moment.sends = [] := by decide +kernel
  rw [sends (.inl (by rw [text]; decide)),text,run_sent ran,silent]
  rfl

end Session
end InlineSql
