import InlineSql.Proofs.Statement.Idle
import InlineSql.Session

namespace InlineSql

namespace Query

variable {q : Query} (c : Connection)

theorem execute_refused (idle : q.statement.isIdle = true) : q.execute c =
    ⟨.error .emptyStatement,c,(q.compile c).events ++
      [.emptyRefused q.statement.table q.statement.method]⟩ := by
  have empty : (q.compile c).sql = "" := (compile_empty_iff _ _ _).mpr idle
  unfold execute
  dsimp only
  rw [if_pos empty]

theorem execute_performed (busy : q.statement.isIdle = false) : q.execute c =
    ⟨(c.query (q.compile c).sql).1.mapError .connection,(c.query (q.compile c).sql).2,
      (q.compile c).events ++ [.executing q.dialect.flavor (q.compile c).sql]⟩ := by
  have filled : (q.compile c).sql ≠ "" := by
    intro empty
    rw [Query.compile,compile_empty_iff,busy] at empty
    cases empty
  unfold execute
  dsimp only
  rw [if_neg filled]

theorem execute_idle (idle : q.statement.isIdle = true) :
    (q.execute c).value = .error .emptyStatement ∧ (q.execute c).connection = c := by
  rw [execute_refused c idle]
  exact ⟨rfl,rfl⟩

theorem execute_sent (busy : q.statement.isIdle = false) :
    (q.execute c).value = (c.query (q.compile c).sql).1.mapError .connection ∧
      (q.execute c).connection = (c.query (q.compile c).sql).2 := by
  rw [execute_performed c busy]
  exact ⟨rfl,rfl⟩

theorem executeCount_connection (q : Query) :
    (q.executeCount c).connection = (q.execute c).connection := by
  unfold executeCount
  dsimp only
  split <;> rfl

end Query

def Call.responses : Call → List Response
  | .respond response => [response]
  | _ => []

namespace Session

def executed? (s : Session) : Call → Option Query
  | .execute query | .executeCount query => s.query? query
  | .countBy table attributes | .existsBy table attributes =>
    (s.table? table).map fun t => t.count.add (.whereAll attributes)
  | _ => none

def sends (s : Session) (call : Call) : List String :=
  match s.executed? call with
  | none => []
  | some q => if q.statement.isIdle then [] else [(q.compile s.connection).sql]

theorem step_executed {s : Session} {call : Call} {q : Query}
    (executed : s.executed? call = some q) : ∃ reply events,
      s.step call = some ⟨{s with connection:=(q.execute s.connection).connection},reply,events⟩ ∧
      ∀ query, call = .execute query → reply = .outcome (q.execute s.connection).value := by
  cases call with
  | execute query =>
    have bound : s.query? query = some q := executed
    refine ⟨_,_,by rw [step,bound]; rfl,fun _ _ => rfl⟩
  | executeCount query =>
    have bound : s.query? query = some q := executed
    let ran := q.executeCount s.connection
    refine ⟨.count ran.value,ran.events,?_,fun _ other => by cases other⟩
    rw [step,bound,← Query.executeCount_connection]
    rfl
  | countBy table attributes =>
    obtain ⟨t,bound,rfl⟩ := Option.map_eq_some_iff.mp executed
    let ran := t.countBy s.connection attributes
    refine ⟨.count ran.value,ran.events,?_,fun _ other => by cases other⟩
    rw [step,bound,← Query.executeCount_connection]
    rfl
  | existsBy table attributes =>
    obtain ⟨t,bound,rfl⟩ := Option.map_eq_some_iff.mp executed
    let ran := t.existsBy s.connection attributes
    refine ⟨.present ran.value,ran.events,?_,fun _ other => by cases other⟩
    rw [step,bound,← Query.executeCount_connection]
    rfl
  | _ => cases executed

-- What an executing call does and answers. A query that would do nothing is refused and leaves
-- the session as it is; any other is sent once, takes one response and answers with it.
structure Served (s : Session) (call : Call) (q : Query) : Prop where
  compiled : ∀ query, s.query? query = some q → ∃ events,
    s.step (.compile query) = some ⟨s,.sql (q.compile s.connection).sql,events⟩
  refused : q.statement.isIdle = true → ∃ step, s.step call = some step ∧ step.session = s ∧
    ∀ query, call = .execute query → step.reply = .outcome (.error .emptyStatement)
  ran : q.statement.isIdle = false → ∃ step, s.step call = some step ∧
    step.session = {s with connection:=⟨s.connection.escaper,s.connection.pending.tail,
      s.connection.sent ++ [(q.compile s.connection).sql]⟩} ∧
    ∀ query, call = .execute query →
      match s.connection.pending.head?.getD (.ok (.affected 0)) with
      | .ok outcome => step.reply = .outcome (.ok outcome)
      | .error error => step.reply = .outcome (.error (.connection error)) ∧
        (Failure.connection error).message = error.message

theorem served {s : Session} {call : Call} {q : Query} (executed : s.executed? call = some q) :
    s.Served call q := by
  obtain ⟨reply,events,stepped,answered⟩ := step_executed executed
  refine ⟨fun query bound => ⟨_,by rw [step,bound]; rfl⟩,?_,?_⟩
  · intro idle
    obtain ⟨value,connection⟩ := Query.execute_idle s.connection idle
    rw [connection] at stepped
    exact ⟨_,stepped,rfl,fun query same => by rw [answered query same,value]⟩
  · intro busy
    obtain ⟨value,connection⟩ := Query.execute_sent s.connection busy
    rw [connection] at stepped
    refine ⟨_,stepped,rfl,fun query same => ?_⟩
    have reply := answered query same
    rw [value,Connection.query] at reply
    split
    · rename_i outcome response
      rw [response] at reply
      exact reply
    · rename_i error response
      rw [response] at reply
      exact ⟨reply,rfl⟩

theorem step_quiet {s : Session} {call : Call} {step : Step} (stepped : s.step call = some step)
    (quiet : s.executed? call = none) : step.session.connection =
      {s.connection with pending:=s.connection.pending ++ call.responses} := by
  have still : s.connection = {s.connection with pending:=s.connection.pending ++ []} := by
    rw [List.append_nil]
  cases call with
  | respond response =>
    cases stepped
    rfl
  | table _ _ | tableWithFlavor _ _ _ | tableWithDialect _ _ _ | sent | defaultFlavor
  | setDefaultFlavor _ =>
    cases stepped
    exact still
  | cloneTable _ _ | setKeyColumn _ _ | lookTable _ | start _ _ _ | build _ _ | compile _
  | lookQuery _ | validate _ | intoStatement _ _ | encode _ _ | beginScope _ | endScope =>
    obtain ⟨_,_,rest⟩ := Option.bind_eq_some_iff.mp stepped
    cases rest
    exact still
  | same _ _ =>
    obtain ⟨_,_,later⟩ := Option.bind_eq_some_iff.mp stepped
    obtain ⟨_,_,rest⟩ := Option.bind_eq_some_iff.mp later
    cases rest
    exact still
  | execute query | executeCount query =>
    obtain ⟨q,bound,_⟩ := Option.bind_eq_some_iff.mp stepped
    rw [executed?,bound] at quiet
    cases quiet
  | countBy table _ | existsBy table _ =>
    obtain ⟨t,bound,_⟩ := Option.bind_eq_some_iff.mp stepped
    rw [executed?,bound] at quiet
    cases quiet

theorem step_sent {s : Session} {call : Call} {step : Step} (stepped : s.step call = some step) :
    step.session.connection.sent = s.connection.sent ++ s.sends call := by
  unfold sends
  cases executed : s.executed? call with
  | none => rw [step_quiet stepped executed,List.append_nil]
  | some q =>
    dsimp only
    cases idle : q.statement.isIdle with
    | true =>
      obtain ⟨_,found,session,_⟩ := (served executed).refused idle
      cases stepped.symm.trans found
      rw [session,if_pos rfl,List.append_nil]
    | false =>
      obtain ⟨_,found,session,_⟩ := (served executed).ran idle
      cases stepped.symm.trans found
      rw [session,if_neg Bool.false_ne_true]

end Session

structure Moment where
  before : Session
  call : Call
  step : Step

def Moment.sends (m : Moment) : List String := m.before.sends m.call

namespace Session

def moments (s : Session) : List Call → List Moment
  | [] => []
  | call :: rest => match s.step call with
    | none => []
    | some step => ⟨s,call,step⟩ :: step.session.moments rest

def last (s : Session) (steps : List Step) : Session := (steps.getLast?.map Step.session).getD s

theorem last_cons (s : Session) (step : Step) (steps : List Step) :
    s.last (step :: steps) = step.session.last steps := by
  rw [last,last,List.getLast?_cons]
  cases steps.getLast? <;> rfl

theorem run_cons {s : Session} {call : Call} {rest : List Call} {steps : List Step}
    (ran : s.run (call :: rest) = some steps) : ∃ first later,
      s.step call = some first ∧ first.session.run rest = some later ∧ steps = first :: later := by
  obtain ⟨first,stepped,onward⟩ := Option.bind_eq_some_iff.mp ran
  obtain ⟨later,followed,whole⟩ := Option.bind_eq_some_iff.mp onward
  exact ⟨first,later,stepped,followed,(Option.some.inj whole).symm⟩

theorem run_moments {s : Session} {calls : List Call} {steps : List Step}
    (ran : s.run calls = some steps) :
    (s.moments calls).map Moment.call = calls ∧ (s.moments calls).map Moment.step = steps := by
  induction calls generalizing s steps with
  | nil =>
    cases ran
    exact ⟨rfl,rfl⟩
  | cons call rest ih =>
    obtain ⟨first,later,stepped,followed,rfl⟩ := run_cons ran
    obtain ⟨calls,steps⟩ := ih followed
    rw [moments,stepped]
    exact ⟨congrArg (call :: ·) calls,congrArg (first :: ·) steps⟩

theorem run_sent {s : Session} {calls : List Call} {steps : List Step}
    (ran : s.run calls = some steps) : (s.last steps).connection.sent =
      s.connection.sent ++ (s.moments calls).flatMap Moment.sends := by
  induction calls generalizing s steps with
  | nil =>
    cases ran
    exact (List.append_nil _).symm
  | cons call rest ih =>
    obtain ⟨first,later,stepped,followed,rfl⟩ := run_cons ran
    rw [last_cons,ih followed,step_sent stepped,moments,stepped,List.append_assoc]
    rfl

-- Over a whole run the connection receives one text for every executing call whose query has an
-- effect, in the order of the calls, and the text is what that query compiles to at that moment.
-- Every executing call is answered, and no other call touches what was sent or takes a response.
theorem run_traffic {s : Session} {calls : List Call} {steps : List Step}
    (ran : s.run calls = some steps) :
    ((s.moments calls).map Moment.call = calls ∧ (s.moments calls).map Moment.step = steps) ∧
    (s.last steps).connection.sent = s.connection.sent ++ (s.moments calls).flatMap Moment.sends ∧
    (∀ (t : Session) (call : Call) (q : Query), t.executed? call = some q → t.Served call q) ∧
    (∀ (t : Session) (call : Call) (step : Step), t.step call = some step →
      t.executed? call = none → step.session.connection =
        {t.connection with pending:=t.connection.pending ++ call.responses}) ∧
    ∀ (d : Dialect) (e : Escaper) (statement : Statement),
      (d.compile e statement).sql = "" ↔ statement.isIdle = true :=
  ⟨run_moments ran,run_sent ran,fun _ _ _ => served,fun _ _ _ => step_quiet,compile_empty_iff⟩

theorem run_traffic_retried :
    let responses : List Response := [.error ⟨"lost"⟩,.ok (.rows ⟨[]⟩),.ok (.affected 1)]
    let s : Session := {connection:=.connect (some .sqlite) none responses}
    let calls : List Call := [.table "t" "users",.start "q" "t" .update,.execute "q",
      .build "q" (.set "name" (.text "it's")),.execute "q",.tableWithFlavor "u" "logs" .mysql,
      .countBy "u" [("a",.int 1)],.build "q" (.whereEq "id" (.int 7)),.execute "q"]
    ∃ steps, s.run calls = some steps ∧ (s.last steps).connection.sent =
      ["UPDATE users SET \"name\"='it''s';","SELECT COUNT(*) AS c FROM logs WHERE \x60a\x60=1;",
        "UPDATE users SET \"name\"='it''s' WHERE \"id\"=7;"] := by
  intro responses s calls
  have complete : (s.run calls).isSome = true := by decide +kernel
  obtain ⟨steps,ran⟩ := Option.isSome_iff_exists.mp complete
  have texts : (s.moments calls).flatMap Moment.sends =
      ["UPDATE users SET \"name\"='it''s';","SELECT COUNT(*) AS c FROM logs WHERE \x60a\x60=1;",
        "UPDATE users SET \"name\"='it''s' WHERE \"id\"=7;"] := by
    decide +kernel
  refine ⟨steps,ran,?_⟩
  rw [(run_traffic ran).2.1,texts]
  rfl

end Session
end InlineSql
