import InlineSql.Proofs.Session.Mismatch
import InlineSql.Proofs.Session.Openings

namespace InlineSql

-- Sessions by name. They have one default in common, and what they hold for it themselves is
-- never read.
structure Shared where
  defaultFlavor : DefaultFlavor := {}
  sessions : String → Session

namespace Shared

def session (p : Shared) (i : String) : Session := {p.sessions i with defaultFlavor:=p.defaultFlavor}

def put (p : Shared) (i : String) (s : Session) : Shared :=
  ⟨s.defaultFlavor,fun j => if j = i then s else p.sessions j⟩

def run (p : Shared) : List (String × Call) → Option Shared
  | [] => some p
  | (i,call) :: rest => do
    let step ← (p.session i).step call
    (p.put i step.session).run rest

variable {p q : Shared} {i : String} {call : Call} {taken : Step}

theorem session_put (p : Shared) (i : String) (s : Session) : (p.put i s).session i = s := by
  rw [session,put]
  dsimp only
  rw [if_pos rfl]

theorem session_put_other {j : String} (other : j ≠ i) (p : Shared) (s : Session) :
    (p.put i s).session j = {p.session j with defaultFlavor:=s.defaultFlavor} := by
  rw [session,put]
  dsimp only
  rw [if_neg other]
  rfl

def own (p : Shared) (i : String) (earlier : List (String × Call)) : Flavor :=
  (p.sessions i).connection.flavor.getD (inForce p.defaultFlavor.current earlier)

structure Reaches (p : Shared) (earlier : List (String × Call)) (q : Shared) : Prop where
  default : q.defaultFlavor.Tracks p.defaultFlavor.current earlier
  escaper : ∀ i, (q.session i).connection.escaper = (p.sessions i).connection.escaper
  tables : ∀ i name, ((q.session i).table? name).map Table.dialect =
    (tableOpening i earlier name).map (Opening.dialect (p.own i))
  queries : ∀ i name, ((q.session i).query? name).map Query.dialect =
    (queryOpening i earlier name).map (Opening.dialect (p.own i))

theorem Reaches.own {earlier : List (String × Call)} (reaches : p.Reaches earlier q) (i : String) :
    (q.session i).connection.flavor.getD q.defaultFlavor.current = p.own i earlier := by
  have declared : (q.session i).connection.flavor = (p.sessions i).connection.flavor :=
    congrArg Escaper.flavor (reaches.escaper i)
  rw [declared,reaches.default.current]
  rfl

theorem Reaches.step {earlier : List (String × Call)} (reaches : p.Reaches earlier q)
    (stepped : (q.session i).step call = some taken) :
    p.Reaches ((i,call) :: earlier) (q.put i taken.session) := by
  constructor
  case default => exact reaches.default.next (Session.step_effect stepped).default i
  case escaper =>
    intro j
    by_cases same : j = i
    · subst same
      rw [session_put,Session.step_escaper stepped,reaches.escaper j]
    · rw [session_put_other same]
      exact reaches.escaper j
  case tables =>
    intro j name
    by_cases same : j = i
    · subst same
      have before := funext (reaches.tables j)
      have own := reaches.own j
      rw [session_put,(Session.step_effect stepped).tables,tableOpening,if_pos rfl,map_tableFrom,before]
      exact congrArg (fun f => call.tableFrom (Choice.dialect f) _ name) own
    · rw [session_put_other same,tableOpening,if_neg (Ne.symm same)]
      exact reaches.tables j name
  case queries =>
    intro j name
    by_cases same : j = i
    · subst same
      rw [session_put,(Session.step_effect stepped).queries,queryOpening,if_pos rfl,map_queryFrom,
        funext (reaches.tables j),funext (reaches.queries j)]
    · rw [session_put_other same,queryOpening,if_neg (Ne.symm same)]
      exact reaches.queries j name

theorem Reaches.run {earlier calls : List (String × Call)} {after : Shared}
    (reaches : p.Reaches earlier q) (ran : q.run calls = some after) :
    p.Reaches (calls.reverse ++ earlier) after := by
  induction calls generalizing q earlier with
  | nil =>
    cases ran
    exact reaches
  | cons first rest ih =>
    obtain ⟨step,stepped,onward⟩ := Option.bind_eq_some_iff.mp ran
    rw [List.reverse_cons,List.append_assoc]
    exact ih (reaches.step stepped) onward

theorem run_append (p : Shared) (before behind : List (String × Call)) :
    p.run (before ++ behind) = (p.run before).bind (·.run behind) := by
  induction before generalizing p with
  | nil => rfl
  | cons first rest ih =>
    rw [List.cons_append,run,run]
    cases (p.session first.1).step first.2 with
    | none => rfl
    | some taken => exact ih (p.put first.1 taken.session)

theorem run_view {α : Type} (view : Session → α) {later : List (String × Call)}
    (apart : ∀ s d, view {s with defaultFlavor:=d} = view s)
    (stays : ∀ c ∈ later, c.1 = i → ∀ s taken, s.step c.2 = some taken → view taken.session = view s)
    (ran : p.run later = some q) : view (q.session i) = view (p.session i) := by
  induction later generalizing p with
  | nil =>
    cases ran
    rfl
  | cons first rest ih =>
    obtain ⟨taken,stepped,onward⟩ := Option.bind_eq_some_iff.mp ran
    rw [ih (fun c member => stays c (List.mem_cons_of_mem first member)) onward]
    by_cases same : first.1 = i
    · rw [← same,session_put]
      exact stays first List.mem_cons_self same _ taken stepped
    · rw [session_put_other (Ne.symm same)]
      exact apart _ _

theorem run_outer {calls : List (String × Call)} {old : Flavor} (ran : p.run calls = some q)
    (held : p.defaultFlavor.outer = some old) (inside : ∀ c ∈ calls, c.2 ≠ .endScope) :
    q.defaultFlavor.outer = some old := by
  induction calls generalizing p with
  | nil =>
    cases ran
    exact held
  | cons first rest ih =>
    obtain ⟨taken,stepped,onward⟩ := Option.bind_eq_some_iff.mp ran
    have kept := DefaultFlavor.next_outer (Session.step_effect stepped).default held
      (inside first List.mem_cons_self)
    exact ih onward kept fun c member => inside c (List.mem_cons_of_mem first member)

theorem scope_outer {before inside : List (String × Call)} {f : Flavor} {after : Shared}
    (begun : p.Reaches [] p) (ran : p.run (before ++ (i,.beginScope f) :: inside) = some after)
    (within : ∀ c ∈ inside, c.2 ≠ .endScope) :
    after.defaultFlavor.outer = some (inForce p.defaultFlavor.current before.reverse) := by
  rw [run_append] at ran
  obtain ⟨middle,first,onward⟩ := Option.bind_eq_some_iff.mp ran
  obtain ⟨taken,stepped,later⟩ := Option.bind_eq_some_iff.mp onward
  have reaches := begun.run first
  rw [List.append_nil] at reaches
  have entered := DefaultFlavor.enter_outer (Session.step_effect stepped).default
  change taken.session.defaultFlavor.outer = some middle.defaultFlavor.current at entered
  rw [reaches.default.current] at entered
  exact run_outer later entered within

theorem reaches_start (closed : p.defaultFlavor.outer = none)
    (tables : ∀ i, (p.sessions i).tables = []) (queries : ∀ i, (p.sessions i).queries = []) :
    p.Reaches [] p := by
  constructor
  case default => exact ⟨rfl,fun f held => by rw [closed] at held; cases held⟩
  case escaper => exact fun _ => rfl
  case tables =>
    intro i name
    change ((p.sessions i).tables.lookup name).map Table.dialect = none
    rw [tables]
    rfl
  case queries =>
    intro i name
    change ((p.sessions i).queries.lookup name).map Query.dialect = none
    rw [queries]
    rfl

structure Resolved (p : Shared) (calls : List (String × Call)) (after : Shared) : Prop where
  declared : ∀ i, (after.session i).connection.escaper = (p.sessions i).connection.escaper
  read : ∀ i, (after.session i).step .defaultFlavor = some ⟨after.session i,
    .flavor (inForce p.defaultFlavor.current calls.reverse),[]⟩
  replaced : ∀ i f, ∃ taken, (after.session i).step (.setDefaultFlavor f) = some taken ∧
    taken.reply = .flavor (inForce p.defaultFlavor.current calls.reverse) ∧
    taken.session.defaultFlavor.current = f
  restored : ∀ before i f inside, calls = before ++ (i,.beginScope f) :: inside →
    (∀ c ∈ inside, c.2 ≠ .endScope) → ∀ j, ∃ taken,
      (after.session j).step .endScope = some taken ∧
      taken.session.defaultFlavor.current = inForce p.defaultFlavor.current before.reverse
  opened : ∀ i target name, ∃ taken, (after.session i).step (.table target name) = some taken ∧
    taken.reply = .table {name,dialect:=(p.own i calls.reverse).dialect} ∧ taken.events = []
  tables : ∀ i name, ((after.session i).table? name).map Table.dialect =
    (tableOpening i calls.reverse name).map (Opening.dialect (p.own i))
  queries : ∀ i name, ((after.session i).query? name).map Query.dialect =
    (queryOpening i calls.reverse name).map (Opening.dialect (p.own i))
  text : ∀ i name o, queryOpening i calls.reverse name = some o → ∃ q events,
    (after.session i).query? name = some q ∧
    (after.session i).step (.compile name) = some ⟨after.session i,.sql ((o.dialect (p.own i)).compile
      (p.sessions i).connection.escaper q.statement).sql,events⟩
  tablesStay : ∀ before later middle, calls = before ++ later → p.run before = some middle →
    ∀ i name, (∀ c ∈ later, c.1 = i → c.2.tableName ≠ some name) →
      ((after.session i).table? name).map Table.dialect =
        ((middle.session i).table? name).map Table.dialect
  queriesStay : ∀ before later middle, calls = before ++ later → p.run before = some middle →
    ∀ i name, (∀ c ∈ later, c.1 = i → c.2.queryName ≠ some name) →
      ((after.session i).query? name).map Query.dialect =
        ((middle.session i).query? name).map Query.dialect
  kept : ∀ i call taken, call.SetsDefault → (after.session i).step call = some taken →
    ∀ j, (after.put i taken.session).session j =
      {after.session j with defaultFlavor:=taken.session.defaultFlavor}
  warned : ∀ i call taken, (after.session i).step call = some taken →
    (after.session i).Warned call taken

-- However the calls of all sessions are mixed, the default and the dialects are what the calls
-- before them say: a table keeps the dialect that it was opened with, a scope gives back the default
-- that it found, and the warning is given for a chosen dialect alone.
theorem flavors_resolved {calls : List (String × Call)} {after : Shared}
    (closed : p.defaultFlavor.outer = none) (tables : ∀ i, (p.sessions i).tables = []) (queries : ∀ i, (p.sessions i).queries = [])
    (ran : p.run calls = some after) : p.Resolved calls after := by
  have begun := reaches_start closed tables queries
  have reaches := begun.run ran
  rw [List.append_nil] at reaches
  constructor
  case declared => exact reaches.escaper
  case read =>
    intro i
    rw [← reaches.default.current]
    rfl
  case replaced =>
    intro i f
    refine ⟨_,rfl,?_,f.ofByte_toByte⟩
    rw [← reaches.default.current]
    rfl
  case restored =>
    rintro before i f inside rfl within j
    have outer := scope_outer begun ran within
    obtain ⟨later,left,current⟩ := DefaultFlavor.leave_outer outer
    refine ⟨⟨{after.session j with defaultFlavor:=later},.flavor later.current,[]⟩,?_,current⟩
    rw [Session.step,session,left]
    rfl
  case opened =>
    intro i target name
    refine ⟨_,rfl,?_,Table.forConnection_quiet _ name⟩
    rw [← reaches.own i]
    rfl
  case tables => exact reaches.tables
  case queries => exact reaches.queries
  case text =>
    intro i name o known
    have dialect := reaches.queries i name
    rw [known] at dialect
    obtain ⟨q,bound,same⟩ := Option.map_eq_some_iff.mp dialect
    refine ⟨q,(q.compile (after.session i).connection).events,bound,?_⟩
    rw [Session.step,bound,← reaches.escaper i,← same]
    rfl
  case tablesStay =>
    rintro before later middle rfl first i name stays
    rw [run_append,first] at ran
    refine run_view (fun s => (s.table? name).map Table.dialect) (fun _ _ => rfl) ?_ ran
    intro c member own s taken stepped
    rw [(Session.step_effect stepped).tables]
    exact tableFrom_stays (stays c member own) _ _
  case queriesStay =>
    rintro before later middle rfl first i name stays
    rw [run_append,first] at ran
    refine run_view (fun s => (s.query? name).map Query.dialect) (fun _ _ => rfl) ?_ ran
    intro c member own s taken stepped
    rw [(Session.step_effect stepped).queries]
    exact queryFrom_stays (stays c member own) _ _
  case kept =>
    intro i call taken sets stepped j
    by_cases same : j = i
    · subst same
      rw [session_put]
      exact Session.step_setsDefault sets stepped
    · exact session_put_other same after taken.session
  case warned => exact fun _ _ _ => Session.step_warned

theorem flavors_resolved_around_scope :
    let c : Session := {connection:=.connect none none []}
    let d : Session := {connection:=.connect (some .sqlite) none []}
    let p : Shared := {sessions:=fun i => if i = "c" then c else d}
    let calls : List (String × Call) := [("c",.setDefaultFlavor .postgresql),("c",.table "t" "users"),
      ("d",.beginScope .sqlite),("d",.setDefaultFlavor .mysql),("c",.table "u" "logs"),
      ("d",.table "t" "users"),("c",.cloneTable "v" "t"),("c",.start "q" "v" .select)]
    ∃ after, p.run calls = some after ∧
      ((after.session "c").query? "q").map Query.dialect = some .postgres ∧
      ((after.session "c").table? "u").map Table.dialect = some .mySql ∧
      ((after.session "d").table? "t").map Table.dialect = some .sqlite ∧
      ∃ taken, (after.session "c").step .endScope = some taken ∧
        taken.session.defaultFlavor.current = .postgresql := by
  intro c d p calls
  have complete : (p.run calls).isSome = true := by decide +kernel
  obtain ⟨after,ran⟩ := Option.isSome_iff_exists.mp complete
  have tables (i : String) : (p.sessions i).tables = [] := by
    simp only [p]
    split <;> rfl
  have queries (i : String) : (p.sessions i).queries = [] := by
    simp only [p]
    split <;> rfl
  have resolved := flavors_resolved rfl tables queries ran
  refine ⟨after,ran,resolved.queries "c" "q",resolved.tables "c" "u",resolved.tables "d" "t",?_⟩
  have inside : ∀ c ∈ calls.drop 3, c.2 ≠ .endScope := by simp [calls]
  exact resolved.restored (calls.take 2) "d" .sqlite (calls.drop 3) rfl inside "c"

end Shared
end InlineSql
