import InlineSql.Proofs.Session.Ledger

namespace InlineSql

-- The default after calls that are given newest first, and the one outside the scope that was
-- open then. What was set since a scope was opened ends with the scope.
mutual
def inForce (first : Flavor) : List (String × Call) → Flavor
  | [] => first
  | (_,call) :: earlier => match call with
    | .setDefaultFlavor f | .beginScope f => f
    | .endScope => outside first earlier
    | _ => inForce first earlier
def outside (first : Flavor) : List (String × Call) → Flavor
  | [] => first
  | (_,call) :: earlier => match call with
    | .beginScope _ => inForce first earlier
    | _ => outside first earlier
end

inductive Choice where
  | connection
  | family (flavor : Flavor)
  | given (dialect : Dialect)

def Choice.dialect (own : Flavor) : Choice → Dialect
  | .connection => own.dialect
  | .family f => f.dialect
  | .given d => d

structure Opening where
  earlier : List (String × Call)
  choice : Choice

def Opening.dialect (own : List (String × Call) → Flavor) (o : Opening) : Dialect :=
  o.choice.dialect (own o.earlier)

def Call.tableFrom {α : Type} (opened : Choice → α) (before : String → Option α) (name : String) :
    Call → Option α
  | .table target _ => if name = target then some (opened .connection) else before name
  | .tableWithFlavor target _ flavor =>
    if name = target then some (opened (.family flavor)) else before name
  | .tableWithDialect target _ dialect =>
    if name = target then some (opened (.given dialect)) else before name
  | .cloneTable target source => if name = target then before source else before name
  | _ => before name

def Call.queryFrom {α : Type} (tables queries : String → Option α) (name : String) :
    Call → Option α
  | .start query source _ => if name = query then tables source else queries name
  | .intoStatement query _ => if name = query then none else queries name
  | _ => queries name

-- The openings that the tables and the queries of one session go back to, by the calls alone.
def tableOpening (i : String) : List (String × Call) → String → Option Opening
  | [],_ => none
  | (j,call) :: earlier,name =>
    if j = i then call.tableFrom (⟨earlier,·⟩) (tableOpening i earlier) name
    else tableOpening i earlier name

def queryOpening (i : String) : List (String × Call) → String → Option Opening
  | [],_ => none
  | (j,call) :: earlier,name =>
    if j = i then call.queryFrom (tableOpening i earlier) (queryOpening i earlier) name
    else queryOpening i earlier name

def Call.tableName : Call → Option String
  | .table target _ | .tableWithFlavor target _ _ | .tableWithDialect target _ _
  | .cloneTable target _ => some target
  | _ => none

def Call.queryName : Call → Option String
  | .start query _ _ | .intoStatement query _ => some query
  | _ => none

section
variable {α β : Type} (g : α → β) (call : Call) (name : String)

theorem tableFrom_stays {call : Call} {name : String} (other : call.tableName ≠ some name)
    (opened : Choice → α) (before : String → Option α) :
    call.tableFrom opened before name = before name := by
  cases call with
  | table target _ | tableWithFlavor target _ _ | tableWithDialect target _ _
  | cloneTable target _ =>
    refine if_neg fun same => other ?_
    rw [same]
    rfl
  | _ => rfl

theorem queryFrom_stays {call : Call} {name : String} (other : call.queryName ≠ some name)
    (tables queries : String → Option α) : call.queryFrom tables queries name = queries name := by
  cases call with
  | start query _ _ | intoStatement query _ =>
    refine if_neg fun same => other ?_
    rw [same]
    rfl
  | _ => rfl

theorem map_tableFrom (opened : Choice → α) (before : String → Option α) :
    (call.tableFrom opened before name).map g =
      call.tableFrom (g ∘ opened) (fun other => (before other).map g) name := by
  cases call with
  | table _ _ | tableWithFlavor _ _ _ | tableWithDialect _ _ _ | cloneTable _ _ =>
    simp only [Call.tableFrom]
    split <;> rfl
  | _ => rfl

theorem map_queryFrom (tables queries : String → Option α) :
    (call.queryFrom tables queries name).map g =
      call.queryFrom (fun other => (tables other).map g) (fun other => (queries other).map g) name := by
  cases call with
  | start _ _ _ | intoStatement _ _ =>
    simp only [Call.queryFrom]
    split <;> rfl
  | _ => rfl

end

def DefaultFlavor.next (d : DefaultFlavor) : Call → Option DefaultFlavor
  | .setDefaultFlavor f => some (d.set f).2
  | .beginScope f => d.enter f
  | .endScope => d.leave
  | _ => some d

namespace Session

theorem dialect_bindTable (s : Session) (target : String) (t : Table) (name : String) :
    ((s.bindTable target t).table? name).map Table.dialect =
      if name = target then some t.dialect else (s.table? name).map Table.dialect := by
  rw [table?,bindTable,lookup_rebind]
  split <;> rfl

theorem dialect_bindQuery (s : Session) (target : String) (q : Query) (name : String) :
    ((s.bindQuery target q).query? name).map Query.dialect =
      if name = target then some q.dialect else (s.query? name).map Query.dialect := by
  rw [query?,bindQuery,lookup_rebind]
  split <;> rfl

structure Effect (s : Session) (call : Call) (after : Session) : Prop where
  default : s.defaultFlavor.next call = some after.defaultFlavor
  tables : ∀ name, (after.table? name).map Table.dialect =
    call.tableFrom (Choice.dialect (s.connection.flavor.getD s.defaultFlavor.current))
      (fun other => (s.table? other).map Table.dialect) name
  queries : ∀ name, (after.query? name).map Query.dialect =
    call.queryFrom (fun other => (s.table? other).map Table.dialect)
      (fun other => (s.query? other).map Query.dialect) name

theorem step_effect {s : Session} {call : Call} {step : Step} (stepped : s.step call = some step) :
    s.Effect call step.session := by
  cases call with
  | table target _ | tableWithFlavor target _ _ | tableWithDialect target _ _ =>
    cases stepped
    exact ⟨rfl,s.dialect_bindTable target _,fun _ => rfl⟩
  | cloneTable target source =>
    obtain ⟨t,bound,rest⟩ := Option.bind_eq_some_iff.mp stepped
    cases rest
    refine ⟨rfl,fun name => (s.dialect_bindTable target t name).trans ?_,fun _ => rfl⟩
    rw [Call.tableFrom,bound]
    rfl
  | setKeyColumn source _ =>
    obtain ⟨t,bound,rest⟩ := Option.bind_eq_some_iff.mp stepped
    cases rest
    refine ⟨rfl,fun name => (s.dialect_bindTable source _ name).trans ?_,fun _ => rfl⟩
    split
    · rename_i same
      rw [same]
      exact (congrArg (Option.map Table.dialect) bound).symm
    · rfl
  | start query source kind =>
    obtain ⟨t,bound,rest⟩ := Option.bind_eq_some_iff.mp stepped
    cases rest
    refine ⟨rfl,fun _ => rfl,fun name => (s.dialect_bindQuery query _ name).trans ?_⟩
    rw [Call.queryFrom,bound,start_query]
    rfl
  | build query clause =>
    obtain ⟨q,bound,rest⟩ := Option.bind_eq_some_iff.mp stepped
    cases rest
    refine ⟨rfl,fun _ => rfl,fun name => (s.dialect_bindQuery query _ name).trans ?_⟩
    split
    · rename_i same
      rw [same]
      exact (congrArg (Option.map Query.dialect) bound).symm
    · rfl
  | intoStatement query _ =>
    obtain ⟨_,_,rest⟩ := Option.bind_eq_some_iff.mp stepped
    cases rest
    refine ⟨rfl,fun _ => rfl,fun name => ?_⟩
    rw [query?,forgetQuery,lookup_others,Call.queryFrom]
    split <;> rfl
  | beginScope _ | endScope =>
    obtain ⟨_,reached,rest⟩ := Option.bind_eq_some_iff.mp stepped
    cases rest
    exact ⟨reached,fun _ => rfl,fun _ => rfl⟩
  | respond _ | sent | defaultFlavor | setDefaultFlavor _ =>
    cases stepped
    exact ⟨rfl,fun _ => rfl,fun _ => rfl⟩
  | same _ _ =>
    obtain ⟨_,_,later⟩ := Option.bind_eq_some_iff.mp stepped
    obtain ⟨_,_,rest⟩ := Option.bind_eq_some_iff.mp later
    cases rest
    exact ⟨rfl,fun _ => rfl,fun _ => rfl⟩
  | _ =>
    obtain ⟨_,_,rest⟩ := Option.bind_eq_some_iff.mp stepped
    cases rest
    exact ⟨rfl,fun _ => rfl,fun _ => rfl⟩

end Session

structure DefaultFlavor.Tracks (d : DefaultFlavor) (first : Flavor) (earlier : List (String × Call)) :
    Prop where
  current : d.current = inForce first earlier
  outer : ∀ f, d.outer = some f → f = outside first earlier

theorem DefaultFlavor.Tracks.next {d later : DefaultFlavor} {first : Flavor}
    {earlier : List (String × Call)} {call : Call} (tracks : d.Tracks first earlier)
    (reached : d.next call = some later) (i : String) : later.Tracks first ((i,call) :: earlier) := by
  cases call with
  | setDefaultFlavor f =>
    cases reached
    exact ⟨f.ofByte_toByte,tracks.outer⟩
  | beginScope f =>
    simp only [DefaultFlavor.next,enter] at reached
    split at reached
    · cases reached
    · cases reached
      refine ⟨f.ofByte_toByte,fun old held => ?_⟩
      cases held
      exact tracks.current
  | endScope =>
    obtain ⟨old,held,rfl⟩ := Option.map_eq_some_iff.mp reached
    exact ⟨old.ofByte_toByte.trans (tracks.outer old held),nofun⟩
  | _ =>
    cases reached
    exact ⟨tracks.current,tracks.outer⟩

namespace DefaultFlavor

variable {d later : DefaultFlavor} {old : Flavor}

theorem enter_outer {f : Flavor} (entered : d.enter f = some later) :
    later.outer = some d.current := by
  unfold enter at entered
  split at entered
  · cases entered
  · cases entered
    rfl

theorem leave_outer (held : d.outer = some old) : ∃ later, d.leave = some later ∧
    later.current = old := by
  refine ⟨{(d.set old).2 with outer:=none},?_,old.ofByte_toByte⟩
  rw [leave,held]
  rfl

-- Only its end closes a scope, and no second one is opened before that.
theorem next_outer {call : Call} (reached : d.next call = some later) (held : d.outer = some old)
    (inside : call ≠ .endScope) : later.outer = some old := by
  cases call with
  | beginScope f =>
    simp [DefaultFlavor.next,enter,held] at reached
  | endScope => exact absurd rfl inside
  | _ =>
    cases reached
    exact held

end DefaultFlavor

def Call.SetsDefault : Call → Prop
  | .setDefaultFlavor _ | .beginScope _ | .endScope => True
  | _ => False

theorem Session.step_setsDefault {s : Session} {call : Call} {taken : Step} (sets : call.SetsDefault)
    (stepped : s.step call = some taken) :
    taken.session = {s with defaultFlavor:=taken.session.defaultFlavor} := by
  cases call with
  | setDefaultFlavor f =>
    cases stepped
    rfl
  | beginScope _ | endScope =>
    obtain ⟨_,_,rest⟩ := Option.bind_eq_some_iff.mp stepped
    cases rest
    rfl
  | _ => cases sets

end InlineSql
