import InlineSql.Proofs.Session.Counting

namespace InlineSql

namespace Event

def TellsMismatch (event : Event) : Prop :=
  event.level = .warn ∧ event.message = "dialect does not match the connection's escaping rules"

theorem tellsMismatch_iff {event : Event} :
    event.TellsMismatch ↔ ∃ connection dialect, event = .dialectMismatch connection dialect := by
  cases event <;> simp [TellsMismatch,level,message]

theorem mismatch_behind (x : Compiled) (later : List Event) :
    (∃ event ∈ x.events ++ later, event.TellsMismatch) ↔ ∃ event ∈ later, event.TellsMismatch :=
  told_behind (fun skip => by simp [tellsMismatch_iff]) x later

theorem mismatch_compiled (x : Compiled) : ¬ ∃ event ∈ x.events, event.TellsMismatch := by
  have behind := mismatch_behind x []
  rw [List.append_nil] at behind
  simp [behind]

end Event

namespace Query

variable (q : Query) (c : Connection)

theorem mismatch_execute : ¬ ∃ event ∈ (q.execute c).events, event.TellsMismatch := by
  cases idle : q.statement.isIdle with
  | true =>
    rw [execute_refused c idle,Event.mismatch_behind]
    simp [Event.tellsMismatch_iff]
  | false =>
    rw [execute_performed c idle,Event.mismatch_behind]
    simp [Event.tellsMismatch_iff]

theorem mismatch_executeCount : ¬ ∃ event ∈ (q.executeCount c).events, event.TellsMismatch := by
  cases idle : q.statement.isIdle with
  | true =>
    rw [executeCount_refused c idle,Event.mismatch_behind]
    simp [Event.tellsMismatch_iff]
  | false =>
    rw [executeCount_performed c idle,counted,Event.mismatch_behind]
    rcases q.answer c with error | n | set <;> simp [Event.tellsMismatch_iff,countWarnings]

end Query

namespace Table

variable {c : Connection}

theorem withDialect_declared {f : Flavor} (declared : c.flavor = some f) (name : String)
    (d : Dialect) : (withDialect c name d).2 =
      if f = d.flavor then [] else [.dialectMismatch f d.flavor] := by
  rw [withDialect,declared]

theorem withDialect_undeclared (silent : c.flavor = none) (name : String) (d : Dialect) :
    (withDialect c name d).2 = [] := by
  rw [withDialect,silent]

theorem mismatch_withDialect (name : String) (d : Dialect) :
    (∃ event ∈ (withDialect c name d).2, event.TellsMismatch) ↔
      ∃ f, c.flavor = some f ∧ f ≠ d.flavor := by
  cases declared : c.flavor with
  | none => simp [withDialect_undeclared declared]
  | some f =>
    rw [withDialect_declared declared]
    by_cases same : f = d.flavor <;> simp [same,Event.tellsMismatch_iff]

-- Whatever the default is, the connection's own family decides where there is one.
theorem forConnection_quiet (default : Flavor) (name : String) :
    (forConnection c default name).2 = [] := by
  rw [forConnection,withFlavor]
  cases declared : c.flavor with
  | none => exact withDialect_undeclared declared name _
  | some f =>
    rw [withDialect_declared declared,Option.getD_some,Flavor.dialect_flavor,if_pos rfl]

end Table

def Call.chosen : Call → Option Dialect
  | .tableWithFlavor _ _ flavor => some flavor.dialect
  | .tableWithDialect _ _ dialect => some dialect
  | _ => none

namespace Session

structure Warned (s : Session) (call : Call) (step : Step) : Prop where
  told : (∃ event ∈ step.events, event.TellsMismatch) ↔ ∃ f d,
    s.connection.flavor = some f ∧ call.chosen = some d ∧ f ≠ d.flavor
  once : ∀ f d, s.connection.flavor = some f → call.chosen = some d → f ≠ d.flavor →
    step.events = [.dialectMismatch f d.flavor]

theorem warned_chosen {s : Session} {call : Call} {d : Dialect} (chosen : call.chosen = some d)
    (target name : String) :
    s.Warned call (s.openTable target (Table.withDialect s.connection name d)) := by
  constructor
  case told =>
    refine (Table.mismatch_withDialect name d).trans ⟨?_,?_⟩
    · rintro ⟨f,declared,other⟩
      exact ⟨f,d,declared,chosen,other⟩
    · rintro ⟨f,_,declared,same,other⟩
      cases chosen.symm.trans same
      exact ⟨f,declared,other⟩
  case once =>
    intro f _ declared same other
    cases chosen.symm.trans same
    exact (Table.withDialect_declared declared name d).trans (if_neg other)

theorem warned_unchosen {s : Session} {call : Call} {step : Step} (unchosen : call.chosen = none)
    (quiet : ¬ ∃ event ∈ step.events, event.TellsMismatch) : s.Warned call step := by
  constructor
  case told =>
    refine iff_of_false quiet ?_
    rintro ⟨_,d,_,chosen,_⟩
    cases unchosen.symm.trans chosen
  case once =>
    intro _ d _ chosen
    cases unchosen.symm.trans chosen

theorem step_warned {s : Session} {call : Call} {step : Step} (stepped : s.step call = some step) :
    s.Warned call step := by
  have silent : ¬ ∃ event ∈ ([] : List Event), event.TellsMismatch := by simp
  cases call with
  | tableWithFlavor target name flavor =>
    cases stepped
    exact warned_chosen rfl target name
  | tableWithDialect target name dialect =>
    cases stepped
    exact warned_chosen rfl target name
  | table target name =>
    cases stepped
    refine warned_unchosen rfl ?_
    rw [openTable,Table.forConnection_quiet]
    exact silent
  | respond _ | sent | defaultFlavor | setDefaultFlavor _ =>
    cases stepped
    exact warned_unchosen rfl silent
  | cloneTable _ _ | setKeyColumn _ _ | lookTable _ | lookQuery _ | validate _ | encode _ _
  | beginScope _ | endScope =>
    obtain ⟨_,_,rest⟩ := Option.bind_eq_some_iff.mp stepped
    cases rest
    exact warned_unchosen rfl silent
  | same _ _ =>
    obtain ⟨_,_,later⟩ := Option.bind_eq_some_iff.mp stepped
    obtain ⟨_,_,rest⟩ := Option.bind_eq_some_iff.mp later
    cases rest
    exact warned_unchosen rfl silent
  | start _ _ _ | build _ _ | compile _ | intoStatement _ _ =>
    obtain ⟨_,_,rest⟩ := Option.bind_eq_some_iff.mp stepped
    cases rest
    exact warned_unchosen rfl (Event.mismatch_compiled _)
  | execute _ =>
    obtain ⟨q,_,rest⟩ := Option.bind_eq_some_iff.mp stepped
    cases rest
    exact warned_unchosen rfl (q.mismatch_execute _)
  | executeCount _ =>
    obtain ⟨q,_,rest⟩ := Option.bind_eq_some_iff.mp stepped
    cases rest
    exact warned_unchosen rfl (q.mismatch_executeCount _)
  | countBy _ attributes | existsBy _ attributes =>
    obtain ⟨t,_,rest⟩ := Option.bind_eq_some_iff.mp stepped
    cases rest
    exact warned_unchosen rfl ((t.countQuery attributes).mismatch_executeCount _)

end Session
end InlineSql
