import InlineSql.DefaultFlavor
import InlineSql.Table

namespace InlineSql

inductive QueryStart where
  | select
  | update
  | insert
  | delete
  | count
  | findByKey (key : Value)

def Table.start (t : Table) : QueryStart → Query
  | .select => t.select
  | .update => t.update
  | .insert => t.insert
  | .delete => t.delete
  | .count => t.count
  | .findByKey key => t.findByKey key

structure Session where
  connection : Connection
  defaultFlavor : DefaultFlavor := {}
  tables : List (String × Table) := []
  queries : List (String × Query) := []

inductive Call where
  | table (target name : String)
  | tableWithFlavor (target name : String) (flavor : Flavor)
  | tableWithDialect (target name : String) (dialect : Dialect)
  | cloneTable (target source : String)
  | setKeyColumn (table column : String)
  | lookTable (table : String)
  | start (query table : String) (kind : QueryStart)
  | build (query : String) (clause : Clause)
  | compile (query : String)
  | lookQuery (query : String)
  | validate (query : String)
  | intoStatement (query : String) (flavor : Flavor)
  | same (first second : String)
  | execute (query : String)
  | executeCount (query : String)
  | countBy (table : String) (attributes : List (String × Value))
  | existsBy (table : String) (attributes : List (String × Value))
  | encode (table : String) (value : Value)
  | respond (response : Response)
  | sent
  | defaultFlavor
  | setDefaultFlavor (flavor : Flavor)
  | beginScope (flavor : Flavor)
  | endScope

inductive Reply where
  | table (table : Table)
  | query (query : Query)
  | sql (text : String)
  | defect (found : Option Defect)
  | same (answer : Bool)
  | outcome (result : Except Failure Outcome)
  | count (rows : Int64)
  | present (answer : Bool)
  | queued
  | sent (texts : List String)
  | flavor (flavor : Flavor)

structure Step where
  session : Session
  reply : Reply
  events : List Event

namespace Session

def rebind {α : Type} (name : String) (value : α) (bindings : List (String × α)) :
    List (String × α) :=
  (name,value) :: bindings.filter (·.1 != name)

def table? (s : Session) (name : String) : Option Table := s.tables.lookup name
def query? (s : Session) (name : String) : Option Query := s.queries.lookup name

def bindTable (s : Session) (name : String) (t : Table) : Session :=
  {s with tables:=rebind name t s.tables}

def bindQuery (s : Session) (name : String) (q : Query) : Session :=
  {s with queries:=rebind name q s.queries}

def forgetQuery (s : Session) (name : String) : Session :=
  {s with queries:=s.queries.filter (·.1 != name)}

def openTable (s : Session) (target : String) (opened : Table × List Event) : Step :=
  ⟨s.bindTable target opened.1,.table opened.1,opened.2⟩

def compiled (s : Session) (q : Query) : Step :=
  let text := q.compile s.connection
  ⟨s,.sql text.sql,text.events⟩

def ran {α : Type} (s : Session) (reply : α → Reply) (r : Run α) : Step :=
  ⟨{s with connection:=r.connection},reply r.value,r.events⟩

-- A call on a name that is not bound, a second open scope and the end of a scope
-- that is not open are no steps.
def step (s : Session) : Call → Option Step
  | .table target name =>
    some (s.openTable target (Table.forConnection s.connection s.defaultFlavor.current name))
  | .tableWithFlavor target name flavor =>
    some (s.openTable target (Table.withFlavor s.connection name flavor))
  | .tableWithDialect target name dialect =>
    some (s.openTable target (Table.withDialect s.connection name dialect))
  | .cloneTable target source => do
    let t ← s.table? source
    return s.openTable target (t,[])
  | .setKeyColumn table column => do
    let t ← s.table? table
    return s.openTable table ({t with keyColumn:=column},[])
  | .lookTable table => do
    let t ← s.table? table
    return ⟨s,.table t,[]⟩
  | .start query table kind => do
    let t ← s.table? table
    let q := t.start kind
    return (s.bindQuery query q).compiled q
  | .build query clause => do
    let q ← s.query? query
    let built := q.add clause
    return (s.bindQuery query built).compiled built
  | .compile query => do
    let q ← s.query? query
    return s.compiled q
  | .lookQuery query => do
    let q ← s.query? query
    return ⟨s,.query q,[]⟩
  | .validate query => do
    let q ← s.query? query
    return ⟨s,.defect q.statement.defect?,[]⟩
  | .intoStatement query flavor => do
    let q ← s.query? query
    let text := q.statement.compileFor flavor
    return ⟨s.forgetQuery query,.sql text.sql,text.events⟩
  | .same first second => do
    let a ← s.query? first
    let b ← s.query? second
    return ⟨s,.same (a.statement == b.statement),[]⟩
  | .execute query => do
    let q ← s.query? query
    return s.ran .outcome (q.execute s.connection)
  | .executeCount query => do
    let q ← s.query? query
    return s.ran .count (q.executeCount s.connection)
  | .countBy table attributes => do
    let t ← s.table? table
    return s.ran .count (t.countBy s.connection attributes)
  | .existsBy table attributes => do
    let t ← s.table? table
    return s.ran .present (t.existsBy s.connection attributes)
  | .encode table value => do
    let t ← s.table? table
    return ⟨s,.sql (t.dialect.encode s.connection.escaper value),[]⟩
  | .respond response => some ⟨{s with connection:=s.connection.respond response},.queued,[]⟩
  | .sent => some ⟨s,.sent s.connection.sent,[]⟩
  | .defaultFlavor => some ⟨s,.flavor s.defaultFlavor.current,[]⟩
  | .setDefaultFlavor flavor =>
    let (old,after) := s.defaultFlavor.set flavor
    some ⟨{s with defaultFlavor:=after},.flavor old,[]⟩
  | .beginScope flavor => do
    let inside ← s.defaultFlavor.enter flavor
    return ⟨{s with defaultFlavor:=inside},.flavor inside.current,[]⟩
  | .endScope => do
    let outside ← s.defaultFlavor.leave
    return ⟨{s with defaultFlavor:=outside},.flavor outside.current,[]⟩

def run (s : Session) : List Call → Option (List Step)
  | [] => some []
  | call :: rest => do
    let first ← s.step call
    let later ← first.session.run rest
    return first :: later

end Session
end InlineSql
