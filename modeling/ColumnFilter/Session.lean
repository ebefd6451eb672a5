import ColumnFilter.Filter.Clause
import ColumnFilter.Filter.Shape
import ColumnFilter.Observed
import ColumnFilter.Program

set_option autoImplicit false

/-!
# Sessions

A session works step by step on a filter, a program compiled from it and a list of rows.
Its steps run under counting sinks, which scopes put in force for some of them. Every step
leaves an entry with its reply and the events delivered meanwhile; a scope leaves its own
entry after those of its steps.
-/

namespace ColumnFilter

abbrev SessionRow := KeyMap String Value

/-- Something done in a session. -/
inductive Action where
  | withColumn (column : String) (targets : List (Operator × Value))
  | collect (columns : List (String × List (Operator × Value)))
  | column (column : String)
  /-- Replaces the filter by that of a clause in JSON text. -/
  | loadClause (text : String)
  /-- Replaces the filter by a shape in JSON text, attached to a column if need be. -/
  | loadShape (text column : String)
  | push (row : SessionRow)
  | rows
  | compile
  | policy (policy : MissingPolicy)
  | matchRows (policy : MissingPolicy)
  | eval
  | filter
  | retain
  | report (sink : String)
  | reset (sink : String)

/-- A step of a session: an action, or some steps with a sink in force, which may unwind
afterwards. -/
inductive Step where
  | act (action : Action)
  | scope (sink : String) (steps : List Step) (unwinds : Bool)

def Action.name : Action → String
  | .withColumn _ _ => "with_column"
  | .collect _ => "collect"
  | .column _ => "column"
  | .loadClause _ => "load_clause"
  | .loadShape _ _ => "load_shape"
  | .push _ => "push"
  | .rows => "rows"
  | .compile => "compile"
  | .policy _ => "policy"
  | .matchRows _ => "match"
  | .eval => "eval"
  | .filter => "filter"
  | .retain => "retain"
  | .report _ => "report"
  | .reset _ => "reset"

inductive Reply where
  | changed (f : Filter)
  | predicate (p : Option Predicate)
  | clause (result : Except Json.Error Filter)
  | shape (result : Except FilterError (ShapeKind × Filter))
  | rowCount (count : Nat)
  | rows (rows : List SessionRow)
  | compiled (program : Program)
  | policy (policy : MissingPolicy)
  | matched (results : List Bool)
  | places (indices : List Nat)
  | noProgram
  | report (counters : Option Counters)
  | reset
  | scope (ending : Ending Unit)

structure Entry where
  step : String
  reply : Reply
  events : List (String × Event)

/-- What a session works on, and the entries left so far. -/
structure Session where
  filter : Filter
  program : Option Program
  rows : List SessionRow
  entries : List Entry

namespace Session

def start : Session := ⟨.empty, none, [], []⟩

def setFilter (f : Filter) : Observed Session Unit :=
  .modifyState fun session => { session with filter := f }

/-- Asks the program, if there is one. -/
def withProgram (use : Program → Observed Session Reply) : Observed Session Reply := do
  match (← Observed.getState).program with
  | some program => use program
  | none => pure .noProgram

def collected (columns : List (String × List (Operator × Value))) : Filter :=
  .ofList (columns.map fun entry => (entry.1, .ofList entry.2))

def perform : Action → Observed Session Reply
  | .withColumn column targets => do
      let session ← Observed.getState
      let f := session.filter.insert column (.ofList targets)
      setFilter f
      pure (.changed f)
  | .collect columns => do
      setFilter (collected columns)
      pure (.changed (collected columns))
  | .column column => do
      let session ← Observed.getState
      pure (.predicate (session.filter.column? column))
  | .loadClause text => do
      match Clause.ofText text with
      | .ok clause =>
          setFilter clause.filter
          pure (.clause (.ok clause.filter))
      | .error error => pure (.clause (.error error))
  | .loadShape text column => do
      match ← Observed.traced (Shape.ofText text) with
      | .ok shape =>
          setFilter (shape.attach column)
          pure (.shape (.ok (shape.kind, shape.attach column)))
      | .error error => pure (.shape (.error error))
  | .push row => do
      .modifyState fun session => { session with rows := session.rows ++ [row] }
      let session ← Observed.getState
      pure (.rowCount session.rows.length)
  | .rows => do
      let session ← Observed.getState
      pure (.rows session.rows)
  | .compile => do
      let session ← Observed.getState
      let program := Program.compile session.filter
      .modifyState fun session => { session with program := some program }
      pure (.compiled program)
  | .policy policy => withProgram fun program => do
      .modifyState fun session => { session with program := some (program.withPolicy policy) }
      pure (.policy policy)
  | .matchRows policy => do
      let session ← Observed.getState
      let results ← Observed.traced (session.rows.mapM (session.filter.matchesRow policy))
      pure (.matched results)
  | .eval => withProgram fun program => do
      let session ← Observed.getState
      let results ← Observed.traced (session.rows.mapM program.eval)
      pure (.matched results)
  | .filter => withProgram fun program => do
      let session ← Observed.getState
      let kept ← Observed.traced (program.filterRows session.rows.zipIdx)
      pure (.places (kept.map Prod.snd))
  | .retain => withProgram fun program => do
      let session ← Observed.getState
      let kept ← Observed.traced (program.retain session.rows)
      .modifyState fun session => { session with rows := kept }
      pure (.rows kept)
  | .report sink => do
      let sinks ← Observed.getSinks
      pure (.report (sinks.report? sink))
  | .reset sink => do
      Observed.resetSink sink
      pure .reset

def leave (entry : Entry) : Observed Session Unit :=
  .modifyState fun session => { session with entries := session.entries ++ [entry] }

mutual

/-- Runs a step and leaves its entry. The steps of a scope leave theirs before it; if the
scope unwinds, that ends at the scope. -/
def run : Step → Observed Session Unit
  | .scope sink steps unwinds => do
      let ending ← Observed.caught (Observed.withSink sink do
        runAll steps
        if unwinds then Observed.unwind)
      leave ⟨"scope", .scope ending, []⟩
  | .act action => do
      let before ← Observed.getSinks
      let reply ← perform action
      let after ← Observed.getSinks
      leave ⟨action.name, reply, after.delivered.drop before.delivered.length⟩
termination_by structural step => step

def runAll : List Step → Observed Session Unit
  | [] => pure ()
  | step :: rest => do
      run step
      runAll rest
termination_by structural steps => steps

end

/-- The entries that steps leave in a session of their own, all under a sink if one is
named. -/
def entriesOf (sink : Option String) (steps : List Step) : List Entry :=
  let body :=
    match sink with
    | some name => Observed.withSink name (runAll steps)
    | none => runAll steps
  (body start .empty).state.entries

end Session

end ColumnFilter
