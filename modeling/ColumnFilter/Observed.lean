import ColumnFilter.Counters
import ColumnFilter.KeyMap

set_option autoImplicit false

/-!
# Observed computations

Events go to the sink in force, and vanish while there is none. `Observed.withSink` puts a
sink in force for the length of a computation; whichever way the computation ends, the sink
that was in force before is in force again. An observed computation changes a state, and it
returns or unwinds; `Observed.caught` stops the unwinding and keeps what has happened.
-/

namespace ColumnFilter

/-- The counting sinks by name, the one in force, and what has been delivered so far. -/
structure Sinks where
  active : Option String
  counters : KeyMap String Counters
  delivered : List (String × Event)

namespace Sinks

def empty : Sinks := ⟨none, .empty, []⟩

def report? (sinks : Sinks) (name : String) : Option Counters :=
  sinks.counters.get? name

def reset (sinks : Sinks) (name : String) : Sinks :=
  { sinks with counters := sinks.counters.insert name .zero }

def record (sinks : Sinks) (event : Event) : Sinks :=
  match sinks.active with
  | none => sinks
  | some name =>
      let counters := (sinks.report? name).getD .zero
      { sinks with
        counters := sinks.counters.insert name (counters.record event)
        delivered := sinks.delivered ++ [(name, event)] }

/-- Puts a sink in force. Its totals go on if it has been used before. -/
def enter (sinks : Sinks) (name : String) : Sinks :=
  let counters := (sinks.report? name).getD .zero
  { sinks with active := some name, counters := sinks.counters.insert name counters }

/-- Puts in force what was in force before. -/
def restore (sinks : Sinks) (outer : Option String) : Sinks :=
  { sinks with active := outer }

end Sinks

inductive Ending (α : Type) where
  | returned (value : α)
  | unwound
  deriving DecidableEq

/-- The end of an observed computation, and what it leaves behind. -/
structure Observation (σ α : Type) where
  ending : Ending α
  state : σ
  sinks : Sinks

/-- A computation that reports events, changes a state and may unwind. -/
def Observed (σ α : Type) : Type := σ → Sinks → Observation σ α

namespace Observed

variable {σ α : Type}

instance : Monad (Observed σ) where
  pure a := fun state sinks => ⟨.returned a, state, sinks⟩
  bind x f := fun state sinks =>
    match x state sinks with
    | ⟨.returned a, state, sinks⟩ => f a state sinks
    | ⟨.unwound, state, sinks⟩ => ⟨.unwound, state, sinks⟩

def getState : Observed σ σ := fun state sinks => ⟨.returned state, state, sinks⟩

def modifyState (change : σ → σ) : Observed σ Unit :=
  fun state sinks => ⟨.returned (), change state, sinks⟩

def getSinks : Observed σ Sinks := fun state sinks => ⟨.returned sinks, state, sinks⟩

def resetSink (name : String) : Observed σ Unit :=
  fun state sinks => ⟨.returned (), state, sinks.reset name⟩

def report (event : Event) : Observed σ Unit :=
  fun state sinks => ⟨.returned (), state, sinks.record event⟩

/-- Reports the events of a traced computation. -/
def traced (x : Traced α) : Observed σ α :=
  fun state sinks => ⟨.returned x.value, state, x.events.foldl Sinks.record sinks⟩

/-- Abandons the computation. -/
def unwind : Observed σ α := fun state sinks => ⟨.unwound, state, sinks⟩

/-- Runs a computation to its end, whichever way it ends. -/
def caught (x : Observed σ α) : Observed σ (Ending α) := fun state sinks =>
  match x state sinks with
  | ⟨ending, state, sinks⟩ => ⟨.returned ending, state, sinks⟩

/-- Runs a computation with a sink in force. -/
def withSink (name : String) (x : Observed σ α) : Observed σ α := fun state sinks =>
  match x state (sinks.enter name) with
  | ⟨ending, state, inner⟩ => ⟨ending, state, inner.restore sinks.active⟩

end Observed

end ColumnFilter
