import ColumnFilter.Observed
import ColumnFilter.Proofs.KeyMap

set_option autoImplicit false

/-!
# Events reach the innermost scope

The sink in force is a single cell, which stands for a stack: the scopes that are open, the
innermost first. A script says what it emits under which open scopes without any cell; run
with the cell at the innermost scope, it delivers just that, and leaves the cell as it was.
-/

namespace ColumnFilter

/-! ## Scripts -/

/-- What can be done with sinks: reporting, one thing after another, scopes, unwinding, and
stopping what unwinds. -/
inductive Script where
  | done
  | report (event : Event)
  | next (first second : Script)
  | scope (sink : String) (body : Script)
  /-- Goes on with the handler if the body unwinds. -/
  | rescue (body handler : Script)
  | unwind

/-- An event and the scopes open when it was reported, the innermost first. -/
structure Emission where
  scopes : List String
  event : Event

/-- Where an event goes, if anywhere. -/
def Emission.delivery? : Emission → Option (String × Event)
  | ⟨[], _⟩ => none
  | ⟨sink :: _, event⟩ => some (sink, event)

/-- The events emitted while a sink was that of the innermost scope. -/
def Emission.under (sink : String) (emissions : List Emission) : List Event :=
  (emissions.filter fun emission => emission.scopes.head? = some sink).map Emission.event

theorem Emission.delivery?_eq_none_iff (emission : Emission) :
    emission.delivery? = none ↔ emission.scopes = [] := by
  obtain ⟨scopes, event⟩ := emission
  cases scopes <;> simp [delivery?]

theorem Emission.delivered_under (sink : String) (emissions : List Emission) :
    ((emissions.filterMap delivery?).filter fun delivery => delivery.1 = sink).map Prod.snd =
      under sink emissions := by
  induction emissions with
  | nil => rfl
  | cons emission rest ih =>
      obtain ⟨scopes, event⟩ := emission
      simp only [under] at ih ⊢
      cases scopes with
      | nil => simp [List.filterMap_cons, delivery?, ih]
      | cons innermost outer =>
          by_cases same : innermost = sink <;>
            simp [delivery?, same, ih]

namespace Script

/-- Runs a script with the sinks there are. -/
def run {σ : Type} : Script → Observed σ Unit
  | .done => pure ()
  | .report event => .report event
  | .next first second => do
      run first
      run second
  | .scope sink body => .withSink sink (run body)
  | .rescue body handler => do
      match ← Observed.caught (run body) with
      | .returned _ => pure ()
      | .unwound => run handler
  | .unwind => .unwind

def unwinds : Script → Bool
  | .done | .report _ => false
  | .next first second => first.unwinds || second.unwinds
  | .scope _ body => body.unwinds
  | .rescue body handler => body.unwinds && handler.unwinds
  | .unwind => true

def ending (script : Script) : Ending Unit :=
  if script.unwinds then .unwound else .returned ()

/-- What a script emits under some open scopes. Whatever follows what unwinds is left out. -/
def emissions (scopes : List String) : Script → List Emission
  | .done | .unwind => []
  | .report event => [⟨scopes, event⟩]
  | .next first second =>
      first.emissions scopes ++ if first.unwinds then [] else second.emissions scopes
  | .scope sink body => body.emissions (sink :: scopes)
  | .rescue body handler =>
      body.emissions scopes ++ if body.unwinds then handler.emissions scopes else []

end Script

/-! ## Sinks -/

namespace Sinks

/-- The totals of a sink, which are zero before its first use. -/
def totals (sinks : Sinks) (sink : String) : Counters := (sinks.report? sink).getD .zero

/-- The events that a sink has been delivered so far. -/
def received (sinks : Sinks) (sink : String) : List Event :=
  (sinks.delivered.filter fun delivery => delivery.1 = sink).map Prod.snd

theorem totals_insert (sinks : Sinks) (sink other : String) (counters : Counters) :
    totals { sinks with counters := sinks.counters.insert sink counters } other =
      if other = sink then counters else sinks.totals other := by
  simp only [totals, report?, KeyMap.get?_insert]
  split <;> rfl

@[simp] theorem totals_enter (sinks : Sinks) (sink other : String) :
    (sinks.enter sink).totals other = sinks.totals other := by
  have inserted := totals_insert sinks sink other (sinks.totals sink)
  change (sinks.enter sink).totals other = _ at inserted
  rw [inserted]
  split
  next same => rw [same]
  · rfl

theorem record_of_none {sinks : Sinks} (noScope : sinks.active = none) (event : Event) :
    sinks.record event = sinks := by
  simp only [record, noScope]

@[simp] theorem active_record (sinks : Sinks) (event : Event) :
    (sinks.record event).active = sinks.active := by
  unfold record
  split <;> rfl

theorem totals_record {sinks : Sinks} {sink : String} (inForce : sinks.active = some sink)
    (event : Event) (other : String) :
    (sinks.record event).totals other =
      if other = sink then (sinks.totals sink).record event else sinks.totals other := by
  have inserted := totals_insert sinks sink other ((sinks.totals sink).record event)
  simp only [record, inForce]
  exact inserted

/-- From the first sinks to the second, the emissions have been delivered and nothing else
has, and the same sink is in force. -/
structure Delivers (before after : Sinks) (emissions : List Emission) : Prop where
  active : after.active = before.active
  delivered : after.delivered = before.delivered ++ emissions.filterMap Emission.delivery?
  totals : ∀ sink,
    after.totals sink = (Emission.under sink emissions).foldl Counters.record (before.totals sink)

namespace Delivers

theorem refl (sinks : Sinks) : sinks.Delivers sinks [] :=
  ⟨rfl, (List.append_nil _).symm, fun _ => rfl⟩

theorem trans {first second third : Sinks} {earlier later : List Emission}
    (left : first.Delivers second earlier) (right : second.Delivers third later) :
    first.Delivers third (earlier ++ later) where
  active := right.active.trans left.active
  delivered := by
    rw [right.delivered, left.delivered, List.filterMap_append, List.append_assoc]
  totals sink := by
    simp only [right.totals, left.totals, Emission.under, List.filter_append, List.map_append,
      List.foldl_append]

theorem record {sinks : Sinks} {scopes : List String} (inForce : sinks.active = scopes.head?)
    (event : Event) : sinks.Delivers (sinks.record event) [⟨scopes, event⟩] := by
  cases scopes with
  | nil =>
      rw [record_of_none inForce]
      exact ⟨rfl, (List.append_nil _).symm, fun _ => rfl⟩
  | cons sink outer =>
      have active : sinks.active = some sink := inForce
      refine ⟨active_record sinks event, ?_, ?_⟩
      · simp only [Sinks.record, active]
        rfl
      · intro other
        rw [totals_record active]
        by_cases same : other = sink
        · simp [Emission.under, same]
        · simp [Emission.under, same, Ne.symm same]

theorem scope {sinks inner : Sinks} {sink : String} {emissions : List Emission}
    (body : (sinks.enter sink).Delivers inner emissions) :
    sinks.Delivers (inner.restore sinks.active) emissions where
  active := rfl
  delivered := body.delivered
  totals other := by
    rw [← totals_enter sinks sink]
    exact body.totals other

theorem received {before after : Sinks} {emissions : List Emission}
    (delivers : before.Delivers after emissions) (sink : String) :
    after.received sink = before.received sink ++ Emission.under sink emissions := by
  rw [Sinks.received, delivers.delivered, List.filter_append, List.map_append,
    Emission.delivered_under]
  rfl

end Delivers

end Sinks

/-! ## Runs -/

namespace Observed

variable {σ α β : Type} {x : Observed σ α} {state left : σ} {sinks after : Sinks}

theorem bind_of_returned {a : α} (ran : x state sinks = ⟨.returned a, left, after⟩)
    (f : α → Observed σ β) : (x >>= f) state sinks = f a left after := by
  simp only [bind, ran]

theorem bind_of_unwound (ran : x state sinks = ⟨.unwound, left, after⟩)
    (f : α → Observed σ β) : (x >>= f) state sinks = ⟨.unwound, left, after⟩ := by
  simp only [bind, ran]

theorem caught_of_run {ending : Ending α} (ran : x state sinks = ⟨ending, left, after⟩) :
    caught x state sinks = ⟨.returned ending, left, after⟩ := by
  simp only [caught, ran]

theorem withSink_of_run {sink : String} {ending : Ending α}
    (ran : x state (sinks.enter sink) = ⟨ending, left, after⟩) :
    withSink sink x state sinks = ⟨ending, left, after.restore sinks.active⟩ := by
  simp only [withSink, ran]

/-- However a scope ends, the sink in force is the one from before. -/
theorem active_withSink (sink : String) (x : Observed σ α) (state : σ) (sinks : Sinks) :
    (withSink sink x state sinks).sinks.active = sinks.active := rfl

end Observed

namespace Script

variable {σ : Type}

theorem ending_of_unwinds {script : Script} (unwinds : script.unwinds = true) :
    script.ending = .unwound := if_pos unwinds

theorem ending_of_not_unwinds {script : Script} (returns : script.unwinds = false) :
    script.ending = .returned () := by
  simp [ending, returns]

/-- The induction is on the script, under any open scopes: what the cell holds at the start
of a part is the innermost of them. -/
theorem run_delivers (script : Script) {scopes : List String} (state : σ) {sinks : Sinks}
    (inForce : sinks.active = scopes.head?) :
    ∃ after, script.run state sinks = ⟨script.ending, state, after⟩ ∧
      sinks.Delivers after (script.emissions scopes) := by
  induction script generalizing scopes sinks with
  | done => exact ⟨sinks, rfl, .refl sinks⟩
  | report event => exact ⟨sinks.record event, rfl, .record inForce event⟩
  | unwind => exact ⟨sinks, rfl, .refl sinks⟩
  | next first second firstIH secondIH =>
      obtain ⟨middle, ranFirst, earlier⟩ := firstIH inForce
      cases unwinds : first.unwinds with
      | true =>
          rw [ending_of_unwinds unwinds] at ranFirst
          refine ⟨middle, ?_, ?_⟩
          · rw [run, Observed.bind_of_unwound ranFirst]
            simp [ending, Script.unwinds, unwinds]
          · simpa [emissions, unwinds] using earlier
      | false =>
          rw [ending_of_not_unwinds unwinds] at ranFirst
          obtain ⟨after, ranSecond, later⟩ := secondIH (earlier.active.trans inForce)
          refine ⟨after, ?_, ?_⟩
          · rw [run, Observed.bind_of_returned ranFirst, ranSecond]
            simp [ending, Script.unwinds, unwinds]
          · simpa [emissions, unwinds] using earlier.trans later
  | scope sink body bodyIH =>
      have innermost : (sinks.enter sink).active = (sink :: scopes).head? := rfl
      obtain ⟨inner, ranBody, delivers⟩ := bodyIH innermost
      exact ⟨inner.restore sinks.active, Observed.withSink_of_run ranBody, delivers.scope⟩
  | rescue body handler bodyIH handlerIH =>
      obtain ⟨middle, ranBody, earlier⟩ := bodyIH inForce
      have caught := Observed.caught_of_run ranBody
      cases unwinds : body.unwinds with
      | true =>
          rw [ending_of_unwinds unwinds] at caught
          obtain ⟨after, ranHandler, later⟩ := handlerIH (earlier.active.trans inForce)
          refine ⟨after, ?_, ?_⟩
          · rw [run, Observed.bind_of_returned caught]
            simp [ending, Script.unwinds, unwinds, ranHandler]
          · simpa [emissions, unwinds] using earlier.trans later
      | false =>
          rw [ending_of_not_unwinds unwinds] at caught
          refine ⟨middle, ?_, ?_⟩
          · rw [run, Observed.bind_of_returned caught]
            simp [ending, Script.unwinds, unwinds]
            rfl
          · simpa [emissions, unwinds] using earlier

/-- Whatever a body does and however it ends, its scope puts back the sink that was in force.
A script therefore delivers each event it emits once and in order, to the sink of the
innermost scope that is open, and loses only what it emits outside of all scopes: a sink
receives, and counts, just the events emitted while it was that of the innermost scope. -/
theorem events_reach_innermost_scope :
    (∀ {σ α : Type} (sink : String) (body : Observed σ α) (state : σ) (sinks : Sinks),
      (Observed.withSink sink body state sinks).sinks.active = sinks.active) ∧
    (∀ {σ : Type} (script : Script) (scopes : List String) (state : σ) (sinks : Sinks),
      sinks.active = scopes.head? →
      ∃ after, script.run state sinks = ⟨script.ending, state, after⟩ ∧
        after.active = sinks.active ∧
        after.delivered =
          sinks.delivered ++ (script.emissions scopes).filterMap Emission.delivery? ∧
        (∀ sink, after.received sink =
          sinks.received sink ++ Emission.under sink (script.emissions scopes)) ∧
        (∀ sink, after.totals sink =
          (Emission.under sink (script.emissions scopes)).foldl Counters.record
            (sinks.totals sink))) ∧
    (∀ emission : Emission, emission.delivery? = none ↔ emission.scopes = []) := by
  refine ⟨Observed.active_withSink, ?_, Emission.delivery?_eq_none_iff⟩
  intro σ script scopes state sinks inForce
  obtain ⟨after, ran, delivers⟩ := run_delivers script state inForce
  exact ⟨after, ran, delivers.active, delivers.delivered, delivers.received, delivers.totals⟩

/-- One sink twice, a scope that unwinds through another, and an event outside of all. -/
theorem events_reach_innermost_scope_rescued :
    let seen (n : UInt64) : Event := .rowsFiltered n n
    let inner : Script := .scope "b" (.next (.report (seen 2))
      (.next (.scope "a" (.next (.report (seen 3)) .unwind)) (.report (seen 4))))
    let script : Script := .next
      (.scope "a" (.next (.report (seen 1)) (.rescue inner (.report (seen 5)))))
      (.report (seen 6))
    ∃ after, script.run () .empty = ⟨.returned (), (), after⟩ ∧ after.active = none ∧
      after.delivered = [("a", seen 1), ("b", seen 2), ("a", seen 3), ("a", seen 5)] ∧
      after.received "a" = [seen 1, seen 3, seen 5] ∧ (after.totals "a").rowsScanned = 9 := by
  intro seen inner script
  obtain ⟨_, runs, _⟩ := events_reach_innermost_scope
  obtain ⟨after, ran, active, delivered, received, totals⟩ := runs script [] () .empty rfl
  refine ⟨after, ran, active, delivered, received "a", ?_⟩
  rw [totals "a"]
  decide

end Script

end ColumnFilter
