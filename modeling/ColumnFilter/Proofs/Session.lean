import ColumnFilter.Proofs.Scopes
import ColumnFilter.Session

set_option autoImplicit false

/-!
# Sessions tell of every event once

The steps of a session leave their entries in order, those within a scope before the scope. An
action is told only of events for the sink in force, and a step leaves that sink in force, however
deep the scopes it opens and whether they unwind. So the entries tell of every event delivered,
once and in order, and each stands at the step during which it was delivered.
-/

namespace ColumnFilter

namespace Sinks

/-- From the first sinks to the second, the sink in force is the same, and no other has been
sent anything. -/
structure Sends (before after : Sinks) : Prop where
  active : after.active = before.active
  delivered : ∃ sent : List (String × Event), after.delivered = before.delivered ++ sent ∧
    ∀ delivery ∈ sent, before.active = some delivery.1

namespace Sends

theorem refl (sinks : Sinks) : sinks.Sends sinks :=
  ⟨rfl, [], (List.append_nil _).symm, nofun⟩

theorem trans {first second third : Sinks} (earlier : first.Sends second)
    (later : second.Sends third) : first.Sends third := by
  obtain ⟨sent, delivered, addressed⟩ := earlier.delivered
  obtain ⟨others, deliveredLater, addressedLater⟩ := later.delivered
  refine ⟨later.active.trans earlier.active, sent ++ others, ?_, ?_⟩
  · rw [deliveredLater, delivered, List.append_assoc]
  · intro delivery member
    rcases List.mem_append.mp member with here | there
    · exact addressed delivery here
    · exact earlier.active.symm.trans (addressedLater delivery there)

theorem record (sinks : Sinks) (event : Event) : sinks.Sends (sinks.record event) := by
  refine ⟨active_record sinks event, ?_⟩
  cases inForce : sinks.active with
  | none => exact ⟨[], by rw [record_of_none inForce, List.append_nil], nofun⟩
  | some sink =>
      refine ⟨[(sink, event)], by simp only [Sinks.record, inForce], ?_⟩
      intro delivery member
      cases List.mem_singleton.mp member
      rfl

theorem foldl_record (events : List Event) (sinks : Sinks) :
    sinks.Sends (events.foldl Sinks.record sinks) := by
  induction events generalizing sinks with
  | nil => exact .refl sinks
  | cons event rest ih => exact (record sinks event).trans (ih _)

theorem reset (sinks : Sinks) (sink : String) : sinks.Sends (sinks.reset sink) :=
  ⟨rfl, [], (List.append_nil _).symm, nofun⟩

end Sends

end Sinks

namespace Session

/-! ## Actions -/

/-- From wherever it starts, the computation returns; it leaves no entries and sends to the sink
in force alone. -/
def Plain {α : Type} (x : Observed Session α) : Prop :=
  ∀ session sinks, ∃ a left after, x session sinks = ⟨.returned a, left, after⟩ ∧
    left.entries = session.entries ∧ sinks.Sends after

namespace Plain

variable {α β : Type}

theorem pure (a : α) : Plain (Pure.pure a) :=
  fun session sinks => ⟨a, session, sinks, rfl, rfl, .refl sinks⟩

theorem bind {x : Observed Session α} {f : α → Observed Session β} (first : Plain x)
    (next : ∀ a, Plain (f a)) : Plain (x >>= f) := by
  intro session sinks
  obtain ⟨a, middle, between, ran, kept, sends⟩ := first session sinks
  obtain ⟨b, left, after, ranNext, keptNext, sendsNext⟩ := next a middle between
  refine ⟨b, left, after, ?_, keptNext.trans kept, sends.trans sendsNext⟩
  rw [Observed.bind_of_returned ran, ranNext]

theorem getState : Plain Observed.getState :=
  fun session sinks => ⟨session, session, sinks, rfl, rfl, .refl sinks⟩

theorem getSinks : Plain Observed.getSinks :=
  fun session sinks => ⟨sinks, session, sinks, rfl, rfl, .refl sinks⟩

theorem modifyState {change : Session → Session}
    (kept : ∀ session, (change session).entries = session.entries) :
    Plain (Observed.modifyState change) :=
  fun session sinks => ⟨(), change session, sinks, rfl, kept session, .refl sinks⟩

theorem traced (x : Traced α) : Plain (Observed.traced x) :=
  fun session sinks => ⟨x.value, session, _, rfl, rfl, .foldl_record x.events sinks⟩

theorem resetSink (sink : String) : Plain (Observed.resetSink sink) :=
  fun session sinks => ⟨(), session, _, rfl, rfl, .reset sinks sink⟩

theorem setFilter (f : Filter) : Plain (Session.setFilter f) :=
  modifyState fun _ => rfl

theorem withProgram {use : Program → Observed Session Reply}
    (each : ∀ program, Plain (use program)) : Plain (Session.withProgram use) := by
  apply getState.bind
  intro session
  cases session.program with
  | none => exact .pure _
  | some program => exact each program

theorem perform (action : Action) : Plain (Session.perform action) := by
  cases action with
  | withColumn column targets => exact getState.bind fun _ => (setFilter _).bind fun _ => .pure _
  | collect columns => exact (setFilter _).bind fun _ => .pure _
  | column column => exact getState.bind fun _ => .pure _
  | loadClause text =>
      rw [Session.perform]
      cases Clause.ofText text with
      | ok clause => exact (setFilter _).bind fun _ => .pure _
      | error error => exact .pure _
  | loadShape text column =>
      apply (traced (Shape.ofText text)).bind
      intro loaded
      cases loaded with
      | ok shape => exact (setFilter _).bind fun _ => .pure _
      | error error => exact .pure _
  | push row =>
      refine bind (modifyState ?_) fun _ => getState.bind fun _ => .pure _
      exact fun _ => rfl
  | rows => exact getState.bind fun _ => .pure _
  | compile =>
      refine getState.bind fun _ => bind (modifyState ?_) fun _ => .pure _
      exact fun _ => rfl
  | policy policy =>
      refine withProgram fun _ => bind (modifyState ?_) fun _ => .pure _
      exact fun _ => rfl
  | matchRows policy => exact getState.bind fun _ => (traced _).bind fun _ => .pure _
  | eval => exact withProgram fun _ => getState.bind fun _ => (traced _).bind fun _ => .pure _
  | filter => exact withProgram fun _ => getState.bind fun _ => (traced _).bind fun _ => .pure _
  | retain =>
      refine withProgram fun _ => getState.bind fun _ => (traced _).bind fun _ =>
        bind (modifyState ?_) fun _ => .pure _
      exact fun _ => rfl
  | report sink => exact getSinks.bind fun _ => .pure _
  | reset sink => exact (resetSink sink).bind fun _ => .pure _

end Plain

end Session

/-! ## Entries -/

/-- Where an entry is left: at a step, with a sink in force or none. -/
structure Place where
  step : String
  sink : Option String

/-- The entry names the step and tells only of events for the sink. -/
def Place.Fits (place : Place) (entry : Entry) : Prop :=
  entry.step = place.step ∧ ∀ delivery ∈ entry.events, place.sink = some delivery.1

mutual

/-- The places at which a step leaves entries under a sink. A scope comes after its steps, and
tells of no events by itself. -/
def Step.places : Option String → Step → List Place
  | inForce, .act action => [⟨action.name, inForce⟩]
  | _, .scope sink steps _ => Step.placesOfAll (some sink) steps ++ [⟨"scope", none⟩]
termination_by structural _ step => step

def Step.placesOfAll (inForce : Option String) : List Step → List Place
  | [] => []
  | step :: rest => Step.places inForce step ++ Step.placesOfAll inForce rest
termination_by structural steps => steps

end

namespace Session

/-- From the first session and sinks to the second, the same sink is in force, and an entry has
been left at each of the places. Together they tell of all that has been delivered meanwhile. -/
structure Leaves (places : List Place) (session : Session) (sinks : Sinks) (left : Session)
    (after : Sinks) (noted : List Entry) : Prop where
  active : after.active = sinks.active
  entries : left.entries = session.entries ++ noted
  delivered : after.delivered = sinks.delivered ++ noted.flatMap Entry.events
  fits : List.Forall₂ Place.Fits places noted

theorem Leaves.trans {places others : List Place} {session middle left : Session}
    {sinks between after : Sinks} {noted more : List Entry}
    (earlier : Leaves places session sinks middle between noted)
    (later : Leaves others middle between left after more) :
    Leaves (places ++ others) session sinks left after (noted ++ more) where
  active := later.active.trans earlier.active
  entries := by rw [later.entries, earlier.entries, List.append_assoc]
  delivered := by
    rw [later.delivered, earlier.delivered, List.flatMap_append, List.append_assoc]
  fits := List.rel_append earlier.fits later.fits

theorem run_act (action : Action) (session : Session) (sinks : Sinks) :
    ∃ left after noted, run (.act action) session sinks = ⟨.returned (), left, after⟩ ∧
      Leaves [⟨action.name, sinks.active⟩] session sinks left after noted := by
  obtain ⟨reply, left, after, ran, kept, sends⟩ := Plain.perform action session sinks
  obtain ⟨sent, delivered, addressed⟩ := sends.delivered
  have told : after.delivered.drop sinks.delivered.length = sent := by
    rw [delivered, List.drop_left]
  subst told
  let entry : Entry :=
    ⟨action.name, reply, after.delivered.drop sinks.delivered.length⟩
  refine ⟨{ left with entries := left.entries ++ [entry] }, after, [entry], ?_, ?_⟩
  · rw [run]
    change (perform action >>= _) session sinks = _
    rw [Observed.bind_of_returned ran]
    rfl
  · refine ⟨sends.active, congrArg (· ++ [entry]) kept, ?_, .cons ⟨rfl, addressed⟩ .nil⟩
    rw [List.flatMap_singleton]
    exact delivered

theorem run_scope {sink : String} {steps : List Step} (unwinds : Bool) {places : List Place}
    {session left : Session} {sinks inner : Sinks} {noted : List Entry}
    (ran : runAll steps session (sinks.enter sink) = ⟨.returned (), left, inner⟩)
    (leaves : Leaves places session (sinks.enter sink) left inner noted) :
    ∃ left after noted, run (.scope sink steps unwinds) session sinks =
        ⟨.returned (), left, after⟩ ∧
      Leaves (places ++ [⟨"scope", none⟩]) session sinks left after noted := by
  -- Unwinding comes after the steps and ends at the scope, which answers with it.
  let ending : Ending Unit := if unwinds then .unwound else .returned ()
  let entry : Entry := ⟨"scope", .scope ending, []⟩
  have body : (do runAll steps; if unwinds then Observed.unwind) session (sinks.enter sink) =
      ⟨ending, left, inner⟩ := by
    rw [Observed.bind_of_returned ran]
    cases unwinds <;> rfl
  refine ⟨{ left with entries := left.entries ++ [entry] }, inner.restore sinks.active,
    noted ++ [entry], ?_, ?_⟩
  · rw [run, Observed.bind_of_returned (Observed.caught_of_run (Observed.withSink_of_run body))]
    rfl
  · refine ⟨rfl, ?_, ?_, List.rel_append leaves.fits (.cons ⟨rfl, nofun⟩ .nil)⟩
    · rw [← List.append_assoc, ← leaves.entries]
    · rw [List.flatMap_append, List.flatMap_singleton, List.append_nil]
      exact leaves.delivered

/-! ## Steps -/

mutual

/-- Whatever a step does, it returns with the sink in force that was in force before, and its
entries tell of all that it delivers. -/
theorem run_leaves : ∀ (step : Step) (session : Session) (sinks : Sinks),
    ∃ left after noted, run step session sinks = ⟨.returned (), left, after⟩ ∧
      Leaves (step.places sinks.active) session sinks left after noted
  | .act action, session, sinks => run_act action session sinks
  | .scope sink steps unwinds, session, sinks => by
      obtain ⟨left, inner, noted, ran, leaves⟩ := runAll_leaves steps session (sinks.enter sink)
      exact run_scope unwinds ran leaves

theorem runAll_leaves : ∀ (steps : List Step) (session : Session) (sinks : Sinks),
    ∃ left after noted, runAll steps session sinks = ⟨.returned (), left, after⟩ ∧
      Leaves (Step.placesOfAll sinks.active steps) session sinks left after noted
  | [], session, sinks =>
      ⟨session, sinks, [], rfl, rfl, (List.append_nil _).symm, (List.append_nil _).symm, .nil⟩
  | step :: rest, session, sinks => by
      obtain ⟨middle, between, noted, ran, leaves⟩ := run_leaves step session sinks
      obtain ⟨left, after, more, ranRest, leavesRest⟩ := runAll_leaves rest middle between
      rw [leaves.active] at leavesRest
      refine ⟨left, after, noted ++ more, ?_, leaves.trans leavesRest⟩
      rw [runAll, Observed.bind_of_returned ran, ranRest]

end

/-- A session of its own has an entry for every step, under the sink it is given or under none. -/
theorem fits_entriesOf (sink : Option String) (steps : List Step) :
    List.Forall₂ Place.Fits (Step.placesOfAll sink steps) (entriesOf sink steps) := by
  cases sink with
  | none =>
      obtain ⟨left, after, noted, ran, leaves⟩ := runAll_leaves steps start .empty
      have entries : entriesOf none steps = noted := by
        rw [entriesOf, ran]
        exact leaves.entries
      rw [entries]
      exact leaves.fits
  | some name =>
      obtain ⟨left, inner, noted, ran, leaves⟩ :=
        runAll_leaves steps start (Sinks.empty.enter name)
      have entries : entriesOf (some name) steps = noted := by
        rw [entriesOf, Observed.withSink_of_run ran]
        exact leaves.entries
      rw [entries]
      exact leaves.fits

end Session

end ColumnFilter
