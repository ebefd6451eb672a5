import ColumnFilter.Proofs.Batches
import ColumnFilter.Proofs.Counters
import ColumnFilter.Proofs.Scopes
import ColumnFilter.Proofs.Shape

set_option autoImplicit false

/-!
# What a run of calls adds up to

Calls report in three ways: a decoder that succeeds reports a shape, a batch reports its rows
when it ends, and whatever is compared may report targets of the wrong arity before that. So
what a sink reports after a run can be told from the calls and their answers.
-/

namespace ColumnFilter

/-- Something asked of the library while a counting sink is in force, or a reset of the sink. -/
inductive Call : Type 1 where
  | decodeText (text : String)
  | decodeTree (json : Json)
  | decodeObject (object : KeyMap String Json)
  | compare (actual : Value) (op : Operator) (target : Value)
  | check (p : Predicate) (actual : Value)
  | matchRow {ρ : Type} [Row ρ] (f : Filter) (policy : MissingPolicy) (row : ρ)
  | evalRow {ρ : Type} [Row ρ] (program : Program) (row : ρ)
  | filterRows {ρ : Type} [Row ρ] (program : Program) (rows : List ρ)
  | retainRows {ρ : Type} [Row ρ] (program : Program) (rows : List ρ)
  | reset

/-- The kind of an answer, unless it is an error. -/
def Shape.answeredKind? : Except FilterError Shape → Option ShapeKind
  | .ok shape => some shape.kind
  | .error _ => none

namespace Call

/-- Does what is asked, and drops the answer. -/
def run {σ : Type} (sink : String) : Call → Observed σ Unit
  | .decodeText text => discard (Observed.traced (Shape.ofText text))
  | .decodeTree json => discard (Observed.traced (Shape.ofJson json))
  | .decodeObject object => discard (Observed.traced (Shape.ofObject object))
  | .compare actual op target => discard (Observed.traced (op.holds actual target))
  | .check p actual => discard (Observed.traced (p.holds actual))
  | @matchRow _ _ f policy row => discard (Observed.traced (f.matchesRow policy row))
  | @evalRow _ _ program row => discard (Observed.traced (program.eval row))
  | @filterRows _ _ program rows => discard (Observed.traced (program.filterRows rows))
  | @retainRows _ _ program rows => discard (Observed.traced (program.retain rows))
  | .reset => .resetSink sink

def runAll {σ : Type} (sink : String) : List Call → Observed σ Unit
  | [] => pure ()
  | call :: rest => do
      run sink call
      runAll sink rest

/-- The kind of shape that a call decodes, if it decodes one. -/
def decoded? : Call → Option ShapeKind
  | .decodeText text => Shape.answeredKind? (Shape.ofText text).value
  | .decodeTree json => Shape.answeredKind? (Shape.ofJson json).value
  | .decodeObject object => Shape.answeredKind? (Shape.ofObject object).value
  | _ => none

def isBatch : Call → Bool
  | @filterRows _ _ _ _ => true
  | @retainRows _ _ _ _ => true
  | _ => false

def isReset : Call → Bool
  | .reset => true
  | _ => false

/-- The events that a call reports. -/
def events : Call → List Event
  | .decodeText text => (Shape.ofText text).events
  | .decodeTree json => (Shape.ofJson json).events
  | .decodeObject object => (Shape.ofObject object).events
  | .compare actual op target => (op.holds actual target).events
  | .check p actual => (p.holds actual).events
  | @matchRow _ _ f policy row => (f.matchesRow policy row).events
  | @evalRow _ _ program row => (program.eval row).events
  | @filterRows _ _ program rows => (program.filterRows rows).events
  | @retainRows _ _ program rows => (program.retain rows).events
  | .reset => []

/-- What the sink is given by a call. -/
def deliveries (call : Call) : List Delivery :=
  if call.isReset then [.reset] else call.events.map .sent

/-- The calls after the last reset. -/
def sinceReset (calls : List Call) : List Call :=
  calls.rtakeWhile fun call => !call.isReset

end Call

/-! ## Events of a call -/

/-- Every event tells of a target of the wrong arity. -/
def OnlyMalformed (events : List Event) : Prop :=
  ∀ event ∈ events, ∃ op found, event = .malformedTarget op found

namespace OnlyMalformed

theorem nil : OnlyMalformed [] := nofun

theorem holds (actual : Value) (op : Operator) (target : Value) :
    OnlyMalformed (op.holds actual target).events := by
  cases op with
  | equals => exact nil
  | oneOf =>
      cases target with
      | list items => exact nil
      | _ =>
          intro event member
          exact ⟨_, _, List.mem_singleton.mp member⟩

theorem allM {α : Type} {check : α → Traced Bool} {entries : List α}
    (parts : ∀ entry ∈ entries, OnlyMalformed (check entry).events) :
    OnlyMalformed (entries.allM check).events := by
  intro event member
  obtain ⟨entry, isEntry, reported⟩ := Traced.mem_events_allM member
  exact parts entry isEntry event reported

theorem predicate (p : Predicate) (actual : Value) : OnlyMalformed (p.holds actual).events :=
  allM fun entry _ => holds actual entry.1 entry.2

theorem matchesField (p : Predicate) (policy : MissingPolicy) (field : Field) :
    OnlyMalformed (p.matchesField policy field).events := by
  unfold Predicate.matchesField
  split
  · exact nil
  · split
    · exact predicate p _
    · exact nil
    · exact nil
    · exact predicate p .null

variable {ρ : Type} [Row ρ]

theorem matchesRow (f : Filter) (policy : MissingPolicy) (row : ρ) :
    OnlyMalformed (f.matchesRow policy row).events :=
  allM fun entry _ => matchesField entry.2 policy _

theorem eval (program : Program) (row : ρ) : OnlyMalformed (program.eval row).events :=
  allM fun entry _ => matchesField entry.2 program.policy _

theorem rowEvents (program : Program) (rows : List ρ) :
    OnlyMalformed (program.rowEvents rows) := by
  intro event member
  obtain ⟨row, _, reported⟩ := List.mem_flatMap.mp member
  exact eval program row event reported

end OnlyMalformed

theorem Shape.events_ofText (text : String) :
    (ofText text).events = eventsOf (ofText text).value := by
  unfold ofText
  cases Json.ofText text with
  | ok json => exact events_ofJson json
  | error error => rfl

/-- How the events of a call end, given the kind it decodes and whether it is a batch. -/
inductive Closes : Option ShapeKind → Bool → List Event → Prop where
  | nothing : Closes none false []
  | shape (kind : ShapeKind) : Closes (some kind) false [.shapeClassified kind]
  | batch {scanned matched : Nat} : matched ≤ scanned →
      Closes none true [.rowsFiltered (saturate scanned) (saturate matched)]

theorem Closes.eventsOf (answer : Except FilterError Shape) :
    Closes (Shape.answeredKind? answer) false (Shape.eventsOf answer) := by
  cases answer with
  | ok shape => exact .shape shape.kind
  | error error => exact .nothing

namespace Call

/-- Whatever a call reports before its end are targets of the wrong arity. -/
theorem events_eq (call : Call) : ∃ malformed closing,
    call.events = malformed ++ closing ∧ OnlyMalformed malformed ∧
      Closes call.decoded? call.isBatch closing := by
  cases call with
  | decodeText text =>
      exact ⟨[], _, Shape.events_ofText text, .nil, .eventsOf _⟩
  | decodeTree json =>
      exact ⟨[], _, Shape.events_ofJson json, .nil, .eventsOf _⟩
  | decodeObject object =>
      exact ⟨[], _, Shape.events_ofObject object, .nil, .eventsOf _⟩
  | compare actual op target =>
      exact ⟨_, [], (List.append_nil _).symm, .holds actual op target, .nothing⟩
  | check p actual => exact ⟨_, [], (List.append_nil _).symm, .predicate p actual, .nothing⟩
  | matchRow f policy row =>
      exact ⟨_, [], (List.append_nil _).symm, .matchesRow f policy row, .nothing⟩
  | evalRow program row =>
      exact ⟨_, [], (List.append_nil _).symm, .eval program row, .nothing⟩
  | filterRows program rows =>
      exact ⟨_, _, congrArg Traced.events (program.filterRows_eq rows), .rowEvents program rows,
        .batch (program.length_matching_le rows)⟩
  | retainRows program rows =>
      exact ⟨_, _, congrArg Traced.events (program.retain_eq rows), .rowEvents program rows,
        .batch (program.length_matching_le rows)⟩
  | reset => exact ⟨[], [], rfl, .nil, .nothing⟩

end Call

/-! ## Totals of a run -/

/-- The total that counts shapes of a kind. -/
def Total.shapes : ShapeKind → Total
  | .byColumn => .shapesByColumn
  | .byOperator => .shapesByOperator

theorem OnlyMalformed.exact_eq_zero {events : List Event} (only : OnlyMalformed events)
    {total : Total} (other : total ≠ .malformedTargets) : total.exact events = 0 := by
  apply Total.exact_eq_zero
  intro event member
  obtain ⟨op, found, rfl⟩ := only event member
  cases total <;> first | rfl | exact absurd rfl other

namespace Call

theorem exact_batches (call : Call) :
    Total.batches.exact call.events = if call.isBatch then 1 else 0 := by
  obtain ⟨malformed, closing, same, only, closes⟩ := call.events_eq
  have early : Total.batches.exact malformed = 0 := only.exact_eq_zero nofun
  rw [same, Total.exact_append, early]
  generalize call.decoded? = kind at closes
  generalize call.isBatch = isBatch at closes
  cases closes with
  | nothing => rfl
  | shape found => cases found <;> rfl
  | batch _ => rfl

theorem exact_shapes (kind : ShapeKind) (call : Call) :
    (Total.shapes kind).exact call.events = if call.decoded? = some kind then 1 else 0 := by
  obtain ⟨malformed, closing, same, only, closes⟩ := call.events_eq
  have other : Total.shapes kind ≠ .malformedTargets := by cases kind <;> nofun
  rw [same, Total.exact_append, only.exact_eq_zero other]
  generalize call.decoded? = decoded at closes
  generalize call.isBatch = isBatch at closes
  cases closes with
  | nothing => simp
  | shape found => cases kind <;> cases found <;> simp [Total.shapes, Event.adds]
  | batch _ => cases kind <;> simp [Total.shapes, Event.adds]

theorem mem_events_of_sent_mem {call : Call} {event : Event}
    (given : .sent event ∈ call.deliveries) : event ∈ call.events := by
  rw [deliveries] at given
  split at given
  · cases List.mem_singleton.mp given
  · obtain ⟨reported, member, same⟩ := List.mem_map.mp given
    cases same
    exact member

/-- Batches report at most as many matched rows as scanned ones, saturated or not, and
nothing else reports rows at all. -/
theorem matched_le_scanned {call : Call} {event : Event} (reported : event ∈ call.events) :
    event.adds .rowsMatched ≤ event.adds .rowsScanned := by
  obtain ⟨malformed, closing, same, only, closes⟩ := call.events_eq
  rw [same] at reported
  rcases List.mem_append.mp reported with early | last
  · obtain ⟨op, found, rfl⟩ := only event early
    exact Nat.le_refl 0
  · generalize call.decoded? = decoded at closes
    generalize call.isBatch = isBatch at closes
    cases closes with
    | nothing => cases last
    | shape kind =>
        cases List.mem_singleton.mp last
        cases kind <;> exact Nat.le_refl 0
    | batch fewer =>
        cases List.mem_singleton.mp last
        simp only [Event.adds, toNat_saturate]
        omega

theorem exact_flatMap_events {total : Total} {counts : Call → Bool}
    (each : ∀ call : Call, total.exact call.events = if counts call then 1 else 0)
    (calls : List Call) : total.exact (calls.flatMap events) = calls.countP counts := by
  induction calls with
  | nil => rfl
  | cons call rest ih =>
      rw [List.flatMap_cons, Total.exact_append, ih, each, List.countP_cons, Nat.add_comm]

theorem sinceReset_deliveries (calls : List Call) :
    Delivery.sinceReset (calls.flatMap deliveries) = (sinceReset calls).flatMap events := by
  induction calls using List.reverseRecOn with
  | nil => rfl
  | append_singleton earlier call ih =>
      rw [List.flatMap_append, List.flatMap_singleton, deliveries, sinceReset,
        List.rtakeWhile_concat]
      cases resets : call.isReset with
      | true => simp
      | false =>
          rw [if_neg nofun, Delivery.sinceReset_append_events, ih]
          simp [sinceReset]

/-- A total that counts calls is their number since the last reset, saturated. -/
theorem get_after_deliveries {total : Total} {counts : Call → Bool}
    (each : ∀ call : Call, total.exact call.events = if counts call then 1 else 0)
    (calls : List Call) :
    (Counters.after (calls.flatMap deliveries)).get total =
      saturate ((sinceReset calls).countP counts) := by
  apply UInt64.toNat_inj.mp
  rw [Counters.toNat_get_after, sinceReset_deliveries, exact_flatMap_events each, toNat_saturate]

theorem get_after_shapes (kind : ShapeKind) (calls : List Call) :
    (Counters.after (calls.flatMap deliveries)).get (.shapes kind) =
      saturate ((sinceReset calls).countP fun call => call.decoded? = some kind) := by
  apply get_after_deliveries
  simpa using exact_shapes kind

theorem rowsMatched_le_rowsScanned {calls : List Call} {point : List Delivery}
    (reached : point <+: calls.flatMap deliveries) :
    (Counters.after point).rowsMatched ≤ (Counters.after point).rowsScanned := by
  have fewer : Total.rowsMatched.exact (Delivery.sinceReset point) ≤
      Total.rowsScanned.exact (Delivery.sinceReset point) := by
    apply Total.exact_le_exact
    intro event member
    have given := reached.subset (Delivery.sent_mem_of_mem_sinceReset member)
    obtain ⟨call, _, isGiven⟩ := List.mem_flatMap.mp given
    exact matched_le_scanned (mem_events_of_sent_mem isGiven)
  have matched := Counters.toNat_get_after point .rowsMatched
  have scanned := Counters.toNat_get_after point .rowsScanned
  apply UInt64.le_iff_toNat_le.mpr
  simp only [Counters.get] at matched scanned
  omega

end Call

/-! ## Runs under a sink -/

namespace Sinks

theorem active_foldl_record (sinks : Sinks) (events : List Event) :
    (events.foldl record sinks).active = sinks.active := by
  induction events generalizing sinks with
  | nil => rfl
  | cons event rest ih => rw [List.foldl_cons, ih, active_record]

theorem totals_foldl_record {sinks : Sinks} {sink : String} (inForce : sinks.active = some sink)
    (events : List Event) :
    (events.foldl record sinks).totals sink =
      events.foldl Counters.record (sinks.totals sink) := by
  induction events generalizing sinks with
  | nil => rfl
  | cons event rest ih =>
      rw [List.foldl_cons, ih ((active_record sinks event).trans inForce), totals_record inForce,
        if_pos rfl, List.foldl_cons]

theorem totals_reset (sinks : Sinks) (sink : String) : (sinks.reset sink).totals sink = .zero := by
  have inserted := totals_insert sinks sink sink .zero
  rw [if_pos rfl] at inserted
  exact inserted

end Sinks

namespace Call

variable {σ : Type}

theorem run_of_not_reset {call : Call} (notReset : call.isReset = false)
    (sink : String) (state : σ) (sinks : Sinks) :
    run sink call state sinks =
      ⟨.returned (), state, call.events.foldl Sinks.record sinks⟩ := by
  cases call <;> first | rfl | cases notReset

theorem run_eq (call : Call) {sink : String} (state : σ) {sinks : Sinks}
    (inForce : sinks.active = some sink) :
    ∃ after, run sink call state sinks = ⟨.returned (), state, after⟩ ∧
      after.active = some sink ∧
      after.totals sink = call.deliveries.foldl Counters.receive (sinks.totals sink) := by
  cases resets : call.isReset with
  | true =>
      have isReset : call = .reset := by cases call <;> first | rfl | cases resets
      subst isReset
      exact ⟨sinks.reset sink, rfl, inForce, sinks.totals_reset sink⟩
  | false =>
      refine ⟨_, run_of_not_reset resets sink state sinks, ?_, ?_⟩
      · rw [Sinks.active_foldl_record, inForce]
      · rw [Sinks.totals_foldl_record inForce, deliveries, resets, if_neg nofun,
          Counters.foldl_receive_events]

/-- The induction is on the calls: each finds the sink in force as the one before left it. -/
theorem runAll_eq (calls : List Call) {sink : String} (state : σ) {sinks : Sinks}
    (inForce : sinks.active = some sink) :
    ∃ after, runAll sink calls state sinks = ⟨.returned (), state, after⟩ ∧
      after.totals sink =
        (calls.flatMap deliveries).foldl Counters.receive (sinks.totals sink) := by
  induction calls generalizing sinks with
  | nil => exact ⟨sinks, rfl, rfl⟩
  | cons call rest ih =>
      obtain ⟨middle, ran, stillInForce, given⟩ := call.run_eq state inForce
      obtain ⟨after, ranRest, givenRest⟩ := ih stillInForce
      refine ⟨after, ?_, ?_⟩
      · rw [runAll, Observed.bind_of_returned ran, ranRest]
      · rw [givenRest, given, List.flatMap_cons, List.foldl_append]

/-- A sink that starts from zero reports after a run what its deliveries come to. -/
theorem totals_withSink_runAll (calls : List Call) {sink : String} (state : σ) {sinks : Sinks}
    (new : sinks.totals sink = .zero) :
    (Observed.withSink sink (runAll sink calls) state sinks).sinks.totals sink =
      Counters.after (calls.flatMap deliveries) := by
  have inForce : (sinks.enter sink).active = some sink := rfl
  obtain ⟨after, ran, given⟩ := runAll_eq calls state inForce
  rw [Observed.withSink_of_run ran]
  change after.totals sink = _
  rw [given, Sinks.totals_enter, new]
  rfl

/-- Every entry of a report is the exact count or sum of what was contributed to it since the
last reset, saturated once, whatever the order of the events between resets. After a run of
calls under a sink, its batches and shapes are the calls of that kind since the last reset,
and at no point of the run have more rows been matched than scanned. -/
theorem reports_are_exact :
    (∀ (deliveries : List Delivery) (total : Total),
      ((Counters.after deliveries).get total).toNat =
        min (total.exact (Delivery.sinceReset deliveries)) 0xffffffffffffffff) ∧
    (∀ (before later : List Delivery) (events others : List Event), events.Perm others →
      Counters.after (before ++ events.map .sent ++ later) =
        Counters.after (before ++ others.map .sent ++ later)) ∧
    (∀ {σ : Type} (calls : List Call) (sink : String) (state : σ) (sinks : Sinks),
      sinks.totals sink = .zero →
      ∃ report,
        (Observed.withSink sink (runAll sink calls) state sinks).sinks.totals sink = report ∧
        report = Counters.after (calls.flatMap deliveries) ∧
        report.batches = saturate ((sinceReset calls).countP isBatch) ∧
        report.shapesByColumn =
          saturate ((sinceReset calls).countP fun call => call.decoded? = some .byColumn) ∧
        report.shapesByOperator =
          saturate ((sinceReset calls).countP fun call => call.decoded? = some .byOperator)) ∧
    (∀ (calls : List Call) (point : List Delivery), point <+: calls.flatMap deliveries →
      (Counters.after point).rowsMatched ≤ (Counters.after point).rowsScanned) := by
  refine ⟨Counters.toNat_get_after, ?_, ?_, fun calls point => rowsMatched_le_rowsScanned⟩
  · intro before later events others perm
    exact Counters.after_perm before later perm
  · intro σ calls sink state sinks new
    refine ⟨_, totals_withSink_runAll calls state new, rfl, ?_, ?_, ?_⟩
    · exact get_after_deliveries exact_batches calls
    · exact get_after_shapes .byColumn calls
    · exact get_after_shapes .byOperator calls

/-- Shapes and batches before the reset do not count, nor does the tree that is refused. -/
theorem reports_are_exact_after_reset :
    let program := Program.compile ((Predicate.single .oneOf (.text "x")).forColumn "a")
    let rows : List (KeyMap String Value) := [KeyMap.empty.insert "a" .null, .empty]
    let calls : List Call := [.decodeObject .empty, .filterRows program rows, .reset,
      .decodeTree (.object [("in", .array [])]), .decodeTree .null, .retainRows program rows]
    let found : Event := .malformedTarget .oneOf .text
    let full : Event := .rowsFiltered 0xffffffffffffffff 1
    ∃ report, (Observed.withSink "s" (runAll "s" calls) () .empty).sinks.totals "s" = report ∧
      report.batches = 1 ∧ report.shapesByColumn = 0 ∧ report.shapesByOperator = 1 ∧
      report.rowsMatched ≤ report.rowsScanned ∧
      ((Counters.after [.reset, .sent full, .sent found, .sent full]).get .rowsScanned).toNat =
        0xffffffffffffffff ∧
      Counters.after [.sent full, .sent found, .reset] =
        Counters.after [.sent found, .sent full, .reset] := by
  intro program rows calls found full
  obtain ⟨exact, reordered, runs, bounded⟩ := reports_are_exact
  obtain ⟨report, reported, same, batches, columns, operators⟩ := runs calls "s" () .empty rfl
  refine ⟨report, reported, batches.trans (by decide), columns.trans (by decide),
    operators.trans (by decide), ?_, (exact _ .rowsScanned).trans (by decide), ?_⟩
  · rw [same]
    exact bounded calls _ (List.prefix_refl _)
  · exact reordered [] [.reset] [full, found] [found, full] (.swap found full [])

end Call

end ColumnFilter
