import ColumnFilter.Counters
import Mathlib.Data.List.DropRight

set_option autoImplicit false

/-!
# Reports are saturated totals

Counters saturate with every event, and still report the exact totals saturated once. Totals
are sums, so the order of events makes no difference to a report, and a reset starts them
anew.
-/

namespace ColumnFilter

/-! ## Totals -/

/-- What a report counts. -/
inductive Total where
  | shapesByColumn
  | shapesByOperator
  | malformedTargets
  | batches
  | rowsScanned
  | rowsMatched

def Counters.get (counters : Counters) : Total → UInt64
  | .shapesByColumn => counters.shapesByColumn
  | .shapesByOperator => counters.shapesByOperator
  | .malformedTargets => counters.malformedTargets
  | .batches => counters.batches
  | .rowsScanned => counters.rowsScanned
  | .rowsMatched => counters.rowsMatched

/-- What an event contributes to a total. -/
def Event.adds : Event → Total → Nat
  | .shapeClassified .byColumn, .shapesByColumn => 1
  | .shapeClassified .byOperator, .shapesByOperator => 1
  | .malformedTarget _ _, .malformedTargets => 1
  | .rowsFiltered _ _, .batches => 1
  | .rowsFiltered scanned _, .rowsScanned => scanned.toNat
  | .rowsFiltered _ matched, .rowsMatched => matched.toNat
  | _, _ => 0

/-- The exact total of some events, of any size. -/
def Total.exact (total : Total) : List Event → Nat
  | [] => 0
  | event :: rest => event.adds total + total.exact rest

namespace Total

@[simp] theorem exact_nil (total : Total) : total.exact [] = 0 := rfl

@[simp] theorem exact_cons (total : Total) (event : Event) (events : List Event) :
    total.exact (event :: events) = event.adds total + total.exact events := rfl

@[simp] theorem exact_append (total : Total) (first second : List Event) :
    total.exact (first ++ second) = total.exact first + total.exact second := by
  induction first with
  | nil => simp
  | cons event rest ih => simp [ih, Nat.add_assoc]

theorem exact_perm {events others : List Event} (perm : events.Perm others) (total : Total) :
    total.exact events = total.exact others := by
  induction perm with
  | nil => rfl
  | cons event _ ih => simp [ih]
  | swap first second rest => simp [Nat.add_left_comm]
  | trans _ _ firstIH secondIH => exact firstIH.trans secondIH

theorem exact_eq_zero {total : Total} {events : List Event}
    (nothing : ∀ event ∈ events, event.adds total = 0) : total.exact events = 0 := by
  induction events with
  | nil => rfl
  | cons event rest ih =>
      have later := ih fun other member => nothing other (List.mem_cons_of_mem _ member)
      simp [later, nothing event List.mem_cons_self]

theorem exact_le_exact {smaller larger : Total} {events : List Event}
    (below : ∀ event ∈ events, event.adds smaller ≤ event.adds larger) :
    smaller.exact events ≤ larger.exact events := by
  induction events with
  | nil => exact Nat.le_refl 0
  | cons event rest ih =>
      have here := below event List.mem_cons_self
      have later := ih fun other member => below other (List.mem_cons_of_mem _ member)
      simp only [exact_cons]
      omega

end Total

theorem toNat_saturate (n : Nat) : (saturate n).toNat = min n 0xffffffffffffffff :=
  UInt64.toNat_ofNat_of_lt' (by simp only [UInt64.size]; omega)

namespace Counters

theorem eq_of_get_eq {counters others : Counters}
    (same : ∀ total, counters.get total = others.get total) : counters = others := by
  cases counters
  cases others
  have columns := same .shapesByColumn
  have operators := same .shapesByOperator
  have targets := same .malformedTargets
  have batches := same .batches
  have scanned := same .rowsScanned
  have matched := same .rowsMatched
  simp_all [get]

/-- One event adds its contribution to every total. -/
theorem toNat_get_record (counters : Counters) (event : Event) (total : Total) :
    ((counters.record event).get total).toNat =
      min ((counters.get total).toNat + event.adds total) 0xffffffffffffffff := by
  have bound := (counters.get total).toNat_lt
  rcases event with ⟨_ | _⟩ | ⟨op, found⟩ | ⟨scanned, matched⟩ <;> cases total <;>
    simp [record, get, Event.adds, saturatingAdd, toNat_saturate] at bound ⊢ <;> omega

/-- Saturating after every event comes to saturating once. -/
theorem toNat_get_foldl_record (counters : Counters) (events : List Event) (total : Total) :
    ((events.foldl record counters).get total).toNat =
      min ((counters.get total).toNat + total.exact events) 0xffffffffffffffff := by
  induction events generalizing counters with
  | nil =>
      have bound := (counters.get total).toNat_lt
      simp only [List.foldl_nil, Total.exact_nil]
      omega
  | cons event rest ih =>
      rw [List.foldl_cons, ih, toNat_get_record, Total.exact_cons]
      omega

theorem foldl_record_perm (counters : Counters) {events others : List Event}
    (perm : events.Perm others) :
    events.foldl record counters = others.foldl record counters := by
  apply eq_of_get_eq
  intro total
  apply UInt64.toNat_inj.mp
  rw [toNat_get_foldl_record, toNat_get_foldl_record, Total.exact_perm perm]

end Counters

/-! ## Resets -/

/-- What a counting sink is given. -/
inductive Delivery where
  | sent (event : Event)
  | reset

namespace Delivery

def isReset : Delivery → Bool
  | .sent _ => false
  | .reset => true

def event? : Delivery → Option Event
  | .sent event => some event
  | .reset => none

/-- The events after the last reset. -/
def sinceReset (deliveries : List Delivery) : List Event :=
  (deliveries.rtakeWhile fun delivery => !delivery.isReset).filterMap event?

@[simp] theorem sinceReset_append_reset (deliveries : List Delivery) :
    sinceReset (deliveries ++ [.reset]) = [] := by
  simp [sinceReset, isReset]

@[simp] theorem sinceReset_append_sent (deliveries : List Delivery) (event : Event) :
    sinceReset (deliveries ++ [.sent event]) = sinceReset deliveries ++ [event] := by
  simp [sinceReset, isReset, event?]

theorem sinceReset_append_events (deliveries : List Delivery) (events : List Event) :
    sinceReset (deliveries ++ events.map .sent) = sinceReset deliveries ++ events := by
  induction events generalizing deliveries with
  | nil => simp
  | cons event rest ih =>
      have regrouped : deliveries ++ (event :: rest).map .sent =
          (deliveries ++ [.sent event]) ++ rest.map .sent := by simp
      rw [regrouped, ih]
      simp

theorem sent_mem_of_mem_sinceReset {deliveries : List Delivery} {event : Event}
    (member : event ∈ sinceReset deliveries) : .sent event ∈ deliveries := by
  obtain ⟨delivery, kept, isEvent⟩ := List.mem_filterMap.mp member
  have inside := (List.rtakeWhile_suffix _ deliveries).subset kept
  cases delivery with
  | sent other =>
      cases isEvent
      exact inside
  | reset => cases isEvent

end Delivery

namespace Counters

def receive (counters : Counters) : Delivery → Counters
  | .sent event => counters.record event
  | .reset => .zero

/-- What a new counting sink reports after some deliveries. -/
def after (deliveries : List Delivery) : Counters :=
  deliveries.foldl receive .zero

theorem foldl_receive_events (counters : Counters) (events : List Event) :
    (events.map .sent).foldl receive counters = events.foldl record counters :=
  List.foldl_map

theorem after_eq_foldl_sinceReset (deliveries : List Delivery) :
    after deliveries = (Delivery.sinceReset deliveries).foldl record .zero := by
  induction deliveries using List.reverseRecOn with
  | nil => rfl
  | append_singleton earlier delivery ih =>
      rw [after] at ih ⊢
      rw [List.foldl_append, ih]
      cases delivery with
      | sent event => simp [receive]
      | reset => simp [receive]

theorem toNat_get_after (deliveries : List Delivery) (total : Total) :
    ((after deliveries).get total).toNat =
      min (total.exact (Delivery.sinceReset deliveries)) 0xffffffffffffffff := by
  rw [after_eq_foldl_sinceReset, toNat_get_foldl_record]
  have start : (zero.get total).toNat = 0 := by cases total <;> rfl
  rw [start, Nat.zero_add]

theorem after_perm (before later : List Delivery) {events others : List Event}
    (perm : events.Perm others) :
    after (before ++ events.map .sent ++ later) =
      after (before ++ others.map .sent ++ later) := by
  simp only [after, List.foldl_append, foldl_receive_events]
  rw [foldl_record_perm _ perm]

end Counters

end ColumnFilter
