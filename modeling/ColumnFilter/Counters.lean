import ColumnFilter.Event
import ColumnFilter.Json.Encoding

set_option autoImplicit false

/-!
# Counters

A counting sink keeps six totals of the events it receives. Totals have sixty-four bits and
stay at their largest value once they reach it.
-/

namespace ColumnFilter

/-- The sum of two counts, or the largest count if the sum is larger. -/
def saturatingAdd (a b : UInt64) : UInt64 :=
  saturate (a.toNat + b.toNat)

/-- Totals of the events received since the last reset. -/
structure Counters where
  shapesByColumn : UInt64
  shapesByOperator : UInt64
  malformedTargets : UInt64
  batches : UInt64
  rowsScanned : UInt64
  rowsMatched : UInt64
  deriving DecidableEq

namespace Counters

def zero : Counters := ⟨0, 0, 0, 0, 0, 0⟩

instance : Inhabited Counters := ⟨zero⟩

def record (counters : Counters) : Event → Counters
  | .shapeClassified .byColumn =>
      { counters with shapesByColumn := saturatingAdd counters.shapesByColumn 1 }
  | .shapeClassified .byOperator =>
      { counters with shapesByOperator := saturatingAdd counters.shapesByOperator 1 }
  | .malformedTarget _ _ =>
      { counters with malformedTargets := saturatingAdd counters.malformedTargets 1 }
  | .rowsFiltered scanned matched =>
      { counters with
        batches := saturatingAdd counters.batches 1
        rowsScanned := saturatingAdd counters.rowsScanned scanned
        rowsMatched := saturatingAdd counters.rowsMatched matched }

/-- A report lists the totals by name. -/
instance : Json.Encodable Counters where
  encode counters :=
    Json.Encoding.object [
      ("shapes_by_column", Json.encode counters.shapesByColumn),
      ("shapes_by_operator", Json.encode counters.shapesByOperator),
      ("malformed_targets", Json.encode counters.malformedTargets),
      ("batches", Json.encode counters.batches),
      ("rows_scanned", Json.encode counters.rowsScanned),
      ("rows_matched", Json.encode counters.rowsMatched)]

end Counters

end ColumnFilter
