import ColumnFilter.Proofs.Counters
import ColumnFilter.Proofs.Trace

set_option autoImplicit false

/-!
# Batches of rows

A batch keeps the rows that its program matches, in order, whether they are counted on the
way or afterwards. It reports what the rows report, one after the other, and last how many
there were and how many are left.
-/

namespace ColumnFilter

namespace Traced

variable {α : Type}

theorem filterAuxM_eq (check : α → Traced Bool) (entries kept : List α) :
    entries.filterAuxM check kept =
      ⟨(entries.filter fun entry => (check entry).value).reverse ++ kept,
        entries.flatMap fun entry => (check entry).events⟩ := by
  induction entries generalizing kept with
  | nil => rfl
  | cons entry rest ih =>
      simp only [List.filterAuxM, ih]
      cases passed : (check entry).value <;> simp [bind, passed]

theorem filterM_eq (check : α → Traced Bool) (entries : List α) :
    entries.filterM check =
      ⟨entries.filter fun entry => (check entry).value,
        entries.flatMap fun entry => (check entry).events⟩ := by
  rw [List.filterM, filterAuxM_eq]
  simp [bind, pure]

/-- The events of a loop that may stop early are all events of its parts. -/
theorem mem_events_allM {check : α → Traced Bool} {entries : List α} {event : Event}
    (reported : event ∈ (entries.allM check).events) :
    ∃ entry ∈ entries, event ∈ (check entry).events := by
  induction entries with
  | nil => cases reported
  | cons entry rest ih =>
      rw [List.allM_cons] at reported
      rcases List.mem_append.mp reported with here | later
      · exact ⟨entry, List.mem_cons_self, here⟩
      · cases passed : (check entry).value with
        | false =>
            simp only [passed] at later
            cases later
        | true =>
            simp only [passed] at later
            obtain ⟨other, member, reported⟩ := ih later
            exact ⟨other, List.mem_cons_of_mem _ member, reported⟩

end Traced

namespace Program

variable {ρ : Type} [Row ρ]

/-- The rows that a program matches. -/
def matching (program : Program) (rows : List ρ) : List ρ :=
  rows.filter fun row => (program.eval row).value

/-- What the rows of a batch report, one after the other. -/
def rowEvents (program : Program) (rows : List ρ) : List Event :=
  rows.flatMap fun row => (program.eval row).events

theorem length_matching_le (program : Program) (rows : List ρ) :
    (program.matching rows).length ≤ rows.length :=
  List.length_filter_le _ rows

theorem scanRows_eq (program : Program) (rows : List ρ) (scanned : Nat) :
    program.scanRows rows scanned =
      ⟨(program.matching rows, scanned + rows.length), program.rowEvents rows⟩ := by
  induction rows generalizing scanned with
  | nil => rfl
  | cons row rest ih =>
      rw [scanRows, ih]
      cases passed : (program.eval row).value <;>
        simp [bind, pure, passed, matching, rowEvents, Nat.add_comm, Nat.add_left_comm]

/-- The event that ends a batch. -/
def batchEvent (program : Program) (rows : List ρ) : Event :=
  .rowsFiltered (saturate rows.length) (saturate (program.matching rows).length)

theorem filterRows_eq (program : Program) (rows : List ρ) :
    program.filterRows rows =
      ⟨program.matching rows, program.rowEvents rows ++ [program.batchEvent rows]⟩ := by
  rw [filterRows, scanRows_eq]
  simp [bind, pure, reportBatch, Traced.report, batchEvent]

theorem retain_eq (program : Program) (rows : List ρ) :
    program.retain rows =
      ⟨program.matching rows, program.rowEvents rows ++ [program.batchEvent rows]⟩ := by
  rw [retain, Traced.filterM_eq]
  simp [bind, pure, reportBatch, Traced.report, batchEvent, matching, rowEvents]

theorem matching_comm (program other : Program) (rows : List ρ) :
    other.matching (program.matching rows) = program.matching (other.matching rows) := by
  simp [matching, List.filter_filter, Bool.and_comm]

/-! ## Batches of compiled programs -/

theorem matching_compile (f : Filter) (policy : MissingPolicy) (rows : List ρ) :
    ((compile f).withPolicy policy).matching rows =
      rows.filter fun row => (f.matchesRow policy row).value := by
  simp only [matching, eval_compile]

theorem rowEvents_compile (f : Filter) (policy : MissingPolicy) (rows : List ρ) :
    ((compile f).withPolicy policy).rowEvents rows =
      rows.flatMap fun row => (f.matchesRow policy row).events := by
  simp only [rowEvents, eval_compile]

/-- Rows that are kept report nothing, so a second batch has nothing to report of them. -/
theorem rowEvents_matching (f : Filter) (policy : MissingPolicy) (rows : List ρ) :
    ((compile f).withPolicy policy).rowEvents (((compile f).withPolicy policy).matching rows) =
      [] := by
  rw [matching_compile, rowEvents_compile, List.flatMap_eq_nil_iff]
  intro row kept
  exact Filter.events_matchesRow_of_value (List.mem_filter.mp kept).2

theorem matching_matching (program : Program) (rows : List ρ) :
    program.matching (program.matching rows) = program.matching rows := by
  simp [matching]

/-- A row is kept or reports at most one event. -/
theorem length_rowEvents_add_length_matching_le (f : Filter) (policy : MissingPolicy)
    (rows : List ρ) :
    (((compile f).withPolicy policy).rowEvents rows).length +
      (((compile f).withPolicy policy).matching rows).length ≤ rows.length := by
  rw [matching_compile, rowEvents_compile]
  induction rows with
  | nil => exact Nat.le_refl 0
  | cons row rest ih =>
      have atMostOne := Filter.length_events_matchesRow_le f policy row
      simp only [List.flatMap_cons, List.length_append, List.filter_cons, List.length_cons]
      cases matched : (f.matchesRow policy row).value with
      | true =>
          have silent := Filter.events_matchesRow_of_value matched
          simp only [silent, List.length_nil, ↓reduceIte, List.length_cons]
          omega
      | false =>
          simp only [Bool.false_eq_true, ↓reduceIte]
          omega

/-- Counting on the way and counting afterwards make the same batch: it keeps the rows that the
filter matches, in order, and reports what they report one after the other, and last how many
rows there were and how many are left. There are at most as many malformed targets as rows that
were dropped. A second batch changes nothing and reports nothing but its end, and batches of
two programs keep the same rows in either order. -/
theorem batches_agree (f : Filter) (policy : MissingPolicy) (rows : List ρ) :
    let program := (compile f).withPolicy policy
    let kept := rows.filter fun row => (f.matchesRow policy row).value
    let malformed := rows.flatMap fun row => (f.matchesRow policy row).events
    (∃ scanned matched : UInt64,
      program.filterRows rows = ⟨kept, malformed ++ [.rowsFiltered scanned matched]⟩ ∧
      program.retain rows = ⟨kept, malformed ++ [.rowsFiltered scanned matched]⟩ ∧
      scanned.toNat = min rows.length 0xffffffffffffffff ∧
      matched.toNat = min kept.length 0xffffffffffffffff ∧
      program.retain kept = ⟨kept, [.rowsFiltered matched matched]⟩) ∧
    (∀ event ∈ malformed, ∃ found, event = .malformedTarget .oneOf found) ∧
    malformed.length ≤ rows.length - kept.length ∧
    ∀ other : Program, (other.retain (program.retain rows).value).value =
      (program.retain (other.retain rows).value).value := by
  intro program kept malformed
  have sameRows : program.matching rows = kept := matching_compile f policy rows
  have sameEvents : program.rowEvents rows = malformed := rowEvents_compile f policy rows
  refine ⟨⟨saturate rows.length, saturate kept.length, ?_, ?_, ?_, ?_, ?_⟩, ?_, ?_, ?_⟩
  · rw [filterRows_eq, batchEvent, sameRows, sameEvents]
  · rw [retain_eq, batchEvent, sameRows, sameEvents]
  · exact toNat_saturate rows.length
  · exact toNat_saturate kept.length
  · have again : program.matching kept = kept := by
      rw [← sameRows, matching_matching]
    have silent : program.rowEvents kept = [] := by
      rw [← sameRows]
      exact rowEvents_matching f policy rows
    rw [retain_eq, batchEvent, again, silent, List.nil_append]
  · intro event member
    obtain ⟨row, _, reported⟩ := List.mem_flatMap.mp member
    exact Filter.eq_malformedTarget_of_mem_events reported
  · have bound := length_rowEvents_add_length_matching_le f policy rows
    change (program.rowEvents rows).length + (program.matching rows).length ≤ _ at bound
    rw [sameRows, sameEvents] at bound
    omega
  · intro other
    rw [retain_eq, retain_eq, retain_eq, retain_eq]
    exact matching_comm program other rows

theorem batches_agree_malformed_target :
    ∃ (f : Filter) (row other : KeyMap String Value) (event : Event),
      event ∈ ([row, other, row].flatMap fun row => (f.matchesRow .noMatch row).events) ∧
      (∃ found, event = .malformedTarget .oneOf found) ∧
      ((compile f).withPolicy .noMatch).filterRows [row, other, row] =
        ((compile f).withPolicy .noMatch).retain [row, other, row] := by
  let f : Filter := .ofList [("size", .equals (Value.int 1)),
    ("title", .single .oneOf (.text "x"))]
  let row : KeyMap String Value := .ofList [("size", .int 1), ("title", .text "x")]
  let other : KeyMap String Value := .ofList [("size", .int 2), ("title", .text "x")]
  have member : .malformedTarget .oneOf .text ∈
      ([row, other, row].flatMap fun row => (f.matchesRow .noMatch row).events) := by decide
  obtain ⟨⟨_, _, filtered, retained, _⟩, only, _⟩ := batches_agree f .noMatch [row, other, row]
  exact ⟨f, row, other, _, member, only _ member, filtered.trans retained.symm⟩

end Program

end ColumnFilter
