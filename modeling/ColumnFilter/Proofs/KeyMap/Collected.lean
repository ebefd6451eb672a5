import ColumnFilter.Proofs.KeyMap

set_option autoImplicit false

/-!
# Maps collected from entries

A collected map holds under each key the last value given for it, so nothing else about the
entries matters. It can be built by insertion, one entry after the other, and as well by
sorting: the entries of one key then stand together in the order given, and the last of them
stays.
-/

namespace ColumnFilter

namespace KeyMap

section Last

variable {κ α : Type} [DecidableEq κ]

/-- The value of the last entry with a key. -/
def last? (entries : List (κ × α)) (key : κ) : Option α :=
  (entries.filter fun entry => entry.1 = key).getLast?.map Prod.snd

theorem last?_cons (entry : κ × α) (rest : List (κ × α)) (key : κ) :
    last? (entry :: rest) key =
      (last? rest key).or (if key = entry.1 then some entry.2 else none) := by
  by_cases same : key = entry.1
  · subst same
    rw [last?, List.filter_cons_of_pos (by simp), List.getLast?_cons, if_pos rfl]
    cases found : (rest.filter fun other => other.1 = entry.1).getLast? <;> simp [last?, found]
  · rw [last?, List.filter_cons_of_neg (by simpa using Ne.symm same), if_neg same, Option.or_none]
    rfl

theorem mem_of_last?_eq_some {entries : List (κ × α)} {key : κ} {value : α}
    (last : last? entries key = some value) : (key, value) ∈ entries := by
  obtain ⟨entry, found, same⟩ := Option.map_eq_some_iff.mp last
  have member := List.mem_filter.mp (List.mem_of_getLast? found)
  have named : entry.1 = key := by simpa using member.2
  rw [← named, ← same]
  exact member.1

variable [LT κ] [DecidableLT κ] [LE κ] [Std.IsLinearOrder κ] [Std.LawfulOrderLT κ]

theorem get?_foldl_insert (entries : List (κ × α)) (m : KeyMap κ α) (key : κ) :
    (entries.foldl (fun before entry => before.insert entry.1 entry.2) m).get? key =
      (last? entries key).or (m.get? key) := by
  induction entries generalizing m with
  | nil => rfl
  | cons entry rest ih =>
      rw [List.foldl_cons, ih, get?_insert, last?_cons, Option.or_assoc]
      split <;> rfl

/-- What is collected under a key is the last value given for it. -/
theorem get?_ofList (entries : List (κ × α)) (key : κ) :
    (ofList entries).get? key = last? entries key :=
  (get?_foldl_insert entries empty key).trans Option.or_none

theorem ofList_eq_ofList_iff {entries others : List (κ × α)} :
    ofList entries = ofList others ↔ ∀ key, last? entries key = last? others key := by
  constructor
  · intro same key
    rw [← get?_ofList, ← get?_ofList, same]
  · intro same
    apply eq_of_get?_eq
    intro key
    rw [get?_ofList, get?_ofList, same]

end Last

section Sorting

variable {κ α : Type}

section Order

variable [LE κ] [DecidableLE κ]

def byKey (entry other : κ × α) : Bool := entry.1 ≤ other.1

theorem byKey_total [Std.IsLinearOrder κ] (entry other : κ × α) :
    byKey entry other || byKey other entry := by
  simpa [byKey] using Std.le_total

theorem byKey_trans [Std.IsLinearOrder κ] (a b c : κ × α) (first : byKey a b) (second : byKey b c) :
    byKey a c := by
  simp only [byKey, decide_eq_true_eq] at first second ⊢
  exact Std.le_trans first second

/-- Sorting by key moves entries only past those of other keys. -/
theorem filter_mergeSort [DecidableEq κ] [Std.IsLinearOrder κ] (entries : List (κ × α)) (key : κ) :
    ((entries.mergeSort byKey).filter fun entry => entry.1 = key) =
      entries.filter fun entry => entry.1 = key := by
  have alike : (entries.filter fun entry => entry.1 = key).Pairwise fun a b => byKey a b := by
    apply List.pairwise_of_forall_mem_list
    intro a inA b inB
    have keyA : a.1 = key := by simpa using (List.mem_filter.mp inA).2
    have keyB : b.1 = key := by simpa using (List.mem_filter.mp inB).2
    simp [byKey, keyA, keyB, Std.le_refl]
  -- Stability gives one inclusion; as nothing is lost by sorting, it is an equation.
  have kept := (List.sublist_mergeSort byKey_trans byKey_total alike List.filter_sublist).filter
    fun entry => entry.1 = key
  simp only [List.filter_filter, Bool.and_self] at kept
  have counted := ((List.mergeSort_perm entries byKey).filter fun entry => entry.1 = key).length_eq
  exact (kept.eq_of_length counted.symm).symm

variable [LT κ] [Std.IsLinearOrder κ] [Std.LawfulOrderLT κ]

theorem lt_of_run_ended {entry next : κ × α} {rest : List (κ × α)}
    (sorted : (entry :: next :: rest).Pairwise fun a b => byKey a b) (ended : entry.1 ≠ next.1) :
    ∀ later ∈ next :: rest, entry.1 < later.1 := by
  obtain ⟨first, others⟩ := List.pairwise_cons.mp sorted
  have step : entry.1 ≤ next.1 := by simpa [byKey] using first next List.mem_cons_self
  have before : entry.1 < next.1 := Std.lt_of_le_of_ne step ended
  intro later member
  rcases List.mem_cons.mp member with here | behind
  · rw [here]
    exact before
  · have onwards : next.1 ≤ later.1 := by
      simpa [byKey] using (List.pairwise_cons.mp others).1 later behind
    exact Std.lt_of_lt_of_le before onwards

end Order

variable [DecidableEq κ]

/-- Of neighbours with one key the last. -/
def lastOfRuns : List (κ × α) → List (κ × α)
  | [] => []
  | [entry] => [entry]
  | entry :: next :: rest =>
      if entry.1 = next.1 then lastOfRuns (next :: rest) else entry :: lastOfRuns (next :: rest)

theorem lastOfRuns_sublist (entries : List (κ × α)) : (lastOfRuns entries).Sublist entries := by
  fun_induction lastOfRuns entries with
  | case1 => exact .slnil
  | case2 entry => exact List.Sublist.refl _
  | case3 entry next rest same ih => exact ih.cons entry
  | case4 entry next rest apart ih => exact ih.cons_cons entry

variable [LT κ] [LE κ] [DecidableLE κ] [Std.IsLinearOrder κ] [Std.LawfulOrderLT κ]

theorem lastOfRuns_sorted {entries : List (κ × α)}
    (sorted : entries.Pairwise fun a b => byKey a b) :
    ((lastOfRuns entries).map Prod.fst).Pairwise (· < ·) := by
  rw [List.pairwise_map]
  fun_induction lastOfRuns entries with
  | case1 => exact .nil
  | case2 entry => exact List.pairwise_singleton _ _
  | case3 entry next rest same ih => exact ih (List.pairwise_cons.mp sorted).2
  | case4 entry next rest ended ih =>
      refine List.pairwise_cons.mpr ⟨?_, ih (List.pairwise_cons.mp sorted).2⟩
      intro later member
      exact lt_of_run_ended sorted ended later ((lastOfRuns_sublist _).subset member)

theorem lookup_lastOfRuns {entries : List (κ × α)}
    (sorted : entries.Pairwise fun a b => byKey a b) (key : κ) :
    (lastOfRuns entries).lookup key = last? entries key := by
  fun_induction lastOfRuns entries with
  | case1 => rfl
  | case2 entry =>
      rw [lookup_cons_eq_ite, last?_cons]
      rfl
  | case3 entry next rest same ih =>
      rw [ih (List.pairwise_cons.mp sorted).2, last?_cons entry, last?_cons next, same]
      split <;> simp
  | case4 entry next rest ended ih =>
      rw [lookup_cons_eq_ite, ih (List.pairwise_cons.mp sorted).2, last?_cons entry]
      split
      next here =>
        have absent : last? (next :: rest) key = none := by
          rw [Option.eq_none_iff_forall_ne_some]
          intro value last
          have behind := lt_of_run_ended sorted ended _ (mem_of_last?_eq_some last)
          exact Std.lt_irrefl (here ▸ behind)
        rw [absent, Option.none_or]
      · exact Option.or_none.symm

variable [DecidableLT κ]

/-- The entries sorted by key, those of one key in the order given, and of each key the last. -/
def collect (entries : List (κ × α)) : List (κ × α) := lastOfRuns (entries.mergeSort byKey)

theorem entries_ofList (entries : List (κ × α)) : (ofList entries).entries = collect entries := by
  have sorted := List.pairwise_mergeSort byKey_trans byKey_total entries
  let collected : KeyMap κ α := ⟨collect entries, lastOfRuns_sorted sorted⟩
  have same : ofList entries = collected := by
    apply eq_of_get?_eq
    intro key
    have found : collected.get? key = last? (entries.mergeSort byKey) key :=
      lookup_lastOfRuns sorted key
    rw [get?_ofList, found, last?, last?, filter_mergeSort]
  exact congrArg KeyMap.entries same

end Sorting

end KeyMap

end ColumnFilter
