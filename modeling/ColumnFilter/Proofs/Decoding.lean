import ColumnFilter.Filter.Json

set_option autoImplicit false

/-!
# Decoders that answer

A decoder that goes through several steps answers if each step does. The lemmas here open
one step at a time.
-/

namespace ColumnFilter

/-- A computation that answers through a first step has an answer of that step. -/
theorem except_bind_eq_ok_iff {ε α β : Type} {first : Except ε α} {next : α → Except ε β}
    {result : β} :
    first >>= next = .ok result ↔ ∃ value, first = .ok value ∧ next value = .ok result := by
  cases first with
  | error error =>
      constructor
      · intro answered
        cases answered
      · rintro ⟨value, answered, _⟩
        cases answered
  | ok value =>
      constructor
      · intro answered
        exact ⟨value, rfl, answered⟩
      · rintro ⟨other, same, answered⟩
        cases same
        exact answered

theorem except_map_eq_ok_iff {ε α β : Type} {f : α → β} {computed : Except ε α} {result : β} :
    f <$> computed = .ok result ↔ ∃ value, computed = .ok value ∧ f value = result := by
  cases computed with
  | error error =>
      constructor
      · intro answered
        cases answered
      · rintro ⟨value, answered, _⟩
        cases answered
  | ok value =>
      constructor
      · intro answered
        exact ⟨value, rfl, Except.ok.inj answered⟩
      · rintro ⟨other, same, answered⟩
        cases same
        exact congrArg Except.ok answered

/-- A computation fails at its first step, or after an answer of it. -/
theorem except_bind_eq_error_iff {ε α β : Type} {first : Except ε α} {next : α → Except ε β}
    {error : ε} :
    first >>= next = .error error ↔
      first = .error error ∨ ∃ value, first = .ok value ∧ next value = .error error := by
  cases first with
  | error other =>
      constructor
      · intro failed
        cases failed
        exact .inl rfl
      · intro failed
        rcases failed with same | ⟨value, answered, _⟩
        · cases same
          rfl
        · cases answered
  | ok value =>
      constructor
      · intro failed
        exact .inr ⟨value, rfl, failed⟩
      · intro failed
        rcases failed with same | ⟨other, same, failed⟩
        · cases same
        · cases same
          exact failed

theorem except_map_eq_error_iff {ε α β : Type} {f : α → β} {computed : Except ε α} {error : ε} :
    f <$> computed = .error error ↔ computed = .error error := by
  cases computed with
  | error other => constructor <;> intro failed <;> cases failed <;> rfl
  | ok value => constructor <;> intro failed <;> cases failed

/-- A computation whose errors are known answers if there is none. -/
theorem except_exists_eq_ok_iff {ε α : Type} {computed : Except ε α} {failure? : Option ε}
    (failures : ∀ error, computed = .error error ↔ failure? = some error) :
    (∃ value, computed = .ok value) ↔ failure? = none := by
  cases computed with
  | error error =>
      have failed := (failures error).mp rfl
      rw [failed]
      constructor
      · intro answered
        obtain ⟨value, same⟩ := answered
        cases same
      · nofun
  | ok value =>
      constructor
      · intro _
        rw [Option.eq_none_iff_forall_ne_some]
        intro error failed
        cases (failures error).mpr failed
      · intro _
        exact ⟨value, rfl⟩

theorem except_toOption_eq_some_iff {ε α : Type} {answer : Except ε α} {a : α} :
    answer.toOption = some a ↔ answer = .ok a := by
  cases answer <;> simp [Except.toOption]

theorem except_mapError_eq_ok_iff {ε δ α : Type} {f : ε → δ} {computed : Except ε α} {result : α} :
    computed.mapError f = .ok result ↔ computed = .ok result := by
  cases computed with
  | error error => constructor <;> intro answered <;> cases answered
  | ok value =>
      constructor <;> intro answered <;> cases answered <;> rfl

theorem Operator.ofKey_eq_ok_iff {key : String} {op : Operator} :
    ofKey key = .ok op ↔ ofName? key = some op := by
  unfold ofKey
  cases named : ofName? key with
  | none => constructor <;> intro answered <;> cases answered
  | some other =>
      constructor
      · intro answered
        exact congrArg some (Except.ok.inj answered)
      · intro same
        exact congrArg Except.ok (Option.some.inj same)

end ColumnFilter
