set_option autoImplicit false

/-!
# Maps in key order

A `KeyMap` is a list of entries whose keys strictly increase, so equal maps are equal
lists. Inserting under a key that is present replaces its value.
-/

namespace ColumnFilter

/-- A finite map, kept as its entries in strictly increasing order of keys. -/
structure KeyMap (κ α : Type) [LT κ] where
  entries : List (κ × α)
  sorted : (entries.map Prod.fst).Pairwise (· < ·)

namespace KeyMap

variable {κ α : Type} [LT κ]

instance [DecidableEq κ] [DecidableEq α] : DecidableEq (KeyMap κ α) := fun m n =>
  if same : m.entries = n.entries then
    .isTrue (by cases m; cases n; cases same; rfl)
  else .isFalse fun equal => same (equal ▸ rfl)

def empty : KeyMap κ α := ⟨[], List.Pairwise.nil⟩

instance : Inhabited (KeyMap κ α) := ⟨empty⟩

def keys (m : KeyMap κ α) : List κ := m.entries.map Prod.fst

def size (m : KeyMap κ α) : Nat := m.entries.length

def isEmpty (m : KeyMap κ α) : Bool := m.entries.isEmpty

def get? [DecidableEq κ] (m : KeyMap κ α) (key : κ) : Option α := m.entries.lookup key

def map {β : Type} (f : α → β) (m : KeyMap κ α) : KeyMap κ β where
  entries := m.entries.map fun entry => (entry.1, f entry.2)
  sorted := by
    rw [List.map_map]
    exact m.sorted

variable [DecidableLT κ]

/-- Puts an entry in front of the first larger key. An entry with the same key gives way. -/
def insertEntry (key : κ) (value : α) : List (κ × α) → List (κ × α)
  | [] => [(key, value)]
  | entry :: rest =>
      if key < entry.1 then (key, value) :: entry :: rest
      else if entry.1 < key then entry :: insertEntry key value rest
      else (key, value) :: rest

theorem mem_keys_insertEntry {key other : κ} {value : α} {entries : List (κ × α)}
    (member : other ∈ (insertEntry key value entries).map Prod.fst) :
    other = key ∨ other ∈ entries.map Prod.fst := by
  induction entries with
  | nil => simpa [insertEntry] using member
  | cons entry rest ih =>
      simp only [insertEntry] at member
      split at member
      · simpa using member
      · split at member
        · simp only [List.map_cons, List.mem_cons] at member ⊢
          rcases member with here | later
          · exact .inr (.inl here)
          · exact (ih later).imp id .inr
        · simp only [List.map_cons, List.mem_cons] at member ⊢
          exact member.imp id .inr

variable [LE κ] [Std.IsLinearOrder κ] [Std.LawfulOrderLT κ]

theorem insertEntry_sorted {key : κ} {value : α} {entries : List (κ × α)}
    (sorted : (entries.map Prod.fst).Pairwise (· < ·)) :
    ((insertEntry key value entries).map Prod.fst).Pairwise (· < ·) := by
  induction entries with
  | nil => simp [insertEntry]
  | cons entry rest ih =>
      have parts := List.pairwise_cons.mp sorted
      simp only [insertEntry]
      split
      next before =>
        refine List.pairwise_cons.mpr ⟨fun other member => ?_, sorted⟩
        rcases List.mem_cons.mp member with rfl | later
        · exact before
        · exact Std.lt_trans before (parts.1 other later)
      next notBefore =>
        split
        next after =>
          refine List.pairwise_cons.mpr ⟨fun other member => ?_, ih parts.2⟩
          rcases mem_keys_insertEntry member with rfl | later
          · exact after
          · exact parts.1 other later
        next notAfter =>
          have same : key = entry.1 := by
            rcases Std.lt_trichotomy key entry.1 with lt | eq | gt
            · exact absurd lt notBefore
            · exact eq
            · exact absurd gt notAfter
          subst same
          exact sorted

/-- Adds an entry. A value already present under the key is replaced. -/
def insert (m : KeyMap κ α) (key : κ) (value : α) : KeyMap κ α :=
  ⟨insertEntry key value m.entries, insertEntry_sorted m.sorted⟩

/-- Collects entries. Of several with one key the last stays. -/
def ofList (entries : List (κ × α)) : KeyMap κ α :=
  entries.foldl (fun m entry => m.insert entry.1 entry.2) empty

end KeyMap

end ColumnFilter
