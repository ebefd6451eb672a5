import ColumnFilter.Filter.Basic
import Mathlib.Data.List.Forall2
import Mathlib.Data.List.Nodup

set_option autoImplicit false

/-!
# Laws of maps in key order

A map is its entries, and its entries inserted one after the other give it back. Insertion
behind all keys appends, whatever is inserted is found among the entries, and a map of
images has the keys it had before. A map is also what it holds under each key. Maps whose
entries correspond in order still do after insertions that correspond.
-/

namespace ColumnFilter

namespace KeyMap

section Entries

variable {κ α β : Type} [LT κ]

theorem eq_of_entries_eq {m n : KeyMap κ α} (same : m.entries = n.entries) : m = n := by
  cases m
  cases n
  cases same
  rfl

theorem isEmpty_iff_keys_eq_nil {m : KeyMap κ α} : m.isEmpty = true ↔ m.keys = [] := by
  rw [isEmpty, keys, List.isEmpty_iff, List.map_eq_nil_iff]

theorem keys_map (f : α → β) (m : KeyMap κ α) : (m.map f).keys = m.keys := by
  change (m.entries.map fun entry => (entry.1, f entry.2)).map Prod.fst = m.entries.map Prod.fst
  rw [List.map_map]
  rfl

theorem map_eq_self {f : α → α} {m : KeyMap κ α}
    (fixed : ∀ entry ∈ m.entries, f entry.2 = entry.2) : m.map f = m := by
  apply eq_of_entries_eq
  change (m.entries.map fun entry => (entry.1, f entry.2)) = m.entries
  have same : ∀ entry ∈ m.entries, (entry.1, f entry.2) = id entry := fun entry member => by
    rw [fixed entry member, id_eq]
  rw [List.map_congr_left same, List.map_id]

section Lookup

variable [DecidableEq κ]

omit [LT κ] in
theorem lookup_cons_eq_ite (entry : κ × α) (rest : List (κ × α)) (key : κ) :
    (entry :: rest).lookup key = if key = entry.1 then some entry.2 else rest.lookup key := by
  rw [List.lookup_cons]
  by_cases same : key = entry.1
  · simp [same]
  · simp [same, beq_false_of_ne same]

theorem mem_entries_of_get?_eq_some {m : KeyMap κ α} {key : κ} {value : α}
    (found : m.get? key = some value) : (key, value) ∈ m.entries := by
  obtain ⟨before, after, same, _⟩ := List.lookup_eq_some_iff.mp found
  rw [same]
  exact List.mem_append_right before List.mem_cons_self

theorem get?_map (f : α → β) (m : KeyMap κ α) (key : κ) :
    (m.map f).get? key = (m.get? key).map f := by
  change (m.entries.map fun entry => (entry.1, f entry.2)).lookup key =
    (m.entries.lookup key).map f
  induction m.entries with
  | nil => rfl
  | cons entry rest ih =>
      rw [List.map_cons, List.lookup_cons, List.lookup_cons, ih]
      cases key == entry.1 <;> rfl

end Lookup

end Entries

section Insertion

variable {κ α : Type} [LT κ] [DecidableLT κ]

theorem mem_insertEntry {key : κ} {value : α} {entries : List (κ × α)} {entry : κ × α}
    (member : entry ∈ insertEntry key value entries) :
    entry = (key, value) ∨ entry ∈ entries := by
  induction entries with
  | nil => exact .inl (List.mem_singleton.mp member)
  | cons head rest ih =>
      simp only [insertEntry] at member
      split at member
      · exact List.mem_cons.mp member
      · split at member
        · rcases List.mem_cons.mp member with here | later
          · exact .inr (here ▸ List.mem_cons_self)
          · exact (ih later).imp id (List.mem_cons_of_mem head)
        · exact (List.mem_cons.mp member).imp id (List.mem_cons_of_mem head)

theorem mem_insertEntry_self (key : κ) (value : α) (entries : List (κ × α)) :
    (key, value) ∈ insertEntry key value entries := by
  induction entries with
  | nil => exact List.mem_singleton.mpr rfl
  | cons head rest ih =>
      simp only [insertEntry]
      split
      · exact List.mem_cons_self
      · split
        · exact List.mem_cons_of_mem head ih
        · exact List.mem_cons_self

variable [LE κ] [Std.IsLinearOrder κ] [Std.LawfulOrderLT κ]

theorem mem_insertEntry_of_ne {key : κ} {value : α} {entries : List (κ × α)} {entry : κ × α}
    (other : entry.1 ≠ key) (member : entry ∈ entries) :
    entry ∈ insertEntry key value entries := by
  induction entries with
  | nil => cases member
  | cons head rest ih =>
      simp only [insertEntry]
      split
      · exact List.mem_cons_of_mem _ member
      next notBefore =>
        split
        · rcases List.mem_cons.mp member with rfl | later
          · exact List.mem_cons_self
          · exact List.mem_cons_of_mem head (ih later)
        next notAfter =>
          rcases List.mem_cons.mp member with rfl | later
          · exact absurd (Std.le_antisymm (Std.not_lt.mp notBefore) (Std.not_lt.mp notAfter)) other
          · exact List.mem_cons_of_mem _ later

theorem lookup_insertEntry [DecidableEq κ] (key other : κ) (value : α)
    (entries : List (κ × α)) :
    (insertEntry key value entries).lookup other =
      if other = key then some value else entries.lookup other := by
  induction entries with
  | nil => exact lookup_cons_eq_ite (key, value) [] other
  | cons head rest ih =>
      simp only [insertEntry]
      split
      · exact lookup_cons_eq_ite (key, value) (head :: rest) other
      next notBefore =>
        split
        next after =>
          have apart : key ≠ head.1 := fun same => Std.lt_irrefl (same ▸ after)
          rw [lookup_cons_eq_ite, lookup_cons_eq_ite, ih]
          by_cases found : other = key
          · simp [found, apart]
          · simp [found]
        next notAfter =>
          have same := Std.le_antisymm (Std.not_lt.mp notBefore) (Std.not_lt.mp notAfter)
          rw [lookup_cons_eq_ite, lookup_cons_eq_ite, same]
          by_cases found : other = key <;> simp [found]

theorem get?_insert [DecidableEq κ] (m : KeyMap κ α) (key other : κ) (value : α) :
    (m.insert key value).get? other = if other = key then some value else m.get? other :=
  lookup_insertEntry key other value m.entries

/-- An entry under a new key that contributes nothing changes no contribution. -/
theorem flatMap_insertEntry_of_eq_nil {β : Type} {parts : κ × α → List β} {key : κ} {value : α}
    {entries : List (κ × α)} (absent : ∀ entry ∈ entries, entry.1 ≠ key)
    (nothing : parts (key, value) = []) :
    (insertEntry key value entries).flatMap parts = entries.flatMap parts := by
  induction entries with
  | nil => rw [insertEntry, List.flatMap_singleton, nothing, List.flatMap_nil]
  | cons head rest ih =>
      have later := ih fun entry member => absent entry (List.mem_cons_of_mem _ member)
      simp only [insertEntry]
      split
      · rw [List.flatMap_cons, nothing, List.nil_append]
      next notBefore =>
        split
        · rw [List.flatMap_cons, List.flatMap_cons, later]
        next notAfter =>
          have same := Std.le_antisymm (Std.not_lt.mp notBefore) (Std.not_lt.mp notAfter)
          exact absurd same (absent head List.mem_cons_self)

theorem insertEntry_of_forall_lt {key : κ} {value : α} {entries : List (κ × α)}
    (behind : ∀ entry ∈ entries, entry.1 < key) :
    insertEntry key value entries = entries ++ [(key, value)] := by
  induction entries with
  | nil => rfl
  | cons entry rest ih =>
      have before : entry.1 < key := behind entry List.mem_cons_self
      have notAfter : ¬ key < entry.1 := fun after => Std.lt_irrefl (Std.lt_trans before after)
      have later := ih fun other member => behind other (List.mem_cons_of_mem _ member)
      rw [insertEntry, if_neg notAfter, if_pos before, later, List.cons_append]

theorem entries_foldl_insert {m : KeyMap κ α} {entries : List (κ × α)}
    (sorted : ((m.entries ++ entries).map Prod.fst).Pairwise (· < ·)) :
    (entries.foldl (fun before entry => before.insert entry.1 entry.2) m).entries =
      m.entries ++ entries := by
  induction entries generalizing m with
  | nil => exact (List.append_nil m.entries).symm
  | cons entry rest ih =>
      have behind : ∀ other ∈ m.entries, other.1 < entry.1 := by
        intro other member
        rw [List.map_append, List.pairwise_append] at sorted
        exact sorted.2.2 other.1 (List.mem_map_of_mem member) entry.1 List.mem_cons_self
      have inserted : (m.insert entry.1 entry.2).entries = m.entries ++ [entry] :=
        insertEntry_of_forall_lt behind
      have regrouped : m.entries ++ entry :: rest = (m.insert entry.1 entry.2).entries ++ rest := by
        rw [inserted, List.append_assoc, List.singleton_append]
      rw [List.foldl_cons, regrouped]
      exact ih (regrouped ▸ sorted)

theorem ofList_entries (m : KeyMap κ α) : ofList m.entries = m := by
  apply eq_of_entries_eq
  exact entries_foldl_insert (m := empty) m.sorted

theorem mem_foldl_insert_of_mem {entries : List (κ × α)} {entry : κ × α}
    (apart : entry.1 ∉ entries.map Prod.fst) {m : KeyMap κ α} (member : entry ∈ m.entries) :
    entry ∈ (entries.foldl (fun before entry => before.insert entry.1 entry.2) m).entries := by
  induction entries generalizing m with
  | nil => exact member
  | cons head rest ih =>
      rw [List.map_cons, List.mem_cons, not_or] at apart
      exact ih apart.2 (mem_insertEntry_of_ne apart.1 member)

/-- Of entries that are collected under distinct keys none is lost. -/
theorem mem_foldl_insert_of_nodup {entries : List (κ × α)}
    (distinct : (entries.map Prod.fst).Nodup) {entry : κ × α} (member : entry ∈ entries)
    (m : KeyMap κ α) :
    entry ∈ (entries.foldl (fun before entry => before.insert entry.1 entry.2) m).entries := by
  induction entries generalizing m with
  | nil => cases member
  | cons head rest ih =>
      rw [List.map_cons, List.nodup_cons] at distinct
      rcases List.mem_cons.mp member with rfl | later
      · exact mem_foldl_insert_of_mem distinct.1 (mem_insertEntry_self entry.1 entry.2 m.entries)
      · exact ih distinct.2 later _

/-- The images of the values, inserted one after the other. -/
theorem foldl_insert_image {β : Type} (f : α → β) (m : KeyMap κ α) :
    m.entries.foldl (fun before entry => before.insert entry.1 (f entry.2)) empty = m.map f := by
  have collected := ofList_entries (m.map f)
  have images : (m.map f).entries = m.entries.map fun entry => (entry.1, f entry.2) := rfl
  rw [ofList, images, List.foldl_map] at collected
  exact collected

end Insertion

section Contents

variable {κ α : Type} [LT κ]

theorem entries_sorted (m : KeyMap κ α) :
    m.entries.Pairwise fun entry other => entry.1 < other.1 :=
  List.pairwise_map.mp m.sorted

variable [LE κ] [Std.LawfulOrderLT κ]

theorem keys_nodup (m : KeyMap κ α) : m.keys.Nodup := by
  apply m.sorted.imp
  intro key other before same
  exact Std.lt_irrefl (same ▸ before)

theorem entries_nodup (m : KeyMap κ α) : m.entries.Nodup := List.Nodup.of_map Prod.fst m.keys_nodup

variable [DecidableEq κ]

theorem lookup_eq_some_of_mem {entries : List (κ × α)}
    (sorted : (entries.map Prod.fst).Pairwise (· < ·)) {key : κ} {value : α}
    (member : (key, value) ∈ entries) : entries.lookup key = some value := by
  induction entries with
  | nil => cases member
  | cons entry rest ih =>
      have parts := List.pairwise_cons.mp sorted
      rw [lookup_cons_eq_ite]
      rcases List.mem_cons.mp member with here | later
      · cases here
        exact if_pos rfl
      · have behind : entry.1 < key := parts.1 key (List.mem_map_of_mem later)
        have other : key ≠ entry.1 := fun same => Std.lt_irrefl (same ▸ behind)
        rw [if_neg other]
        exact ih parts.2 later

theorem get?_eq_some_iff {m : KeyMap κ α} {key : κ} {value : α} :
    m.get? key = some value ↔ (key, value) ∈ m.entries :=
  ⟨mem_entries_of_get?_eq_some, lookup_eq_some_of_mem m.sorted⟩

/-- Maps with the same values under the same keys are equal. -/
theorem eq_of_get?_eq [Std.IsLinearOrder κ] {m n : KeyMap κ α}
    (same : ∀ key, m.get? key = n.get? key) : m = n := by
  apply eq_of_entries_eq
  have sameEntries : ∀ entry, entry ∈ m.entries ↔ entry ∈ n.entries := by
    intro entry
    rw [← get?_eq_some_iff, ← get?_eq_some_iff, same]
  have permuted := (List.perm_ext_iff_of_nodup m.entries_nodup n.entries_nodup).mpr sameEntries
  refine permuted.eq_of_pairwise ?_ m.entries_sorted n.entries_sorted
  intro entry other _ _ before after
  exact absurd (Std.lt_trans before after) Std.lt_irrefl

end Contents

section Images

variable {κ α μ β : Type}
variable [LT κ] [DecidableLT κ] [LT μ] [DecidableLT μ] {Image : κ × α → μ × β → Prop}

/-- Entries that correspond one by one still do after the insertion of two that correspond,
as long as the keys of what corresponds are in the same order. -/
theorem forall₂_insertEntry
    (inOrder : ∀ {a b c d}, Image a b → Image c d → (a.1 < c.1 ↔ b.1 < d.1))
    {entry : κ × α} {image : μ × β} (new : Image entry image)
    {entries : List (κ × α)} {images : List (μ × β)} (old : List.Forall₂ Image entries images) :
    List.Forall₂ Image (insertEntry entry.1 entry.2 entries)
      (insertEntry image.1 image.2 images) := by
  induction old with
  | nil => exact .cons new .nil
  | cons first others ih =>
      simp only [insertEntry, inOrder new first, inOrder first new]
      split
      · exact .cons new (.cons first others)
      · split
        · exact .cons first ih
        · exact .cons new others

variable [LE κ] [Std.IsLinearOrder κ] [Std.LawfulOrderLT κ]
variable [LE μ] [Std.IsLinearOrder μ] [Std.LawfulOrderLT μ]

theorem forall₂_foldl_insert
    (inOrder : ∀ {a b c d}, Image a b → Image c d → (a.1 < c.1 ↔ b.1 < d.1))
    {entries : List (κ × α)} {images : List (μ × β)} (all : List.Forall₂ Image entries images)
    {m : KeyMap κ α} {n : KeyMap μ β} (before : List.Forall₂ Image m.entries n.entries) :
    List.Forall₂ Image
      (entries.foldl (fun before entry => before.insert entry.1 entry.2) m).entries
      (images.foldl (fun before entry => before.insert entry.1 entry.2) n).entries := by
  induction all generalizing m n with
  | nil => exact before
  | cons first _ ih => exact ih (forall₂_insertEntry inOrder first before)

end Images

end KeyMap

theorem Predicate.eq_of_entries_eq {p q : Predicate} (same : p.entries = q.entries) : p = q :=
  congrArg Predicate.mk (KeyMap.eq_of_entries_eq same)

theorem Filter.eq_of_entries_eq {f g : Filter} (same : f.entries = g.entries) : f = g :=
  congrArg Filter.mk (KeyMap.eq_of_entries_eq same)

end ColumnFilter
