import Mathlib.Data.Fintype.Card
import Mathlib.Data.List.Nodup
import Mathlib.Logic.Function.Basic

/-!
# Lists with an index

A registry that appends entries with distinct keys keeps an index from each key
to the position of its entry.  Positions are stored in some type of identifiers,
through an embedding that need not be injective.  When there are finitely many
keys, there are at most as many entries.
-/

namespace UniqueIndex

variable {Entry Key Id : Type*}

/-- The index of a list of entries with distinct keys. -/
structure Indexed (embed : ℕ → Id) (key : Entry → Key) (entries : List Entry)
    (index : Key → Option Id) : Prop where
  nodup : (entries.map key).Nodup
  found : ∀ position entry, entries[position]? = some entry →
    index (key entry) = some (embed position)
  complete : ∀ wanted id, index wanted = some id →
    ∃ position entry, entries[position]? = some entry ∧ key entry = wanted ∧
      embed position = id

variable {embed : ℕ → Id} {key : Entry → Key} {entries : List Entry}
  {index : Key → Option Id}

/-- The entries of an extended list are the old ones and the new one. -/
theorem getElem?_append_singleton {position : ℕ} {entry latest : Entry} :
    (entries ++ [latest])[position]? = some entry ↔
      entries[position]? = some entry ∨ (position = entries.length ∧ latest = entry) := by
  rcases lt_trichotomy position entries.length with before | rfl | after
  · have unequal : position ≠ entries.length := Nat.ne_of_lt before
    rw [List.getElem?_append_left before]
    simp [unequal]
  · simp
  · have unequal : position ≠ entries.length := Nat.ne_of_gt after
    have outside : entries.length ≤ position := Nat.le_of_lt after
    have beyond : (entries ++ [latest]).length ≤ position := by
      rw [List.length_append, List.length_singleton]
      omega
    simp [List.getElem?_eq_none outside, List.getElem?_eq_none beyond, unequal]

theorem Indexed.empty : Indexed embed key [] (fun _ => (none : Option Id)) where
  nodup := List.nodup_nil
  found := by simp
  complete := by simp

theorem Indexed.not_mem (indexed : Indexed embed key entries index) {wanted : Key}
    (free : index wanted = none) : wanted ∉ entries.map key := by
  intro member
  obtain ⟨entry, memberEntry, rfl⟩ := List.mem_map.mp member
  obtain ⟨position, isEntry⟩ := List.mem_iff_getElem?.mp memberEntry
  rw [indexed.found position entry isEntry] at free
  cases free

theorem Indexed.append [DecidableEq Key] (indexed : Indexed embed key entries index)
    {latest : Entry} (free : index (key latest) = none) :
    Indexed embed key (entries ++ [latest])
      (Function.update index (key latest) (some (embed entries.length))) where
  nodup := by
    rw [List.map_append, List.nodup_append]
    refine ⟨indexed.nodup, List.nodup_singleton _, ?_⟩
    rintro first member second isLatest rfl
    rw [List.map_singleton, List.mem_singleton] at isLatest
    exact indexed.not_mem free (isLatest ▸ member)
  found := by
    intro position entry isEntry
    rcases getElem?_append_singleton.mp isEntry with old | ⟨rfl, rfl⟩
    · have different : key entry ≠ key latest := by
        intro same
        apply indexed.not_mem free
        rw [← same]
        exact List.mem_map_of_mem (List.mem_of_getElem? old)
      rw [Function.update_of_ne different]
      exact indexed.found position entry old
    · exact Function.update_self ..
  complete := by
    intro wanted id isId
    rcases eq_or_ne wanted (key latest) with rfl | different
    · rw [Function.update_self] at isId
      exact ⟨entries.length, latest, getElem?_append_singleton.mpr (Or.inr ⟨rfl, rfl⟩), rfl,
        Option.some.inj isId⟩
    · rw [Function.update_of_ne different] at isId
      obtain ⟨position, entry, isEntry, isKey, isId⟩ := indexed.complete wanted id isId
      exact ⟨position, entry, getElem?_append_singleton.mpr (Or.inl isEntry), isKey, isId⟩

theorem Indexed.length_le_card [Fintype Key] (indexed : Indexed embed key entries index) :
    entries.length ≤ Fintype.card Key := by
  have bounded := indexed.nodup.length_le_card
  rwa [List.length_map] at bounded

end UniqueIndex
