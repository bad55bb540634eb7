/-!
# Dictionaries

Finite maps as lists of pairs, newest first, with at most one pair for each key as
long as they are built by `insert`. They are small here: names of handlers, links
of a chain, slots of a context.

## Main definitions

* `Dict`: Pairs of keys and values.
* `Dict.find?`, `Dict.insert`, `Dict.erase`, `Dict.modify`: The usual operations.

## Theorems

* `find?_nil`: Nothing is found in an empty map.
* `find?_insert`, `find?_erase`, `find?_modify`: What can be found afterwards.
* `erase_eq_filter`, `erase_of_not_mem`: What is left without a key.
* `keys_insert`, `keys_erase`, `keys_modify`: Which keys there are afterwards.
* `find?_eq_none_iff`, `contains_iff`: What has a value is a key.
* `find?_eq_some_iff`: Finding is membership, if no key occurs twice.
-/

namespace Conduit

/-- A finite map as a list of pairs. -/
abbrev Dict (κ α : Type) := List (κ × α)

namespace Dict

variable {κ α : Type} [DecidableEq κ]

/-- The value of a key. -/
def find? : Dict κ α → κ → Option α
  | [], _ => none
  | (k, a) :: rest, key => if k = key then some a else find? rest key

/-- The key has a value. -/
def contains (d : Dict κ α) (key : κ) : Bool := (d.find? key).isSome

/-- The map without a key. -/
def erase : Dict κ α → κ → Dict κ α
  | [], _ => []
  | (k, a) :: rest, key => if k = key then erase rest key else (k, a) :: erase rest key

/-- The map with a value for a key, in place of any that it had. -/
def insert (d : Dict κ α) (key : κ) (value : α) : Dict κ α :=
  (key, value) :: d.erase key

/-- The map with the value of a key changed, if it has one. -/
def modify : Dict κ α → κ → (α → α) → Dict κ α
  | [], _, _ => []
  | (k, a) :: rest, key, f =>
    if k = key then (k, f a) :: rest else (k, a) :: modify rest key f

/-- The keys, newest first. -/
def keys (d : Dict κ α) : List κ := d.map (·.1)

@[simp] theorem find?_nil (key : κ) : find? ([] : Dict κ α) key = none := rfl

theorem find?_erase (d : Dict κ α) (key other : κ) :
    (d.erase key).find? other = if key = other then none else d.find? other := by
  induction d with
  | nil => simp [erase]
  | cons e rest ih =>
    obtain ⟨k, a⟩ := e
    simp only [erase]
    by_cases hk : k = key
    · rw [if_pos hk, ih]
      by_cases ho : key = other
      · rw [if_pos ho, if_pos ho]
      · rw [if_neg ho, if_neg ho, find?, if_neg (by rw [hk]; exact ho)]
    · rw [if_neg hk]
      simp only [find?, ih]
      by_cases ho : k = other
      · rw [if_pos ho, if_neg (fun h => hk (by rw [ho, h])), if_pos ho]
      · rw [if_neg ho, if_neg ho]

theorem find?_insert (d : Dict κ α) (key other : κ) (value : α) :
    (d.insert key value).find? other = if key = other then some value else d.find? other := by
  simp only [insert, find?, find?_erase]
  by_cases h : key = other
  · rw [if_pos h, if_pos h]
  · rw [if_neg h, if_neg h, if_neg h]

theorem find?_modify (d : Dict κ α) (key other : κ) (f : α → α) :
    (d.modify key f).find? other =
      if key = other then (d.find? other).map f else d.find? other := by
  induction d with
  | nil => simp [modify]
  | cons e rest ih =>
    obtain ⟨k, a⟩ := e
    simp only [modify]
    by_cases hk : k = key
    · rw [if_pos hk]
      simp only [find?, hk]
      by_cases ho : key = other
      · simp [ho]
      · simp [ho]
    · rw [if_neg hk]
      simp only [find?, ih]
      by_cases ho : k = other
      · rw [if_pos ho, if_pos ho, if_neg (fun h => hk (by rw [ho, h]))]
      · rw [if_neg ho, if_neg ho]

theorem erase_eq_filter (d : Dict κ α) (key : κ) :
    d.erase key = d.filter fun e => decide (e.1 ≠ key) := by
  induction d with
  | nil => rfl
  | cons e rest ih =>
    obtain ⟨k, a⟩ := e
    by_cases hk : k = key
    · simp [erase, hk, ih]
    · simp [erase, hk, ih]

theorem keys_erase (d : Dict κ α) (key : κ) :
    (d.erase key).keys = d.keys.filter fun k => decide (k ≠ key) := by
  rw [erase_eq_filter, keys, keys, List.filter_map]
  rfl

theorem erase_of_not_mem {d : Dict κ α} {key : κ} (h : key ∉ d.keys) : d.erase key = d := by
  rw [erase_eq_filter, List.filter_eq_self]
  intro e he
  have hne : e.1 ≠ key := fun heq => h (heq ▸ List.mem_map.mpr ⟨e, he, rfl⟩)
  simpa using hne

theorem keys_insert (d : Dict κ α) (key : κ) (value : α) :
    (d.insert key value).keys = key :: (d.erase key).keys := rfl

@[simp] theorem keys_modify (d : Dict κ α) (key : κ) (f : α → α) :
    (d.modify key f).keys = d.keys := by
  induction d with
  | nil => rfl
  | cons e rest ih =>
    obtain ⟨k, a⟩ := e
    by_cases hk : k = key
    · simp [modify, keys, hk]
    · simpa [modify, keys, hk] using ih

theorem contains_iff {d : Dict κ α} {key : κ} : d.contains key = true ↔ key ∈ d.keys := by
  induction d with
  | nil => simp [contains, keys]
  | cons e rest ih =>
    obtain ⟨k, a⟩ := e
    by_cases hk : k = key
    · simp [contains, find?, keys, hk]
    · have hk' : ¬ key = k := fun h => hk h.symm
      simpa [contains, find?, keys, hk, hk'] using ih

theorem find?_eq_none_iff {d : Dict κ α} {key : κ} : d.find? key = none ↔ key ∉ d.keys := by
  rw [← contains_iff, contains]
  cases d.find? key <;> simp

/-- Where no key occurs twice, what is found for a key is what stands beside it. -/
theorem find?_eq_some_iff {d : Dict κ α} (h : d.keys.Nodup) {key : κ} {value : α} :
    d.find? key = some value ↔ (key, value) ∈ d := by
  induction d with
  | nil => simp
  | cons e rest ih =>
    obtain ⟨k, a⟩ := e
    have hrest : Dict.keys rest = rest.map (·.1) := rfl
    rw [keys, List.map_cons, List.nodup_cons, ← hrest] at h
    obtain ⟨hk, hnodup⟩ := h
    by_cases heq : k = key
    · subst heq
      have habsent : (k, value) ∉ rest := fun hm => hk (List.mem_map.mpr ⟨_, hm, rfl⟩)
      simp [find?, habsent, eq_comm]
    · have heq' : ¬ key = k := fun h => heq h.symm
      simp [find?, heq, heq', ih hnodup]

end Dict

end Conduit
