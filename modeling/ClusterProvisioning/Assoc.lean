/-!
# Association lists

Finite maps over keys that have no order of interest: the objects of a cluster by reference, armed
faults by call. A key stands at most once in a list built by these operations.
-/

namespace ClusterProvisioning

/-- A finite map as a list of its entries. -/
abbrev Assoc (κ α : Type) := List (κ × α)

namespace Assoc

variable {κ α : Type} [DecidableEq κ]

/-- The value stored under a key. -/
def get? : Assoc κ α → κ → Option α
  | [], _ => none
  | (k, v) :: rest, key => if k = key then some v else get? rest key

/-- Stores a value under a key, in the place of the value stored there before, else at the end. -/
def put : Assoc κ α → κ → α → Assoc κ α
  | [], key, value => [(key, value)]
  | (k, v) :: rest, key, value =>
    if k = key then (key, value) :: rest else (k, v) :: put rest key value

/-- Removes a key. -/
def erase (m : Assoc κ α) (key : κ) : Assoc κ α :=
  m.filter fun entry => entry.1 ≠ key

theorem get?_put_self (m : Assoc κ α) (key : κ) (value : α) :
    (put m key value).get? key = some value := by
  induction m with
  | nil => simp [put, get?]
  | cons entry rest ih =>
    obtain ⟨k, v⟩ := entry
    by_cases h : k = key <;> simp [put, get?, h, ih]

theorem get?_put_of_ne (m : Assoc κ α) {key other : κ} (value : α) (h : key ≠ other) :
    (put m key value).get? other = m.get? other := by
  induction m with
  | nil => simp [put, get?, h]
  | cons entry rest ih =>
    obtain ⟨k, v⟩ := entry
    by_cases hk : k = key
    · subst hk
      simp [put, get?, h]
    · simp [put, get?, hk, ih]

theorem get?_erase_self (m : Assoc κ α) (key : κ) : (erase m key).get? key = none := by
  induction m with
  | nil => rfl
  | cons entry rest ih =>
    obtain ⟨k, v⟩ := entry
    by_cases h : k = key
    · simpa [erase, h] using ih
    · have : erase ((k, v) :: rest) key = (k, v) :: erase rest key := by simp [erase, h]
      rw [this]
      simp [get?, h, ih]

theorem get?_erase_of_ne (m : Assoc κ α) {key other : κ} (h : key ≠ other) :
    (erase m key).get? other = m.get? other := by
  induction m with
  | nil => rfl
  | cons entry rest ih =>
    obtain ⟨k, v⟩ := entry
    by_cases hk : k = key
    · subst hk
      have : erase ((k, v) :: rest) k = erase rest k := by simp [erase]
      rw [this, ih]
      simp [get?, h]
    · have : erase ((k, v) :: rest) key = (k, v) :: erase rest key := by simp [erase, hk]
      rw [this]
      simp [get?, ih]

end Assoc

end ClusterProvisioning
