/-!
# Tables

Finite maps from names to values, kept in increasing order of the names: the members of an object,
labels, node selectors.
-/

namespace ClusterProvisioning

/-- A finite map from names to values, listed in increasing order of the names. -/
abbrev Table (α : Type) := List (String × α)

namespace Table

variable {α : Type}

/-- The value stored under a name. -/
def get? : Table α → String → Option α
  | [], _ => none
  | (key, value) :: rest, name => if key = name then some value else get? rest name

/-- Stores a value under a name, replacing the value stored there before. -/
def insert : Table α → String → α → Table α
  | [], name, value => [(name, value)]
  | (key, old) :: rest, name, value =>
    if key = name then (name, value) :: rest
    else if name < key then (name, value) :: (key, old) :: rest
    else (key, old) :: insert rest name value

/-- Removes a name. -/
def erase (t : Table α) (name : String) : Table α :=
  t.filter fun entry => entry.1 ≠ name

/-- Stores every entry of a list in turn, so that of two entries with one name the later stays. -/
def extend (t : Table α) (entries : List (String × α)) : Table α :=
  entries.foldl (fun acc entry => insert acc entry.1 entry.2) t

/-- The table of a list of entries; of two entries with one name the later stays. -/
def ofEntries (entries : List (String × α)) : Table α :=
  extend [] entries

/-- The names are in strictly increasing order. -/
def Sorted (t : Table α) : Prop :=
  t.Pairwise fun a b => a.1 < b.1

theorem get?_insert_self (t : Table α) (name : String) (value : α) :
    (insert t name value).get? name = some value := by
  induction t with
  | nil => simp [insert, get?]
  | cons entry rest ih =>
    obtain ⟨key, old⟩ := entry
    simp only [insert]
    split
    · simp [get?]
    · split
      · simp [get?]
      · next h _ => simp [get?, h, ih]

theorem get?_insert_of_ne (t : Table α) {name other : String} (value : α) (h : name ≠ other) :
    (insert t name value).get? other = t.get? other := by
  induction t with
  | nil => simp [insert, get?, h]
  | cons entry rest ih =>
    obtain ⟨key, old⟩ := entry
    simp only [insert]
    split
    · next hk => subst hk; simp [get?, h]
    · split
      · simp [get?, h]
      · simp [get?, ih]

theorem get?_erase_self (t : Table α) (name : String) : (erase t name).get? name = none := by
  induction t with
  | nil => rfl
  | cons entry rest ih =>
    obtain ⟨key, old⟩ := entry
    by_cases h : key = name
    · simpa [erase, h] using ih
    · have : erase ((key, old) :: rest) name = (key, old) :: erase rest name := by
        simp [erase, h]
      rw [this]
      simp [get?, h, ih]

theorem get?_erase_of_ne (t : Table α) {name other : String} (h : name ≠ other) :
    (erase t name).get? other = t.get? other := by
  induction t with
  | nil => rfl
  | cons entry rest ih =>
    obtain ⟨key, old⟩ := entry
    by_cases hk : key = name
    · subst hk
      have : erase ((key, old) :: rest) key = erase rest key := by simp [erase]
      rw [this, ih]
      simp [get?, h]
    · have : erase ((key, old) :: rest) name = (key, old) :: erase rest name := by
        simp [erase, hk]
      rw [this]
      simp [get?, ih]

theorem get?_extend_of_ne (t : Table α) {entries : List (String × α)} {name : String}
    (h : ∀ entry ∈ entries, entry.1 ≠ name) : (extend t entries).get? name = t.get? name := by
  induction entries generalizing t with
  | nil => rfl
  | cons entry rest ih =>
    obtain ⟨hentry, hrest⟩ := List.forall_mem_cons.mp h
    exact (ih (insert t entry.1 entry.2) hrest).trans (get?_insert_of_ne t entry.2 hentry)

/-- Of entries with distinct names each is found. -/
theorem get?_extend_of_mem (t : Table α) {entries : List (String × α)} {name : String} {value : α}
    (distinct : entries.Pairwise fun a b => a.1 ≠ b.1) (mem : (name, value) ∈ entries) :
    (extend t entries).get? name = some value := by
  induction entries generalizing t with
  | nil => cases mem
  | cons entry rest ih =>
    obtain ⟨hentry, hrest⟩ := List.pairwise_cons.mp distinct
    rcases List.mem_cons.mp mem with rfl | mem
    · refine (get?_extend_of_ne _ fun other hother => (hentry other hother).symm).trans ?_
      exact get?_insert_self t name value
    · exact ih (insert t entry.1 entry.2) hrest mem

theorem erase_cons (key : String) (value : α) (rest : Table α) (name : String) :
    erase ((key, value) :: rest) name =
      if key = name then erase rest name else (key, value) :: erase rest name := by
  by_cases h : key = name <;> simp [erase, h]

/-! ### Changes that follow one another -/

theorem insert_insert_self (t : Table α) (name : String) (old value : α) :
    insert (insert t name old) name value = insert t name value := by
  induction t with
  | nil => simp [insert]
  | cons entry rest ih =>
    obtain ⟨key, other⟩ := entry
    by_cases hkey : key = name
    · simp [insert, hkey]
    · by_cases hlt : name < key
      · simp [insert, hkey, hlt]
      · simp [insert, hkey, hlt, ih]

theorem insert_comm_of_lt (t : Table α) {name other : String} (value second : α)
    (h : name < other) :
    insert (insert t name value) other second = insert (insert t other second) name value := by
  have hne : name ≠ other := fun heq => String.lt_irrefl name (heq ▸ h)
  have hge : ¬other < name := String.lt_asymm h
  induction t with
  | nil => simp [insert, h, hne, hne.symm, hge]
  | cons entry rest ih =>
    obtain ⟨key, old⟩ := entry
    by_cases hkey : key = name
    · subst hkey
      simp [insert, hne, hge]
    · by_cases hlt : name < key
      · by_cases hother : key = other
        · subst hother
          simp [insert, hkey, hlt, hne, hge]
        · by_cases hafter : other < key <;>
            simp [insert, hkey, hlt, hne, hge, h, hother, hafter, hne.symm]
      · have hbefore : ¬other < key := fun hafter => hlt (String.lt_trans h hafter)
        have hother : key ≠ other := fun heq => hlt (heq ▸ h)
        simp [insert, hkey, hlt, hbefore, hother, ih]

/-- Values are stored under different names in any order. -/
theorem insert_comm (t : Table α) {name other : String} (value second : α) (h : name ≠ other) :
    insert (insert t name value) other second = insert (insert t other second) name value := by
  rcases Std.lt_trichotomy name other with hlt | heq | hgt
  · exact insert_comm_of_lt t value second hlt
  · exact absurd heq h
  · exact (insert_comm_of_lt t second value hgt).symm

theorem erase_insert_self (t : Table α) (name : String) (value : α) :
    erase (insert t name value) name = erase t name := by
  induction t with
  | nil => simp [insert, erase_cons]
  | cons entry rest ih =>
    obtain ⟨key, old⟩ := entry
    by_cases hkey : key = name
    · simp [insert, erase_cons, hkey]
    · by_cases hlt : name < key
      · simp [insert, erase_cons, hkey, hlt]
      · simp [insert, erase_cons, hkey, hlt, ih]

theorem erase_of_absent {t : Table α} {name : String} (h : t.get? name = none) :
    erase t name = t := by
  induction t with
  | nil => rfl
  | cons entry rest ih =>
    obtain ⟨key, old⟩ := entry
    by_cases hkey : key = name
    · simp [get?, hkey] at h
    · simp only [get?, if_neg hkey] at h
      simp [erase_cons, hkey, ih h]

/-- What is stored already is stored still when another name is removed. -/
theorem insert_erase_of_stored {t : Table α} {name other : String} {value : α} (h : name ≠ other)
    (stored : insert t name value = t) : insert (erase t other) name value = erase t other := by
  induction t with
  | nil => cases stored
  | cons entry rest ih =>
    obtain ⟨key, old⟩ := entry
    by_cases hkey : key = name
    · simp only [insert, if_pos hkey, List.cons.injEq, and_true] at stored
      simp [erase_cons, insert, hkey, h, stored]
    · by_cases hlt : name < key
      · have hlength := congrArg List.length stored
        simp [insert, hkey, hlt] at hlength
      · simp only [insert, if_neg hkey, if_neg hlt, List.cons.injEq, true_and] at stored
        by_cases hother : key = other
        · simp [erase_cons, hother, ih stored]
        · simp [erase_cons, insert, hother, hkey, hlt, ih stored]

/-- What is stored already is stored still when another name is set. -/
theorem insert_insert_of_stored {t : Table α} {name other : String} {value second : α}
    (h : name ≠ other) (stored : insert t name value = t) :
    insert (insert t other second) name value = insert t other second := by
  rw [insert_comm t second value h.symm, stored]

theorem insert_extend_of_ne (t : Table α) {entries : List (String × α)} {name : String}
    (value : α) (h : ∀ entry ∈ entries, entry.1 ≠ name) :
    insert (extend t entries) name value = extend (insert t name value) entries := by
  induction entries generalizing t with
  | nil => rfl
  | cons entry rest ih =>
    obtain ⟨hentry, hrest⟩ := List.forall_mem_cons.mp h
    have hcomm := insert_comm t entry.2 value hentry
    simp only [extend, List.foldl_cons] at ih ⊢
    rw [ih _ hrest, hcomm]

/-- Of entries with distinct names each is stored. -/
theorem insert_extend_of_mem (t : Table α) {entries : List (String × α)} {name : String} {value : α}
    (distinct : entries.Pairwise fun a b => a.1 ≠ b.1) (mem : (name, value) ∈ entries) :
    insert (extend t entries) name value = extend t entries := by
  induction entries generalizing t with
  | nil => cases mem
  | cons entry rest ih =>
    obtain ⟨hentry, hrest⟩ := List.pairwise_cons.mp distinct
    rcases List.mem_cons.mp mem with rfl | mem
    · have hlater : ∀ other ∈ rest, other.1 ≠ name := fun other hother => (hentry other hother).symm
      refine (insert_extend_of_ne _ value hlater).trans ?_
      rw [insert_insert_self]
      rfl
    · exact ih (insert t entry.1 entry.2) hrest mem

/-- Entries that are stored already change nothing. -/
theorem extend_of_stored {t : Table α} {entries : List (String × α)}
    (stored : ∀ entry ∈ entries, insert t entry.1 entry.2 = t) : extend t entries = t := by
  induction entries with
  | nil => rfl
  | cons entry rest ih =>
    obtain ⟨hentry, hrest⟩ := List.forall_mem_cons.mp stored
    simp only [extend, List.foldl_cons] at ih ⊢
    rw [hentry, ih hrest]

end Table

end ClusterProvisioning
