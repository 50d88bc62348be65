/-
  Association lists that remember the order of their keys.

  Setting a key that is there keeps its place, setting a new one adds it at the end, and the first
  entry of a key is the one that counts.
-/

namespace Flowchart

/-- Entries by name, in the order in which the names came. -/
abbrev Assoc (α : Type) := List (String × α)

namespace Assoc

variable {α : Type}

/-- The value of a key. -/
def find? (key : String) (entries : Assoc α) : Option α := entries.lookup key

/-- The key has a value. -/
def contains (key : String) (entries : Assoc α) : Bool := entries.any (·.1 == key)

/-- The keys in order. -/
def keys (entries : Assoc α) : List String := entries.map (·.1)

/-- Gives the key a value; it keeps its place, or comes last if it is new. -/
def set (key : String) (value : α) : Assoc α → Assoc α
  | [] => [(key, value)]
  | (k, v) :: rest => if k == key then (key, value) :: rest else (k, v) :: set key value rest

/-- Takes a key out. -/
def drop (key : String) (entries : Assoc α) : Assoc α := entries.filter (·.1 != key)

/-- Sets all the entries of `more` in turn, so that `more` wins. -/
def merge (entries more : Assoc α) : Assoc α := more.foldl (fun acc e => acc.set e.1 e.2) entries

/-- A list of entries with each key once, the last value winning. -/
def ofEntries (entries : List (String × α)) : Assoc α := merge [] entries

/-! ## Looking up after a change -/

/-- Looking up in a list that starts with an entry. -/
theorem find?_cons (key k : String) (value : α) (rest : Assoc α) :
    find? key ((k, value) :: rest) = if key = k then some value else rest.find? key := by
  unfold find?
  by_cases h : key = k
  · simp [h]
  · have hk : (key == k) = false := by simp [h]
    simp [List.lookup_cons, h, hk]

/-- A key that was set has its new value, and every other key what it had. -/
theorem find?_set (key k : String) (value : α) (entries : Assoc α) :
    (entries.set key value).find? k = if k = key then some value else entries.find? k := by
  induction entries with
  | nil => rw [set, find?_cons]
  | cons e rest ih =>
    obtain ⟨k', v⟩ := e
    rw [set]
    by_cases h' : k' = key
    · subst h'
      by_cases h : k = k' <;> simp [find?_cons, h]
    · by_cases h : k = k'
      · subst h
        simp [find?_cons, h']
      · simp [find?_cons, h', h, ih]

/-- A key that was taken out has no value, and every other key what it had. -/
theorem find?_drop (key k : String) (entries : Assoc α) :
    (entries.drop key).find? k = if k = key then none else entries.find? k := by
  induction entries with
  | nil => simp [drop, find?]
  | cons e rest ih =>
    obtain ⟨k', v⟩ := e
    unfold drop at ih ⊢
    by_cases h' : k' = key
    · subst h'
      by_cases h : k = k'
      · subst h
        simpa using ih
      · simpa [find?_cons, h] using ih
    · by_cases h : k = k'
      · subst h
        simp [find?_cons, h']
      · simp [find?_cons, h', h, ih]

/-- A key has a value exactly if it is there. -/
theorem find?_isSome (key : String) (entries : Assoc α) :
    (entries.find? key).isSome = entries.contains key := by
  induction entries with
  | nil => simp [find?, contains]
  | cons e rest ih =>
    obtain ⟨k, v⟩ := e
    rw [find?_cons]
    by_cases h : key = k
    · simp [contains, h]
    · have hk : (k == key) = false := by simp [Ne.symm h]
      simpa [contains, h, hk] using ih

/-- A key that is not there has no value. -/
theorem find?_eq_none {key : String} {entries : Assoc α} (h : key ∉ entries.keys) :
    entries.find? key = none := by
  induction entries with
  | nil => rfl
  | cons e rest ih =>
    obtain ⟨hk, hrest⟩ : key ≠ e.1 ∧ key ∉ keys rest := by simpa [keys] using h
    rw [find?_cons, if_neg hk, ih hrest]

/-- What is looked up in one list after another is taken from the first that has it. -/
theorem find?_append (key : String) (entries more : Assoc α) :
    find? key (entries ++ more) = (entries.find? key).or (more.find? key) :=
  List.lookup_append

/-! ## Keys after a change -/

/-- Setting a key adds at most that key. -/
theorem mem_keys_set (key k : String) (value : α) (entries : Assoc α) :
    k ∈ (entries.set key value).keys ↔ k = key ∨ k ∈ entries.keys := by
  induction entries with
  | nil => simp [set, keys]
  | cons e rest ih =>
    obtain ⟨k', v⟩ := e
    unfold keys at ih ⊢
    rw [set]
    by_cases h : k' = key
    · simp [h]
    · simp [h, ih, or_left_comm]

/-- Setting a key repeats no key. -/
theorem nodup_keys_set (key : String) (value : α) {entries : Assoc α} (h : entries.keys.Nodup) :
    (entries.set key value).keys.Nodup := by
  induction entries with
  | nil => simp [set, keys]
  | cons e rest ih =>
    obtain ⟨k, v⟩ := e
    obtain ⟨hk, hrest⟩ : k ∉ keys rest ∧ (keys rest).Nodup := List.nodup_cons.mp h
    rw [set]
    by_cases heq : k = key
    · subst heq
      simpa [keys] using h
    · have hset : k ∉ (set key value rest).keys := by simp [mem_keys_set, heq, hk]
      simpa [heq, keys] using List.nodup_cons.mpr ⟨hset, ih hrest⟩

/-- The keys of a merged list are those of the two. -/
theorem mem_keys_merge (k : String) (entries more : Assoc α) :
    k ∈ (entries.merge more).keys ↔ k ∈ entries.keys ∨ k ∈ more.keys := by
  induction more generalizing entries with
  | nil => simp [merge, keys]
  | cons e rest ih =>
    have step : entries.merge (e :: rest) = (entries.set e.1 e.2).merge rest := rfl
    rw [step, ih, mem_keys_set]
    simp [keys, or_assoc, or_left_comm]

/-- Merging repeats no key. -/
theorem nodup_keys_merge {entries : Assoc α} (h : entries.keys.Nodup) (more : Assoc α) :
    (entries.merge more).keys.Nodup := by
  induction more generalizing entries with
  | nil => exact h
  | cons e rest ih => exact ih (nodup_keys_set e.1 e.2 h)

/-- In a merged list the second one wins. -/
theorem find?_merge (key : String) (entries : Assoc α) {more : Assoc α} (h : more.keys.Nodup) :
    (entries.merge more).find? key = (more.find? key).or (entries.find? key) := by
  induction more generalizing entries with
  | nil => rfl
  | cons e rest ih =>
    obtain ⟨k, v⟩ := e
    obtain ⟨hk, hrest⟩ : k ∉ keys rest ∧ (keys rest).Nodup := List.nodup_cons.mp h
    have step : entries.merge ((k, v) :: rest) = (entries.set k v).merge rest := rfl
    rw [step, ih _ hrest, find?_set, find?_cons]
    by_cases heq : key = k
    · subst heq
      simp [find?_eq_none hk]
    · simp [heq]

/-- Of several lists merged one after another the last one that has a key wins. -/
theorem find?_foldl_merge (key : String) (entries : Assoc α) {layers : List (Assoc α)}
    (h : ∀ layer ∈ layers, layer.keys.Nodup) :
    (layers.foldl merge entries).find? key =
      (layers.reverse.findSome? (find? key)).or (entries.find? key) := by
  induction layers generalizing entries with
  | nil => rfl
  | cons layer rest ih =>
    obtain ⟨hlayer, hrest⟩ := List.forall_mem_cons.mp h
    rw [List.foldl_cons, ih _ hrest, find?_merge key entries hlayer, List.reverse_cons,
      List.findSome?_append, List.findSome?_singleton, Option.or_assoc]

end Assoc

end Flowchart
