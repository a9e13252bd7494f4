/-
# CallTree.Table — tables keyed by text that keep the order in which keys were first written.

Objects, type chunks, argument contracts and resolver state are all the same thing to this library:
a list of entries in which a key occurs at most once and in which writing to a key that is already
present leaves it at its place. The order is observable everywhere (validation reports the first
fault in table order, printed objects keep it), so a table is a list and not a search tree.

A table is an abbreviation for its list of entries. `set` and `ofList` never introduce a repeated
key; a list that repeats one is read with its first entry winning.
-/

namespace CallTree

/-- **`Table α`** — entries in order, keyed by text. -/
abbrev Table (α : Type) := List (String × α)

namespace Table

variable {α β : Type}

/-- The value stored under a key. -/
def get? : Table α → String → Option α
  | [], _ => none
  | (k, v) :: rest, key => if k = key then some v else get? rest key

/-- Whether a key is present. -/
def has (t : Table α) (key : String) : Bool := (t.get? key).isSome

/-- Write a value: in place if the key is present, at the end otherwise. -/
def set : Table α → String → α → Table α
  | [], key, value => [(key, value)]
  | (k, v) :: rest, key, value =>
    if k = key then (k, value) :: rest else (k, v) :: set rest key value

/-- The keys, in order. -/
def keys (t : Table α) : List String := t.map Prod.fst

/-- Write all entries of `u` into `t`, one after the other. -/
def merge (t u : Table α) : Table α := u.foldl (fun acc e => acc.set e.1 e.2) t

/-- The table of a list of entries: the first position of a repeated key, its last value. -/
def ofList (entries : List (String × α)) : Table α := merge [] entries

/-- Apply a function to every value. -/
def mapValues (f : α → β) (t : Table α) : Table β := t.map fun e => (e.1, f e.2)

/-! ## What reading sees after writing -/

@[simp] theorem get?_nil (key : String) : get? ([] : Table α) key = none := rfl

/-- A written key reads back. -/
@[simp] theorem get?_set_self (t : Table α) (key : String) (value : α) :
    (t.set key value).get? key = some value := by
  induction t with
  | nil => simp [set, get?]
  | cons e rest ih =>
    obtain ⟨k, v⟩ := e
    by_cases h : k = key <;> simp [set, get?, h, ih]

/-- No other key is affected by a write. -/
theorem get?_set_of_ne (t : Table α) {key other : String} (value : α) (h : key ≠ other) :
    (t.set key value).get? other = t.get? other := by
  induction t with
  | nil => simp [set, get?, h]
  | cons e rest ih =>
    obtain ⟨k, v⟩ := e
    by_cases hk : k = key
    · subst hk; simp [set, get?, h]
    · by_cases ho : k = other
      · subst ho; simp [set, get?, hk]
      · simp [set, get?, hk, ho, ih]

/-- Writing to a present key leaves the keys and their order alone. -/
theorem keys_set_of_has (t : Table α) {key : String} (value : α) (h : t.has key = true) :
    (t.set key value).keys = t.keys := by
  induction t with
  | nil => simp [has] at h
  | cons e rest ih =>
    obtain ⟨k, v⟩ := e
    by_cases hk : k = key
    · simp [set, keys, hk]
    · have h' : has rest key = true := by simpa [has, get?, hk] using h
      have := ih h'
      simp only [keys] at this
      simp [set, keys, hk, this]

/-- Writing to a missing key appends it. -/
theorem set_of_not_has (t : Table α) {key : String} (value : α) (h : t.has key = false) :
    t.set key value = t ++ [(key, value)] := by
  induction t with
  | nil => rfl
  | cons e rest ih =>
    obtain ⟨k, v⟩ := e
    by_cases hk : k = key
    · simp [has, get?, hk] at h
    · have h' : has rest key = false := by simpa [has, get?, hk] using h
      simp [set, hk, ih h']

end Table

end CallTree
