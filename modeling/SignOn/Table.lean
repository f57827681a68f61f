/-!
Tables: rows of a name and a value, in the order in which they came. A name is looked up in the first of its rows, or in
the last one where later rows count over earlier ones. Putting a value keeps the place that a name has.
-/

namespace SignOn

abbrev Table (α : Type) (κ : Type := String) := List (κ × α)

namespace Table

variable {α κ : Type} [DecidableEq κ]

/-- The first value of a name. -/
def get? (t : Table α κ) (name : κ) : Option α :=
  (t.find? (·.1 == name)).map (·.2)

/-- The last value of a name. -/
def last? (t : Table α κ) (name : κ) : Option α :=
  get? t.reverse name

def has (t : Table α κ) (name : κ) : Bool :=
  t.any (·.1 == name)

/-- Gives a name a value, in its old place if it had one and at the end otherwise. -/
def put (t : Table α κ) (name : κ) (value : α) : Table α κ :=
  if has t name then t.map fun row => if row.1 = name then (name, value) else row
  else t ++ [(name, value)]

/-- The table that some rows build up: the last value of a name counts, in the place of the first. -/
def ofRows (rows : List (κ × α)) : Table α κ :=
  rows.foldl (fun t row => put t row.1 row.2) []

@[simp] theorem get?_nil (name : κ) : get? ([] : Table α κ) name = none := rfl

theorem get?_cons (row : κ × α) (t : Table α κ) (name : κ) :
    get? (row :: t) name = if row.1 = name then some row.2 else get? t name := by
  by_cases h : row.1 = name <;> simp [get?, h]

@[simp] theorem has_nil (name : κ) : has ([] : Table α κ) name = false := rfl

theorem has_cons (row : κ × α) (t : Table α κ) (name : κ) :
    has (row :: t) name = (row.1 == name || has t name) := rfl

theorem has_eq_isSome_get? (t : Table α κ) (name : κ) : has t name = (get? t name).isSome := by
  induction t with
  | nil => rfl
  | cons row t ih => by_cases h : row.1 = name <;> simp [has_cons, get?_cons, h, ih]

theorem get?_append (s t : Table α κ) (name : κ) : get? (s ++ t) name = (get? s name).or (get? t name) := by
  induction s with
  | nil => rfl
  | cons row s ih => by_cases h : row.1 = name <;> simp [get?_cons, h, ih]

theorem mem_of_get? {t : Table α κ} {name : κ} {value : α} (h : get? t name = some value) : (name, value) ∈ t := by
  obtain ⟨row, hrow, rfl⟩ := Option.map_eq_some_iff.1 h
  have hname : row.1 = name := by simpa using List.find?_some hrow
  rw [← hname]
  exact List.mem_of_find?_eq_some hrow

/-- Where every name has one row, a value is found exactly where it stands. -/
theorem get?_eq_some_iff {t : Table α κ} (h : (t.map (·.1)).Nodup) (name : κ) (value : α) :
    get? t name = some value ↔ (name, value) ∈ t := by
  induction t with
  | nil => simp
  | cons row t ih =>
    obtain ⟨hrow, ht⟩ := List.nodup_cons.1 h
    rw [get?_cons, List.mem_cons]
    split
    · next heq =>
      subst heq
      have hmem : (row.1, value) ∉ t := fun hmem => hrow (List.mem_map.2 ⟨_, hmem, rfl⟩)
      simp [hmem, Prod.ext_iff, eq_comm]
    · next hne =>
      rw [ih ht]
      simp [Prod.ext_iff, Ne.symm hne]

theorem last?_eq_some_iff {t : Table α κ} (h : (t.map (·.1)).Nodup) (name : κ) (value : α) :
    last? t name = some value ↔ (name, value) ∈ t := by
  have hreverse : (t.reverse.map (·.1)).Nodup := by
    rw [List.map_reverse]
    exact List.pairwise_reverse.2 (h.imp Ne.symm)
  rw [last?, get?_eq_some_iff hreverse, List.mem_reverse]

/-- Writing a new value over the old ones of a name shows under that name alone. -/
theorem get?_overwrite (t : Table α κ) (name other : κ) (value : α) :
    get? (t.map fun row => if row.1 = name then (name, value) else row) other =
      if other = name then (get? t name).map fun _ => value else get? t other := by
  induction t with
  | nil => simp
  | cons row t ih =>
    rw [List.map_cons, get?_cons, get?_cons, get?_cons, ih]
    by_cases h : row.1 = name
    · by_cases k : other = name
      · simp [h, k]
      · simp [h, k, Ne.symm k]
    · by_cases k : other = name
      · simp [h, k]
      · simp [h, k]

/-- A value that was put is found. -/
@[simp] theorem get?_put_self (t : Table α κ) (name : κ) (value : α) : get? (put t name value) name = some value := by
  unfold put
  split
  · next h =>
    rw [has_eq_isSome_get?] at h
    obtain ⟨old, h⟩ := Option.isSome_iff_exists.1 h
    simp [get?_overwrite, h]
  · next h =>
    have h : get? t name = none := by simpa [has_eq_isSome_get?] using h
    simp [get?_append, get?_cons, h]

/-- Putting a value leaves other names alone. -/
theorem get?_put_of_ne (t : Table α κ) {name other : κ} (value : α) (h : other ≠ name) :
    get? (put t name value) other = get? t other := by
  unfold put
  split
  · simp [get?_overwrite, h]
  · simp [get?_append, get?_cons, h.symm]

/-- A table keeps its names, and a new one comes last. -/
theorem names_put (t : Table α κ) (name : κ) (value : α) :
    (put t name value).map (·.1) = if has t name then t.map (·.1) else t.map (·.1) ++ [name] := by
  unfold put
  split
  · rw [List.map_map]
    congr 1
    funext row
    by_cases h : row.1 = name <;> simp [h]
  · simp

end Table

end SignOn
