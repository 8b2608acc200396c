/-
Lists of keys with their values. Main statement: a key that is given a value has it, and no other key
changes (`lookup_setEntry`).
-/
namespace SinglePage

variable {κ α : Type} [DecidableEq κ]

/-- Gives a key a value, where each key has one. -/
def setEntry (key : κ) (value : α) : List (κ × α) → List (κ × α)
  | [] => [(key, value)]
  | e :: rest => if e.1 = key then (key, value) :: rest else e :: setEntry key value rest

/-- The first value of a key counts. -/
theorem lookup_cons (e : κ × α) (entries : List (κ × α)) (key : κ) :
    (e :: entries).lookup key = if key = e.1 then some e.2 else entries.lookup key := by
  obtain ⟨k, value⟩ := e
  rw [List.lookup_cons]
  by_cases h : key = k
  · rw [if_pos h, beq_iff_eq.2 h]
  · rw [if_neg h, beq_false_of_ne h]

theorem lookup_setEntry (entries : List (κ × α)) (key other : κ) (value : α) :
    (setEntry key value entries).lookup other =
      if other = key then some value else entries.lookup other := by
  induction entries with
  | nil => exact lookup_cons (key, value) [] other
  | cons e entries ih =>
    unfold setEntry
    split
    · next h =>
      rw [lookup_cons, lookup_cons, h]
      split <;> rfl
    · next h =>
      rw [lookup_cons, lookup_cons, ih]
      by_cases hkey : other = key
      · rw [if_neg fun h' => h (h'.symm.trans hkey), if_pos hkey, if_pos hkey]
      · rw [if_neg hkey, if_neg hkey]

end SinglePage
