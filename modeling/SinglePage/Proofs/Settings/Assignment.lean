/-
What names hold after values have been put at keys, one after another. What is read at a name depends
only on the value that is put last at it or below it: a text that stands there, or the kind of what now
surrounds it (`read_assignAll`). Values are put in all cases but one, an index that names no place
(`assignAll_error`).
-/
import SinglePage.Settings
import SinglePage.Proofs.Text.LowerCase
import Mathlib.Data.List.Nodup

namespace SinglePage.Settings

open Text

/-! ## Reading -/

/-- What a step leads into is called so. -/
def Step.kind : Step → String
  | .field _ => "map"
  | .index _ => "sequence"

/-- A value is read as its text, or as the kind of a value that has none. -/
def Value.read (v : Value) : Except String String :=
  match v.text? with
  | some t => .ok t
  | none => .error v.kind

/-- What is read at the name of a key once a text is put there: the text itself, or the kind of what has
been made to hold it. -/
def Key.read (key : Key) (text : String) : Except String String :=
  match key.steps with
  | [] => .ok text
  | step :: _ => .error step.kind

namespace Value

/-- A text that is put somewhere stands there. -/
theorem merge_text (old : Option Value) (text : String) : merge old (.text text) = .text text := by
  simp only [merge]

/-- What is put where nothing was reads as itself. -/
theorem read_merge_none (v : Value) : (merge none v).read = v.read := by
  rcases v with _ | _ | _ | _ | _ | _ | ⟨_ | ⟨f, rest⟩⟩ <;> simp only [merge] <;> rfl

/-- Below a field stands what its table has there. -/
theorem put_field (value : Value) (old : Option Value) (name : String) (steps : List Step) :
    put value old (.field name :: steps) =
      (put value ((fields old).lookup (lowerCase name)) steps).map fun field =>
        .table (setEntry (lowerCase name) field (fields old)) := by
  rw [put]
  cases put value ((fields old).lookup (lowerCase name)) steps <;> rfl

/-- Below an index stands what its list has there, but an item is not merged into the old one. -/
theorem put_index (value : Value) (old : Option Value) (i : Int) (steps : List Step) :
    put value old (.index i :: steps) = (place? (items old).1 i).bind fun place =>
      (if steps = [] then some value else put value ((items old).2.lookup place) steps).map fun item =>
        .list (max (items old).1 (place + 1)) (setEntry place item (items old).2) := by
  rw [put]
  obtain ⟨length, entries⟩ := items old
  dsimp only
  cases place? length i with
  | none => rfl
  | some place =>
    by_cases hsteps : steps = []
    · simp only [hsteps, if_true]
      rfl
    · simp only [hsteps, if_false, Option.bind_eq_bind, Option.bind_some, Option.map_eq_bind]
      rfl

/-- What a text below a name makes of the name does not depend on what was there. -/
theorem read_put {key : Key} {text : String} {old : Option Value} {v : Value}
    (h : put (.text text) old key.steps = some v) : v.read = key.read text := by
  obtain ⟨name, _ | ⟨_ | _, steps⟩⟩ := key
  · simp only [put, merge_text, Option.some.injEq] at h
    subst h
    rfl
  · simp only [put_field, Option.map_eq_some_iff] at h
    obtain ⟨field, -, rfl⟩ := h
    rfl
  · simp only [put_index, Option.bind_eq_some_iff, Option.map_eq_some_iff] at h
    obtain ⟨place, -, item, -, rfl⟩ := h
    rfl

/-- An index that names no place counts from the end, or lies past all lists. -/
theorem outside_of_place?_eq_none {length : Nat} {i : Int} (h : place? length i = none) :
    i < 0 ∨ (maxLength : Int) ≤ i := by
  cases i with
  | ofNat i =>
    have hi : ¬ i < maxLength := fun hi => by simp [place?, hi] at h
    exact .inr (Int.ofNat_le.2 (Nat.le_of_not_lt hi))
  | negSucc i => exact .inl (Int.negSucc_lt_zero i)

/-- A value finds no place only by an index that names none. -/
theorem exists_index_of_put_eq_none {value : Value} {steps : List Step} {old : Option Value}
    (h : put value old steps = none) : ∃ i : Int, .index i ∈ steps ∧ (i < 0 ∨ (maxLength : Int) ≤ i) := by
  induction steps generalizing old with
  | nil => simp [put] at h
  | cons step steps ih =>
    cases step with
    | field name =>
      rw [put_field, Option.map_eq_none_iff] at h
      obtain ⟨i, hi, hout⟩ := ih h
      exact ⟨i, .tail _ hi, hout⟩
    | index i =>
      rw [put_index] at h
      cases hplace : place? (items old).1 i with
      | none => exact ⟨i, .head _, outside_of_place?_eq_none hplace⟩
      | some place =>
        rw [hplace, Option.bind_some, Option.map_eq_none_iff] at h
        split at h
        · cases h
        · obtain ⟨j, hj, hout⟩ := ih h
          exact ⟨j, .tail _ hj, hout⟩

end Value

/-! ## Stores -/

/-- The names of a store are in lower case, each there once. -/
structure Store.Regular (s : Store) : Prop where
  nodup : (s.map Prod.fst).Nodup
  lower : ∀ e ∈ s, lowerCase e.1 = e.1

theorem mem_setEntry {κ α : Type} [DecidableEq κ] {key : κ} {value : α} {entries : List (κ × α)} {e : κ × α}
    (h : e ∈ setEntry key value entries) : e = (key, value) ∨ e ∈ entries := by
  fun_induction setEntry key value entries with
  | case1 => exact .inl (List.mem_singleton.1 h)
  | case2 f rest =>
    rcases List.mem_cons.1 h with h | h
    · exact .inl h
    · exact .inr (.tail _ h)
  | case3 f rest _ ih =>
    rcases List.mem_cons.1 h with rfl | h
    · exact .inr (.head _)
    · exact (ih h).imp id (.tail _)

theorem nodup_setEntry {κ α : Type} [DecidableEq κ] (key : κ) (value : α) {entries : List (κ × α)}
    (h : (entries.map Prod.fst).Nodup) : ((setEntry key value entries).map Prod.fst).Nodup := by
  fun_induction setEntry key value entries with
  | case1 => exact List.nodup_singleton _
  | case2 f rest heq => simpa [← heq] using h
  | case3 f rest hne ih =>
    rw [List.map_cons, List.nodup_cons] at h ⊢
    refine ⟨fun hf => ?_, ih h.2⟩
    obtain ⟨e, he, hfst⟩ := List.mem_map.1 hf
    rcases mem_setEntry he with rfl | he
    · exact hne hfst.symm
    · exact h.1 (List.mem_map.2 ⟨e, he, hfst⟩)

namespace Store

theorem regular_nil : Regular [] := ⟨List.nodup_nil, by simp⟩

/-- The name of the key, in lower case, is given what the value makes of it. -/
theorem assign_eq (s : Store) (key : Key) (value : Value) :
    s.assign key value =
      (Value.put value (s.get? (lowerCase key.name)) key.steps).map (s.set (lowerCase key.name)) := by
  rw [assign, Option.map_eq_bind]
  rfl

theorem Regular.assign {s s' : Store} {key : Key} {value : Value} (hs : s.Regular)
    (h : s.assign key value = some s') : s'.Regular := by
  rw [assign_eq, Option.map_eq_some_iff] at h
  obtain ⟨v, -, rfl⟩ := h
  refine ⟨nodup_setEntry _ _ hs.nodup, fun e he => ?_⟩
  rcases mem_setEntry he with rfl | he
  · exact lowerCase_lowerCase key.name
  · exact hs.lower e he

/-- What is read at a name. -/
def read (s : Store) (name : String) : Option (Except String String) := (s.get? name).map Value.read

/-- A text that is put at a key decides what is read at its name, and nothing else. -/
theorem read_assign {s s' : Store} {key : Key} {text : String} (h : s.assign key (.text text) = some s')
    (name : String) :
    s'.read name = if lowerCase key.name = name then some (key.read text) else s.read name := by
  rw [assign_eq, Option.map_eq_some_iff] at h
  obtain ⟨v, hv, rfl⟩ := h
  unfold read
  rw [get?_set]
  by_cases hname : lowerCase key.name = name
  · rw [if_pos hname, if_pos hname.symm, Option.map_some, Value.read_put hv]
  · rw [if_neg hname, if_neg (Ne.symm hname)]

end Store

/-! ## Runs -/

variable {s s' : Store}

theorem assignAll_cons (s : Store) (v : Key × Value) (values : List (Key × Value)) :
    assignAll s (v :: values) = (s.assign v.1 v.2).elim (.error .noSuchPlace) (assignAll · values) := by
  rw [assignAll, List.foldlM_cons]
  cases s.assign v.1 v.2 <;> rfl

/-- A run that ends well puts its first value, and goes on from there. -/
theorem assignAll_cons_eq_ok {v : Key × Value} {values : List (Key × Value)}
    (h : assignAll s (v :: values) = .ok s') :
    ∃ t, s.assign v.1 v.2 = some t ∧ assignAll t values = .ok s' := by
  rw [assignAll_cons] at h
  cases ht : s.assign v.1 v.2 with
  | none => rw [ht] at h; cases h
  | some t => rw [ht] at h; exact ⟨t, rfl, h⟩

theorem Store.Regular.assignAll {values : List (Key × Value)} (hs : s.Regular)
    (h : assignAll s values = .ok s') : s'.Regular := by
  induction values generalizing s with
  | nil =>
    cases h
    exact hs
  | cons v values ih =>
    obtain ⟨t, ht, h⟩ := assignAll_cons_eq_ok h
    exact ih (hs.assign ht) h

/-- A run ends badly only by an index that names no place. -/
theorem assignAll_error {values : List (Key × Value)} {e : Error} (h : assignAll s values = .error e) :
    e = .noSuchPlace ∧
      ∃ v ∈ values, ∃ i : Int, .index i ∈ v.1.steps ∧ (i < 0 ∨ (Value.maxLength : Int) ≤ i) := by
  induction values generalizing s with
  | nil => cases h
  | cons v values ih =>
    rw [assignAll_cons] at h
    cases ht : s.assign v.1 v.2 with
    | none =>
      rw [ht] at h
      cases h
      rw [Store.assign_eq, Option.map_eq_none_iff] at ht
      exact ⟨rfl, v, .head _, Value.exists_index_of_put_eq_none ht⟩
    | some t =>
      rw [ht] at h
      obtain ⟨he, w, hw, hout⟩ := ih h
      exact ⟨he, w, .tail _ hw, hout⟩

/-- Of the texts that are put at a name or below it, the last one decides what is read there. -/
theorem read_assignAll {texts : List (Key × String)}
    (h : assignAll s (texts.map fun v => (v.1, .text v.2)) = .ok s') (name : String) :
    s'.read name =
      ((texts.filter fun v => lowerCase v.1.name = name).getLast?.map fun v => v.1.read v.2).or
        (s.read name) := by
  induction texts generalizing s with
  | nil =>
    cases h
    rfl
  | cons v texts ih =>
    obtain ⟨t, ht, h⟩ := assignAll_cons_eq_ok h
    rw [ih h, Store.read_assign ht]
    -- the first text counts only where none of the others leads to the name
    by_cases hname : lowerCase v.1.name = name
    · rw [if_pos hname, List.filter_cons_of_pos (by simpa using hname), List.getLast?_cons]
      cases (texts.filter fun v => lowerCase v.1.name = name).getLast? <;> rfl
    · rw [if_neg hname, List.filter_cons_of_neg (by simpa using hname)]

/-- A store that is put name by name over another gives each of its names what it holds there. -/
theorem assignAll_names {values : Store} (hv : values.Regular) (s : Store) :
    ∃ s', assignAll s (values.map fun v => (⟨v.1, []⟩, v.2)) = .ok s' ∧
      ∀ name, s'.get? name =
        (values.get? name).elim (s.get? name) fun v => some (Value.merge (s.get? name) v) := by
  induction values generalizing s with
  | nil => exact ⟨s, rfl, fun name => rfl⟩
  | cons v values ih =>
    have hlower := hv.lower v (.head _)
    have hnodup := List.nodup_cons.1 hv.nodup
    obtain ⟨s', hs', hget⟩ := ih ⟨hnodup.2, fun e he => hv.lower e (.tail _ he)⟩
      (s.set v.1 (Value.merge (s.get? v.1) v.2))
    refine ⟨s', ?_, fun name => ?_⟩
    · rw [List.map_cons, assignAll_cons, Store.assign_eq, hlower]
      exact hs'
    · have hcons : Store.get? (v :: values) name =
          if name = v.1 then some v.2 else Store.get? values name :=
        lookup_cons v values name
      rw [hget, Store.get?_set, hcons]
      by_cases hname : name = v.1
      · -- no later value has this name
        subst hname
        have hnone : Store.get? values v.1 = none := List.lookup_eq_none_iff.2 fun e he =>
          bne_iff_ne.2 fun heq => hnodup.1 (List.mem_map.2 ⟨e, he, heq.symm⟩)
        rw [hnone, if_pos rfl, if_pos rfl]
        rfl
      · rw [if_neg hname, if_neg hname]

/-- A store that is put name by name over nothing reads as before. -/
theorem read_assignAll_names {values : Store} (hv : values.Regular) :
    ∃ s', assignAll [] (values.map fun v => (⟨v.1, []⟩, v.2)) = .ok s' ∧
      ∀ name, s'.read name = values.read name := by
  obtain ⟨s', hs', hget⟩ := assignAll_names hv []
  refine ⟨s', hs', fun name => ?_⟩
  rw [Store.read, hget, Store.read]
  cases values.get? name with
  | none => rfl
  | some v => exact congrArg some (Value.read_merge_none v)

end SinglePage.Settings
