/-
What the script of variables exports. Its object reads back as the variables that are selected: each name
that starts with the given text once, with the last value it has, in the order of the bytes of the names.
Scripts are equal exactly if the selected variables are, so nothing else shows in them (`body_export`).
-/
import SinglePage.EnvModule
import SinglePage.Entries
import SinglePage.Proofs.Bytes.Order
import SinglePage.Proofs.Json.Object
import Mathlib.Data.List.Nodup
import Mathlib.Data.List.Basic

namespace SinglePage

theorem Bytes.ofText_injective : Function.Injective Bytes.ofText := by
  intro a b h
  have ha := Bytes.text?_ofText a
  rw [h, Bytes.text?_ofText, Option.some.injEq] at ha
  exact ha.symm

/-- The name and the value are texts. -/
def RawVariable.isText (v : RawVariable) : Bool :=
  (Bytes.text? v.name).isSome && (Bytes.text? v.value).isSome

namespace EnvModule

/-- The value exported under a name: the last one it has, if the name starts with `start`. -/
def selected (start : String) (vars : List (String × String)) (name : String) : Option String :=
  if start.toList <+: name.toList then vars.reverse.lookup name else none

/-! ## Sorted entries -/

/-- The names increase, so each of them stands for one entry. -/
def Increasing (entries : List (String × String)) : Prop := entries.Pairwise fun e f => e.1 < f.1

theorem Increasing.nodup_names {entries : List (String × String)} (h : Increasing entries) :
    (entries.map Prod.fst).Nodup :=
  List.pairwise_map.2 (h.imp ne_of_lt)

theorem mem_insert {name value : String} {entries : List (String × String)} {e : String × String}
    (h : e ∈ insert name value entries) : e = (name, value) ∨ e ∈ entries := by
  fun_induction insert name value entries with
  | case1 => simpa using h
  | case2 => simpa using h
  | case3 => grind
  | case4 f rest _ _ ih => grind

theorem increasing_insert (name value : String) {entries : List (String × String)} (h : Increasing entries) :
    Increasing (insert name value entries) := by
  fun_induction insert name value entries with
  | case1 => exact List.pairwise_singleton _ _
  | case2 e rest hlt =>
    refine List.pairwise_cons.2 ⟨fun f hf => ?_, h⟩
    rcases List.mem_cons.1 hf with rfl | hf
    · exact hlt
    · exact hlt.trans (List.rel_of_pairwise_cons h hf)
  | case3 e rest _ heq =>
    exact List.pairwise_cons.2 ⟨fun f hf => heq ▸ List.rel_of_pairwise_cons h hf, h.of_cons⟩
  | case4 e rest hlt hne ih =>
    refine List.pairwise_cons.2 ⟨fun f hf => ?_, ih h.of_cons⟩
    rcases mem_insert hf with rfl | hf
    · exact lt_of_le_of_ne (not_lt.1 hlt) (Ne.symm hne)
    · exact List.rel_of_pairwise_cons h hf

/-- A variable that is inserted has its value, and all other names keep theirs. -/
theorem lookup_insert (name value key : String) (entries : List (String × String)) :
    (insert name value entries).lookup key = if key = name then some value else entries.lookup key := by
  fun_induction insert name value entries with
  | case1 => exact lookup_cons (name, value) [] key
  | case2 => exact lookup_cons (name, value) _ key
  | case3 e rest _ heq =>
    rw [lookup_cons, lookup_cons, ← heq]
    split <;> rfl
  | case4 e rest _ hne ih =>
    rw [lookup_cons, lookup_cons, ih]
    by_cases h : key = name
    · rw [if_neg (h ▸ hne), if_pos h, if_pos h]
    · rw [if_neg h, if_neg h]

theorem lookup_eq_some_iff_mem {vars : List (String × String)} (h : (vars.map Prod.fst).Nodup)
    {name value : String} : vars.lookup name = some value ↔ (name, value) ∈ vars := by
  induction vars generalizing value with
  | nil => simp
  | cons v vars ih =>
    rw [List.map_cons, List.nodup_cons] at h
    rw [lookup_cons, List.mem_cons, ← ih h.2, Prod.ext_iff]
    by_cases hname : name = v.1
    · have hnone : vars.lookup name = none := by
        rw [Option.eq_none_iff_forall_ne_some]
        intro other hother
        exact h.1 (hname ▸ List.mem_map_of_mem ((ih h.2).1 hother))
      rw [if_pos hname, hnone]
      simp [hname, eq_comm]
    · simp [hname]

/-- Sorted entries are told apart by what they hold. -/
theorem Increasing.eq_of_lookup {entries entries' : List (String × String)} (h : Increasing entries)
    (h' : Increasing entries') (hlookup : ∀ name, entries.lookup name = entries'.lookup name) :
    entries = entries' := by
  have hmem : ∀ e, e ∈ entries ↔ e ∈ entries' := by
    rintro ⟨name, value⟩
    rw [← lookup_eq_some_iff_mem h.nodup_names, hlookup, lookup_eq_some_iff_mem h'.nodup_names]
  have hperm : entries.Perm entries' :=
    (List.perm_ext_iff_of_nodup h.nodup_names.of_map h'.nodup_names.of_map).2 hmem
  exact hperm.eq_of_pairwise (fun e f _ _ hef hfe => absurd (hef.trans hfe) (lt_irrefl _)) h h'

/-! ## The variables of a list -/

theorem increasing_ofVariables (start : String) (vars : List (String × String)) :
    Increasing (ofVariables start vars).entries := by
  unfold ofVariables
  generalize vars.filter _ = vars
  -- each variable keeps the order of the entries, whatever they are before it
  suffices h : ∀ entries, Increasing entries →
      Increasing (vars.foldl (fun entries v => insert v.1 v.2 entries) entries) from h [] List.Pairwise.nil
  induction vars with
  | nil => exact fun entries h => h
  | cons v vars ih => exact fun entries h => ih _ (increasing_insert v.1 v.2 h)

/-- The last value of a name stays. -/
theorem lookup_foldl_insert (key : String) (vars entries : List (String × String)) :
    (vars.foldl (fun entries v => insert v.1 v.2 entries) entries).lookup key =
      (vars.reverse.lookup key).or (entries.lookup key) := by
  induction vars generalizing entries with
  | nil => rfl
  | cons v vars ih =>
    rw [List.foldl_cons, ih, lookup_insert, List.reverse_cons, List.lookup_append, Option.or_assoc, lookup_cons]
    congr 1
    split <;> rfl

theorem lookup_filter_names (p : String → Bool) (vars : List (String × String)) (name : String) :
    (vars.filter fun v => p v.1).lookup name = if p name then vars.lookup name else none := by
  induction vars with
  | nil => simp
  | cons v vars ih =>
    rw [List.filter_cons, lookup_cons]
    by_cases h : name = v.1
    · subst h
      by_cases hp : p v.1 = true
      · rw [if_pos hp, if_pos hp, lookup_cons, if_pos rfl, if_pos rfl]
      · rw [if_neg hp, ih, if_neg hp, if_neg hp]
    · rw [if_neg h, ← ih]
      split
      · rw [lookup_cons, if_neg h]
      · rfl

theorem lookup_ofVariables (start : String) (vars : List (String × String)) (name : String) :
    (ofVariables start vars).entries.lookup name = selected start vars name := by
  unfold ofVariables selected
  rw [lookup_foldl_insert, List.lookup_nil, Option.or_none, ← List.filter_reverse,
    lookup_filter_names fun name => start.toList.isPrefixOf name.toList]
  simp only [List.isPrefixOf_iff_prefix]

/-! ## The script -/

theorem body_eq (m : EnvModule) :
    m.body = Bytes.ofText ("export const env=" ++ String.ofList (Json.object m.entries)) := rfl

theorem body_injective : Function.Injective body := by
  intro m m' h
  have hscript : heading ++ String.ofList (Json.object m.entries) = heading ++ String.ofList (Json.object m'.entries) :=
    Bytes.ofText_injective h
  have hentries := Json.object_injective (String.ofList_injective ((String.append_right_inj heading).1 hscript))
  cases m
  exact congrArg EnvModule.mk hentries

/-- Scripts are equal if and only if the same values are selected for the same names. -/
theorem body_eq_iff (start start' : String) (vars vars' : List (String × String)) :
    (ofVariables start vars).body = (ofVariables start' vars').body ↔ selected start vars = selected start' vars' := by
  rw [body_injective.eq_iff]
  constructor
  · intro h
    funext name
    rw [← lookup_ofVariables, h, lookup_ofVariables]
  · intro h
    -- sorted entries hold nothing but the values of their names
    have hentries : (ofVariables start vars).entries = (ofVariables start' vars').entries := by
      apply (increasing_ofVariables start vars).eq_of_lookup (increasing_ofVariables start' vars')
      intro name
      rw [lookup_ofVariables, lookup_ofVariables, h]
    exact congrArg EnvModule.mk hentries

theorem isEmpty_iff (m : EnvModule) : m.isEmpty = true ↔ m.body = Bytes.ofText "export const env=\x7b\x7d" := by
  have hempty : Bytes.ofText "export const env=\x7b\x7d" = empty.body := by decide
  rw [hempty, body_injective.eq_iff, isEmpty, List.isEmpty_iff]
  exact ⟨congrArg EnvModule.mk, congrArg entries⟩

/-! ## What does not show -/

theorem selected_eq_of_perm (start : String) {vars vars' : List (String × String)} (h : vars.Perm vars')
    (hnodup : (vars.map Prod.fst).Nodup) : selected start vars = selected start vars' := by
  have hnodup' : (vars'.map Prod.fst).Nodup := (h.map Prod.fst).nodup_iff.1 hnodup
  funext name
  unfold selected
  congr 1
  -- a name that has one value only has it wherever it stands
  ext value
  rw [lookup_eq_some_iff_mem (by rwa [List.map_reverse, List.nodup_reverse]), List.mem_reverse, h.mem_iff,
    lookup_eq_some_iff_mem (by rwa [List.map_reverse, List.nodup_reverse]), List.mem_reverse]

theorem textVariables_filter_isText (env : List RawVariable) :
    textVariables (env.filter RawVariable.isText) = textVariables env := by
  unfold textVariables
  rw [List.filterMap_filter]
  congr 1
  funext v
  rcases hname : Bytes.text? v.name with _ | name
  · simp [RawVariable.isText, hname]
  · rcases hvalue : Bytes.text? v.value with _ | value
    · simp [RawVariable.isText, hname, hvalue]
    · simp [RawVariable.isText, hname, hvalue]

theorem capture_body_eq (start : String) {env env' : List RawVariable}
    (h : env.filter RawVariable.isText = env'.filter RawVariable.isText) :
    (capture start env).body = (capture start env').body := by
  unfold capture
  rw [← textVariables_filter_isText env, h, textVariables_filter_isText]

/-! ## The export -/

/-- The script is `export const env=` and an object of texts. The object holds the selected variables, each
name once with the last value it has, by increasing bytes of the names. Two scripts are equal if and only
if the selected variables are. So neither the order of different variables shows, nor a variable with
another name, nor one of an environment that is no text. -/
theorem body_export (start : String) (vars : List (String × String)) :
    (∃ text entries,
      (ofVariables start vars).body = Bytes.ofText ("export const env=" ++ String.ofList text) ∧
      Json.readObject? text = some entries ∧
      (∀ name value, (name, value) ∈ entries ↔ selected start vars name = some value) ∧
      entries.Pairwise (fun e f => Bytes.ofText e.1 < Bytes.ofText f.1) ∧
      (ofVariables start vars).size = entries.length) ∧
    ((ofVariables start vars).isEmpty = true ↔
      (ofVariables start vars).body = Bytes.ofText "export const env=\x7b\x7d") ∧
    (∀ start' vars', (ofVariables start vars).body = (ofVariables start' vars').body ↔
      selected start vars = selected start' vars') ∧
    (∀ vars', vars.Perm vars' → (vars.map Prod.fst).Nodup →
      (ofVariables start vars).body = (ofVariables start vars').body) ∧
    (∀ vars', (vars.filter fun v => start.toList.isPrefixOf v.1.toList) =
        (vars'.filter fun v => start.toList.isPrefixOf v.1.toList) →
      (ofVariables start vars).body = (ofVariables start vars').body) ∧
    (∀ env env', env.filter RawVariable.isText = env'.filter RawVariable.isText →
      (capture start env).body = (capture start env').body) := by
  have hsorted := increasing_ofVariables start vars
  refine ⟨⟨_, _, body_eq _, Json.readObject?_object _, ?_, ?_, rfl⟩, isEmpty_iff _,
    fun start' vars' => body_eq_iff start start' vars vars', ?_, ?_, ?_⟩
  · intro name value
    rw [← lookup_ofVariables, lookup_eq_some_iff_mem hsorted.nodup_names]
  · exact hsorted.imp Bytes.ofText_lt
  · intro vars' hperm hnodup
    rw [body_eq_iff]
    exact selected_eq_of_perm start hperm hnodup
  · intro vars' hfilter
    unfold ofVariables
    rw [hfilter]
  · intro env env' henv
    exact capture_body_eq start henv

/-- Order, another name and a value that is no text do not show. -/
theorem body_export_unseen :
    let vars := [("P_b", "say \"hi\"\n\x01"), ("SECRET", "s"), ("P_😀", "\\")]
    let b : RawVariable := ⟨Bytes.ofText "P_b", Bytes.ofText "1"⟩
    let c : RawVariable := ⟨Bytes.ofText "P_c", [0xff]⟩
    (ofVariables "P_" vars).body = (ofVariables "P_" vars.reverse).body ∧
    (ofVariables "P_" vars).body = (ofVariables "P_" [("P_b", "say \"hi\"\n\x01"), ("P_😀", "\\")]).body ∧
    (capture "P_" [b, c]).body = (capture "P_" [b]).body := by
  intro vars b c
  obtain ⟨-, -, -, horder, hname, henv⟩ := body_export "P_" vars
  refine ⟨horder _ (List.reverse_perm vars).symm (by decide), hname _ (by decide), henv _ _ ?_⟩
  have hb : b.isText = true := by
    simp [RawVariable.isText, b, Bytes.text?_ofText]
  have hc : c.isText = false := by
    have hvalue : Bytes.text? [0xff] = none := by decide +kernel
    simp [RawVariable.isText, c, hvalue]
  simp [hb, hc]

example : (ofVariables "P_" [("P_b", "1"), ("P_a", "\"\n"), ("SECRET", "s"), ("P_b", "2")]).body =
    Bytes.ofText "export const env=\x7b\"P_a\":\"\\\"\\n\",\"P_b\":\"2\"\x7d" := by decide +kernel

end EnvModule

end SinglePage
