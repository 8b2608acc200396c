/-
Which variables of the environment have a say in the settings. Two environments with the same variables
for the settings make up the same settings, unless another variable disturbs one of them, which makes it
an error: a variable that is no text, an index that names no place, or a variable that stands last below a
setting (`ofEnvironment_separate`).
-/
import SinglePage.Proofs.EnvModule.Export
import SinglePage.Proofs.Settings.Assignment

namespace SinglePage.Settings

open Text

/-! ## Variables -/

/-- The names of the settings, in the order they are read. -/
def names : List String :=
  ["listen_addr", "base_path", "static_dir", "index_file", "env_export_prefix", "log_level"]

/-- The name of the variable is that of a setting, once it is in lower case. -/
def isSetting (v : RawVariable) : Bool :=
  (Bytes.text? v.name).any fun name => lowerCase name ∈ names

/-- The key that the name of a variable spells. -/
def keyOf (name : String) : Key := variableKey (lowerCase name)

/-- The key of the variable leads to this name, or below it. -/
def leadsTo (name : String) (v : String × String) : Bool := lowerCase (keyOf v.1).name = name

/-- The variable that is put last at a name, or below it. -/
def last? (vars : List RawVariable) (name : String) : Option (String × String) :=
  ((textVariables vars).filter (leadsTo name)).getLast?

/-! ## Keys -/

theorem Key.eq_nil_of_steps? {fuel : Nat} {cs : List Char} (h : Key.steps? fuel cs = some []) : cs = [] := by
  unfold Key.steps? at h
  split at h
  · rfl
  · dsimp only at h
    split at h
    · cases h
    · simp at h
  · split at h
    · simp at h
    · cases h
  · cases h

/-- A key without steps is the name as a whole. -/
theorem variableKey_of_steps {name : String} (h : (variableKey name).steps = []) :
    variableKey name = ⟨name, []⟩ := by
  unfold variableKey at h ⊢
  cases hparse : Key.parse? name with
  | none => rfl
  | some key =>
    rw [hparse, Option.getD_some] at h
    rw [Option.getD_some]
    simp only [Key.parse?, Option.ite_none_left_eq_some, Option.map_eq_some_iff] at hparse
    obtain ⟨-, steps, hsteps, rfl⟩ := hparse
    obtain rfl : steps = [] := h
    have hall := List.takeWhile_append_dropWhile (p := Key.isNameChar) (l := name.toList)
    rw [Key.eq_nil_of_steps? hsteps, List.append_nil] at hall
    rw [hall, String.ofList_toList]

/-- The names of settings spell keys without steps. -/
theorem variableKey_of_mem_names : ∀ name ∈ names, variableKey name = ⟨name, []⟩ := by decide +kernel

/-- A variable with steps below its name is no setting. -/
theorem not_mem_names_of_mem_steps {name : String} {step : Step} (h : step ∈ (keyOf name).steps) :
    lowerCase name ∉ names := by
  intro hname
  rw [keyOf, variableKey_of_mem_names _ hname] at h
  exact List.not_mem_nil h

/-- What leads to a setting is the setting itself, or has steps below it. -/
theorem mem_names_iff_of_leadsTo {name : String} {v : String × String} (hname : name ∈ names)
    (hv : leadsTo name v = true) : lowerCase v.1 ∈ names ↔ (keyOf v.1).steps = [] := by
  constructor
  · intro h
    rw [keyOf, variableKey_of_mem_names _ h]
  · -- the key is the name as a whole, whose lower case does not change again
    intro h
    have hv : lowerCase (keyOf v.1).name = name := of_decide_eq_true hv
    rw [keyOf, variableKey_of_steps h, lowerCase_lowerCase] at hv
    exact hv ▸ hname

/-! ## Environments -/

variable {vars vars' : List RawVariable}

theorem textVariables_cons (v : RawVariable) (vars : List RawVariable) :
    textVariables (v :: vars) =
      match Bytes.text? v.name, Bytes.text? v.value with
      | some name, some value => (name, value) :: textVariables vars
      | _, _ => textVariables vars := by
  unfold textVariables
  cases hname : Bytes.text? v.name <;> cases hvalue : Bytes.text? v.value <;> simp [hname, hvalue]

/-- The variables with the name of a setting are those of the environment that holds them alone. -/
theorem textVariables_isSetting (vars : List RawVariable) :
    textVariables (vars.filter isSetting) =
      (textVariables vars).filter fun v => lowerCase v.1 ∈ names := by
  induction vars with
  | nil => rfl
  | cons v vars ih =>
    rw [textVariables_cons, List.filter_cons]
    cases hname : Bytes.text? v.name with
    | none => simp [isSetting, hname, ih]
    | some name =>
      cases hvalue : Bytes.text? v.value with
      | none =>
        by_cases h : lowerCase name ∈ names <;> simp [isSetting, hname, hvalue, h, textVariables_cons, ih]
      | some value =>
        by_cases h : lowerCase name ∈ names <;> simp [isSetting, hname, hvalue, h, textVariables_cons, ih]

/-- The variables are collected if all of them are text. -/
theorem collect_eq (vars : List RawVariable) :
    collect vars = if vars.all RawVariable.isText
      then .ok ((textVariables vars).map fun v => (lowerCase v.1, v.2)) else .error .notText := by
  induction vars with
  | nil => rfl
  | cons v vars ih =>
    rw [collect, List.mapM_cons, ← collect, ih, textVariables_cons, List.all_cons, RawVariable.isText]
    cases Bytes.text? v.name <;> cases Bytes.text? v.value <;> cases vars.all RawVariable.isText <;> rfl

/-- The texts that an environment puts at keys. -/
def assignments (vars : List RawVariable) : List (Key × String) :=
  (textVariables vars).map fun v => (keyOf v.1, v.2)

/-- An environment of texts is put variable by variable. -/
theorem assignVariables_eq (s : Store) (vars : List RawVariable) :
    assignVariables s vars = if vars.all RawVariable.isText
      then assignAll s ((assignments vars).map fun v => (v.1, .text v.2)) else .error .notText := by
  rw [assignVariables, collect_eq]
  split
  · show assignAll s _ = assignAll s _
    simp only [assignments, keyOf, List.map_map, Function.comp_def]
  · rfl

/-- What an environment puts at names is put, name by name, over nothing. -/
theorem build_environment (vars : List RawVariable) :
    build [.environment vars] = (assignVariables [] vars).bind fun s =>
      assignAll [] (s.map fun v => (⟨v.1, []⟩, v.2)) := by
  -- there are no defaults and no overrides, so their runs put nothing
  show ((assignVariables [] vars).bind Except.ok).bind
    (fun s => (assignAll [] (s.map fun v => (⟨v.1, []⟩, v.2))).bind Except.ok) = _
  cases assignVariables [] vars with
  | error e => rfl
  | ok s =>
    show (assignAll [] _).bind Except.ok = assignAll [] _
    cases assignAll [] (s.map fun v => (⟨v.1, []⟩, v.2)) <;> rfl

theorem getLast?_assignments (vars : List RawVariable) (name : String) :
    ((assignments vars).filter fun v => lowerCase v.1.name = name).getLast? =
      (last? vars name).map fun v => (keyOf v.1, v.2) := by
  have hleads : leadsTo name = fun v => decide (lowerCase (keyOf v.1).name = name) := rfl
  simp only [assignments, last?, hleads, List.filter_map, List.getLast?_map, Function.comp_def]

/-- What is read at a name is what the last variable makes of it that leads there. -/
theorem read_build {s : Store} (h : assignVariables [] vars = .ok s) :
    ∃ held, build [.environment vars] = .ok held ∧
      ∀ name, held.read name = (last? vars name).map fun v => (keyOf v.1).read v.2 := by
  have hassign := h
  rw [assignVariables_eq] at h
  split at h
  · obtain ⟨held, hheld, hread⟩ := read_assignAll_names (Store.regular_nil.assignAll h)
    refine ⟨held, ?_, fun name => ?_⟩
    · rw [build_environment, hassign, Except.bind]
      exact hheld
    · have hnone : Store.read [] name = none := rfl
      rw [hread, read_assignAll h, hnone, Option.or_none, getLast?_assignments, Option.map_map,
        Function.comp_def]
  · cases h

/-! ## Fields -/

/-- A setting is what is read at its name. -/
theorem field_eq (s : Store) (name default : String) :
    field s name default =
      match s.read name with
      | none => .ok default
      | some (.ok t) => .ok t
      | some (.error kind) => .error (.wrongKind kind name) := by
  unfold field Store.read
  cases s.get? name with
  | none => rfl
  | some v =>
    rw [Option.map_some, Value.read]
    dsimp only
    cases v.text? <;> rfl

/-- The error of a setting at whose name no text is read. -/
def fault? (s : Store) (name : String) : Option Error :=
  match s.read name with
  | some (.error kind) => some (.wrongKind kind name)
  | _ => none

theorem field_of_fault {s : Store} {name : String} {e : Error} (h : fault? s name = some e)
    (default : String) : field s name default = .error e := by
  rw [field_eq]
  unfold fault? at h
  split at h
  · cases h
    simp_all
  · cases h

theorem field_of_no_fault {s : Store} {name : String} (h : fault? s name = none) (default : String) :
    ∃ t, field s name default = .ok t := by
  rw [field_eq]
  unfold fault? at h
  split at h
  · cases h
  · next hno =>
    rcases hread : s.read name with _ | _ | t
    · exact ⟨default, rfl⟩
    · exact absurd hread (hno _)
    · exact ⟨t, rfl⟩

/-- Settings depend on nothing but what is read at their names. -/
theorem ofStore_congr {s t : Store} (h : ∀ name ∈ names, s.read name = t.read name) :
    ofStore s = ofStore t := by
  have hfield : ∀ name ∈ names, ∀ default, field s name default = field t name default :=
    fun name hname default => by rw [field_eq, field_eq, h name hname]
  simp only [names, List.forall_mem_cons] at hfield
  obtain ⟨h₁, h₂, h₃, h₄, h₅, h₆, -⟩ := hfield
  simp only [ofStore, h₁, h₂, h₃, h₄, h₅, h₆]

/-- A field is read before others: if none of them has its text, the first such fails the rest. -/
theorem bind_field_of_fault {α : Type} {s : Store} {name default : String} {rest : List String} {e : Error}
    {next : String → Except Error α} (h : (name :: rest).findSome? (fault? s) = some e)
    (hnext : rest.findSome? (fault? s) = some e → ∀ t, next t = .error e) :
    (field s name default >>= next) = .error e := by
  rw [List.findSome?_cons] at h
  split at h
  · next hfault =>
    cases h
    rw [field_of_fault hfault]
    rfl
  · next hfault =>
    obtain ⟨t, ht⟩ := field_of_no_fault hfault default
    rw [ht]
    exact hnext h t

/-- There are no settings where no text is read at one of their names; the first such name counts. -/
theorem ofStore_of_fault {s : Store} {e : Error} (h : names.findSome? (fault? s) = some e) :
    ofStore s = .error e := by
  unfold ofStore
  -- the fields are read in the order of `names`
  refine bind_field_of_fault h fun h _ => bind_field_of_fault h fun h _ => bind_field_of_fault h fun h _ =>
    bind_field_of_fault h fun h _ => bind_field_of_fault h fun h _ => bind_field_of_fault h fun h _ => ?_
  cases h

/-! ## Disturbance -/

/-- The error at the name of a setting if the variable put last there has steps below it. -/
def below? (vars : List RawVariable) (name : String) : Option Error :=
  (last? vars name).bind fun v => (keyOf v.1).steps.head?.map fun step => .wrongKind step.kind name

/-- The error that the variables make before any setting is looked at: they cannot be put, or one of them
stands last below a setting. -/
def disturbance? (vars : List RawVariable) : Option Error :=
  match assignVariables [] vars with
  | .error e => some e
  | .ok _ => names.findSome? (below? vars)

/-- A variable makes an error of its environment, although it is no setting, or no text. -/
inductive Disturbs (vars : List RawVariable) : Error → Prop where
  | notText {v : RawVariable} (hv : v ∈ vars) (htext : v.isText = false) : Disturbs vars .notText
  | noSuchPlace {v : String × String} {i : Int} (hv : v ∈ textVariables vars)
      (hother : lowerCase v.1 ∉ names) (hi : .index i ∈ (keyOf v.1).steps)
      (hout : i < 0 ∨ (Value.maxLength : Int) ≤ i) : Disturbs vars .noSuchPlace
  | below {name : String} {v : String × String} {step : Step} {steps : List Step} (hname : name ∈ names)
      (hv : last? vars name = some v) (hother : lowerCase v.1 ∉ names)
      (hsteps : (keyOf v.1).steps = step :: steps) : Disturbs vars (.wrongKind step.kind name)

theorem fault?_eq_below? {held : Store}
    (h : ∀ name, held.read name = (last? vars name).map fun v => (keyOf v.1).read v.2) :
    fault? held = below? vars := by
  funext name
  rw [fault?, h, below?]
  cases last? vars name with
  | none => rfl
  | some v =>
    rw [Option.map_some, Option.bind_some, Key.read]
    cases (keyOf v.1).steps <;> rfl

/-- A disturbed environment makes up no settings. -/
theorem ofEnvironment_of_disturbance {e : Error} (h : disturbance? vars = some e) :
    ofEnvironment vars = .error e := by
  unfold disturbance? at h
  split at h
  · next e' hassign =>
    cases h
    rw [ofEnvironment, ofLayers, build_environment, hassign]
    rfl
  · next s hassign =>
    obtain ⟨held, hbuild, hread⟩ := read_build hassign
    rw [← fault?_eq_below? hread] at h
    rw [ofEnvironment, ofLayers, hbuild]
    show (ofStore held >>= _) = _
    rw [ofStore_of_fault h]
    rfl

/-- What disturbs an environment is one of its variables that is no setting, or no text. -/
theorem disturbs_of_disturbance {e : Error} (h : disturbance? vars = some e) : Disturbs vars e := by
  unfold disturbance? at h
  split at h
  · next e' hassign =>
    cases h
    rw [assignVariables_eq] at hassign
    split at hassign
    · obtain ⟨rfl, w, hw, i, hi, hout⟩ := assignAll_error hassign
      obtain ⟨p, hp, rfl⟩ := List.mem_map.1 hw
      obtain ⟨v, hv, rfl⟩ := List.mem_map.1 hp
      exact .noSuchPlace hv (not_mem_names_of_mem_steps hi) hi hout
    · next hall =>
      cases hassign
      simp only [List.all_eq_true, not_forall, Bool.not_eq_true] at hall
      obtain ⟨v, hv, htext⟩ := hall
      exact .notText hv htext
  · next s hassign =>
    obtain ⟨name, hname, hbelow⟩ := List.exists_of_findSome?_eq_some h
    simp only [below?, Option.bind_eq_some_iff, Option.map_eq_some_iff] at hbelow
    obtain ⟨v, hv, step, hstep, rfl⟩ := hbelow
    obtain ⟨steps, hsteps⟩ := List.head?_eq_some_iff.1 hstep
    exact .below hname hv (not_mem_names_of_mem_steps (hsteps ▸ List.mem_cons_self)) hsteps

/-- Variables that are text, and whose names spell no steps, disturb nothing. -/
theorem disturbance?_eq_none (htext : ∀ v ∈ vars, v.isText = true)
    (hplain : ∀ v ∈ textVariables vars, (keyOf v.1).steps = []) : disturbance? vars = none := by
  cases h : disturbance? vars with
  | none => rfl
  | some e =>
    cases disturbs_of_disturbance h with
    | notText hv hno => rw [htext _ hv] at hno; cases hno
    | noSuchPlace hv _ hi _ => rw [hplain _ hv] at hi; cases hi
    | below _ hv _ hsteps =>
      have hmem := (List.mem_filter.1 (List.mem_of_getLast? hv)).1
      rw [hplain _ hmem] at hsteps
      cases hsteps

/-- An undisturbed environment has, at the name of a setting, the variable of the settings alone. -/
theorem last?_isSetting (h : disturbance? vars = none) {name : String} (hname : name ∈ names) :
    last? (vars.filter isSetting) name = last? vars name := by
  have hbelow : below? vars name = none := by
    unfold disturbance? at h
    split at h
    · cases h
    · exact List.findSome?_eq_none_iff.1 h name hname
  rw [last?, textVariables_isSetting, List.filter_comm]
  cases hlast : last? vars name with
  | none =>
    rw [List.getLast?_eq_none_iff.1 hlast]
    rfl
  | some v =>
    rw [below?, hlast, Option.bind_some, Option.map_eq_none_iff, List.head?_eq_none_iff] at hbelow
    obtain ⟨earlier, hearlier⟩ := List.getLast?_eq_some_iff.1 hlast
    have hleads : leadsTo name v = true :=
      (List.mem_filter.1 (hearlier ▸ List.mem_append_right _ List.mem_cons_self)).2
    have hsetting := (mem_names_iff_of_leadsTo hname hleads).2 hbelow
    -- so what stands last is a setting, and stands last among these too
    have hself : [v].filter (fun v => decide (lowerCase v.1 ∈ names)) = [v] :=
      List.filter_cons_of_pos (decide_eq_true hsetting)
    rw [hearlier, List.filter_append, hself, List.getLast?_concat]

/-- What is read at the names of settings in an undisturbed environment is what the variables of the
settings make of them. -/
theorem read_build_of_undisturbed (h : disturbance? vars = none) :
    ∃ held, build [.environment vars] = .ok held ∧ ∀ name ∈ names,
      held.read name = (last? (vars.filter isSetting) name).map fun v => (keyOf v.1).read v.2 := by
  cases hassign : assignVariables [] vars with
  | error e => simp [disturbance?, hassign] at h
  | ok s =>
    obtain ⟨held, hheld, hread⟩ := read_build hassign
    exact ⟨held, hheld, fun name hname => by rw [last?_isSetting h hname, hread]⟩

/-- Two environments with the same variables for the settings make up the same settings, or none for the
same reason, unless one of them is disturbed by another variable, which makes it an error. -/
theorem ofEnvironment_separate (h : vars.filter isSetting = vars'.filter isSetting) :
    (disturbance? vars = none → disturbance? vars' = none → ofEnvironment vars = ofEnvironment vars') ∧
      (∀ e, disturbance? vars = some e → ofEnvironment vars = .error e ∧ Disturbs vars e) := by
  refine ⟨fun hnone hnone' => ?_,
    fun e he => ⟨ofEnvironment_of_disturbance he, disturbs_of_disturbance he⟩⟩
  obtain ⟨held, hheld, hread⟩ := read_build_of_undisturbed hnone
  obtain ⟨held', hheld', hread'⟩ := read_build_of_undisturbed hnone'
  have hsame : ofStore held = ofStore held' :=
    ofStore_congr fun name hname => by rw [hread name hname, hread' name hname, h]
  rw [ofEnvironment, ofEnvironment, ofLayers, ofLayers, hheld, hheld']
  show (ofStore held >>= _) = (ofStore held' >>= _)
  rw [hsame]

/-- A variable that has nothing to do with the settings leaves the defaults alone, and one below the base
path, which is no setting either, makes an error of them. -/
theorem ofEnvironment_separate_nested :
    let other : RawVariable := ⟨Bytes.ofText "HOME", Bytes.ofText "/root"⟩
    let nested : RawVariable := ⟨Bytes.ofText "BASE_PATH.X", Bytes.ofText "1"⟩
    [other].filter isSetting = [nested].filter isSetting ∧ ofEnvironment [other] = .ok {} ∧
      ofEnvironment [nested] = .error (.wrongKind "map" "base_path") := by
  intro other nested
  have hother : isSetting other = false := by decide +kernel
  have hnested : isSetting nested = false := by decide +kernel
  have hsame : [other].filter isSetting = [nested].filter isSetting := by simp [hother, hnested]
  have halone : [other].filter isSetting = [].filter isSetting := by simp [hother]
  have hdefault : ofEnvironment [] = .ok {} := by decide +kernel
  refine ⟨hsame, ?_, ?_⟩
  · exact ((ofEnvironment_separate halone).1 (by decide +kernel) (by decide +kernel)).trans hdefault
  · exact ((ofEnvironment_separate hsame.symm).2 _ (by decide +kernel)).1

end SinglePage.Settings
