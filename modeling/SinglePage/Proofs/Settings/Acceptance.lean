/-
Which settings are accepted, told from their texts alone. Layers that make up six texts give settings
exactly if these are usable: there is an address, the base path has its slash, nothing needed is blank,
and the root document starts with a name and leads up nowhere. Such settings have all that a server asks
of them: its root document lies strictly below whatever directory it is put in
(`ofLayers_accepts_usable`). Every six texts are made up by layers (`build_overrides`).
-/
import SinglePage.Proofs.DiskPath.Components
import SinglePage.Proofs.Settings.Separation
import SinglePage.Proofs.Settings.Validation

namespace SinglePage.Settings

open Text DiskPath

/-! ## Overrides -/

/-- The values of settings by name. -/
def toStore (s : Settings) : Store :=
  [("listen_addr", .text s.listenAddr), ("base_path", .text s.basePath),
    ("static_dir", .text s.staticDir), ("index_file", .text s.indexFile),
    ("env_export_prefix", .text s.envExportPrefix), ("log_level", .text s.logLevel)]

/-- The layers that override each setting. -/
def overrides (s : Settings) : List Layer := s.toStore.map fun v => .override ⟨v.1, []⟩ v.2

theorem regular_toStore (s : Settings) : s.toStore.Regular := by
  have hnames : s.toStore.map (·.1) = names := rfl
  refine ⟨hnames ▸ by decide, fun v hv => ?_⟩
  have hlower : ∀ name ∈ names, lowerCase name = name := by decide +kernel
  exact hlower v.1 (hnames ▸ List.mem_map_of_mem hv)

theorem ofStore_toStore (s : Settings) : ofStore s.toStore = .ok s := rfl

theorem foldl_keep_of_nodup {values kept : List (Key × Value)}
    (h : ((values.reverse ++ kept).map Prod.fst).Nodup) :
    values.foldl (fun kept v => if kept.any (·.1 = v.1) then kept else v :: kept) kept =
      values.reverse ++ kept := by
  induction values generalizing kept with
  | nil => rfl
  | cons v values ih =>
    rw [List.reverse_cons, List.append_assoc, List.singleton_append] at h ⊢
    have hnew : kept.any (·.1 = v.1) = false := by
      rw [List.map_append, List.map_cons] at h
      have hv := (List.nodup_cons.1 (List.nodup_append.1 h).2.1).1
      exact List.any_eq_false.2 fun w hw heq => hv (List.mem_map.2 ⟨w, hw, of_decide_eq_true heq⟩)
    rw [List.foldl_cons, hnew, if_neg Bool.false_ne_true, ih h]

/-- Values at different keys are the last ones there. -/
theorem lastValues_of_nodup {values : List (Key × Value)} (h : (values.map Prod.fst).Nodup) :
    lastValues values = values := by
  have hall : ((values.reverse.reverse ++ []).map Prod.fst).Nodup := by
    rwa [List.reverse_reverse, List.append_nil]
  rw [lastValues, foldl_keep_of_nodup hall, List.reverse_reverse, List.append_nil]

/-- Overrides are put over nothing where there are no other layers. -/
theorem build_overriding (values : List (Key × Value)) :
    build (values.map fun v => .override v.1 v.2) = assignAll [] (lastValues values) := by
  have hnone {α : Type} {f : Layer → Option α} (h : ∀ key value, f (.override key value) = none) :
      (values.map fun v => Layer.override v.1 v.2).filterMap f = [] := by
    rw [List.filterMap_map, List.filterMap_eq_nil_iff]
    exact fun v _ => h v.1 v.2
  unfold build
  rw [hnone fun _ _ => rfl, hnone fun _ _ => rfl, List.filterMap_map]
  show assignAll [] (lastValues (values.filterMap some)) = _
  rw [List.filterMap_some]

/-- Any settings are made up by layers, whatever their texts are. -/
theorem build_overrides (s : Settings) : (build s.overrides >>= ofStore) = .ok s := by
  let values : List (Key × Value) := s.toStore.map fun v => (⟨v.1, []⟩, v.2)
  have hnodup : (values.map Prod.fst).Nodup := by
    have hkeys : values.map Prod.fst = names.map fun name => ⟨name, []⟩ := rfl
    rw [hkeys]
    decide
  have hbuild : build s.overrides = assignAll [] values := by
    have hlayers : s.overrides = values.map fun v => .override v.1 v.2 := rfl
    rw [hlayers, build_overriding, lastValues_of_nodup hnodup]
  obtain ⟨held, hheld, hread⟩ := read_assignAll_names s.regular_toStore
  rw [hbuild, hheld]
  show ofStore held = .ok s
  rw [ofStore_congr fun name _ => hread name, ofStore_toStore]

/-! ## Usable settings -/

/-- What makes settings usable, in terms of their texts. -/
structure IsUsable (s : Settings) : Prop where
  address : ∃ address, SocketAddress.parse? s.listenAddr = some address
  basePath : s.basePath = "/" ∨
    s.basePath.toList.head? = some '/' ∧ s.basePath.toList.getLast? ≠ some '/'
  staticDir : ∃ c ∈ s.staticDir.toList, isBlankChar c = false
  indexFile : ∃ c ∈ s.indexFile.toList, isBlankChar c = false
  exportPrefix : ∃ c ∈ s.envExportPrefix.toList, isBlankChar c = false
  startsWithName : StartsWithName s.indexFile
  staysBelow : ".." ∉ FileTree.segments s.indexFile

theorem isBlank_eq_false_iff {text : String} :
    isBlank text = false ↔ ∃ c ∈ text.toList, isBlankChar c = false := by
  unfold isBlank
  simp only [List.all_eq_false, Bool.not_eq_true]

variable {s : Settings}

theorem socketAddress_ok_iff : (∃ address, s.socketAddress = .ok address) ↔
    ∃ address, SocketAddress.parse? s.listenAddr = some address := by
  unfold socketAddress
  cases SocketAddress.parse? s.listenAddr with
  | none => exact iff_of_false nofun nofun
  | some address => exact iff_of_true ⟨_, rfl⟩ ⟨_, rfl⟩

/-- A base path of one character, or without a slash behind it, is the slash alone or ends otherwise. -/
theorem basePath_iff {path : String} :
    (path.toList.head? = some '/' ∧ (path.length ≤ 1 ∨ path.toList.getLast? ≠ some '/')) ↔
      path = "/" ∨ path.toList.head? = some '/' ∧ path.toList.getLast? ≠ some '/' := by
  constructor
  · rintro ⟨hhead, hlength | hlast⟩
    · obtain ⟨cs, hcs⟩ := List.head?_eq_some_iff.1 hhead
      rw [← String.length_toList, hcs, List.length_cons] at hlength
      obtain rfl : cs = [] := List.eq_nil_of_length_eq_zero (by omega)
      exact .inl (String.toList_inj.1 hcs)
    · exact .inr ⟨hhead, hlast⟩
  · rintro (rfl | ⟨hhead, hlast⟩)
    · exact ⟨by decide, .inl (by decide)⟩
    · exact ⟨hhead, .inr hlast⟩

/-- The checks let exactly the usable settings pass. That no text is blank also keeps out the empty root
document, which is made of names as it has no component. -/
theorem validate_ok_iff_isUsable : s.validate = .ok () ↔ s.IsUsable := by
  rw [validate_ok_iff]
  have hindex (hblank : isBlank s.indexFile = false) :
      (∀ c ∈ components s.indexFile, c.isName = true) ↔
        StartsWithName s.indexFile ∧ ".." ∉ FileTree.segments s.indexFile :=
    forall_isName_iff fun hempty => by rw [hempty] at hblank; exact absurd hblank (by decide)
  constructor
  · intro h
    obtain ⟨hstart, hup⟩ := (hindex h.indexFile).1 h.inside
    exact ⟨socketAddress_ok_iff.1 h.address, basePath_iff.1 ⟨h.basePath_head, h.basePath_last⟩,
      isBlank_eq_false_iff.1 h.staticDir, isBlank_eq_false_iff.1 h.indexFile,
      isBlank_eq_false_iff.1 h.exportPrefix, hstart, hup⟩
  · intro h
    obtain ⟨hhead, hlast⟩ := basePath_iff.2 h.basePath
    have hblank := isBlank_eq_false_iff.2 h.indexFile
    exact ⟨socketAddress_ok_iff.2 h.address, hhead, hlast, isBlank_eq_false_iff.2 h.staticDir, hblank,
      isBlank_eq_false_iff.2 h.exportPrefix, (hindex hblank).2 ⟨h.startsWithName, h.staysBelow⟩⟩

/-- What is cut off all request paths has a slash in front and none behind. -/
theorem IsUsable.mountPath (h : s.IsUsable) {mount : String} (hm : s.mountPath? = some mount) :
    mount.toList.head? = some '/' ∧ mount.toList.getLast? ≠ some '/' := by
  unfold mountPath? at hm
  split at hm
  · cases hm
  · next hne =>
    cases hm
    exact h.basePath.resolve_left hne

/-- A root document is found by its names below any directory. -/
theorem IsUsable.components_join (h : s.IsUsable) (root : String) :
    components (join root s.indexFile) = components root ++ (DiskPath.names s.indexFile).map .name := by
  rw [DiskPath.components_join h.startsWithName,
    (components_eq_names h.startsWithName h.staysBelow).2]

/-! ## Acceptance -/

/-- Layers whose texts are known make up settings exactly if these pass the checks. -/
theorem ofLayers_eq {layers : List Layer} (h : (build layers >>= ofStore) = .ok s) :
    ofLayers layers = s.validate.map fun _ => s := by
  have hsplit : ofLayers layers = (build layers >>= ofStore) >>= fun s => s.validate.map fun _ => s := by
    unfold ofLayers
    rw [bind_assoc]
    rfl
  rw [hsplit, h]
  rfl

/-- Every six texts are those of some layers, and layers with these texts are accepted exactly if the
texts are usable. What is accepted keeps them, has an address and a base path to serve at, and its root
document is found by one name or more below any directory; a root document that is absolute, or that has
a segment that leads up anywhere, is refused. -/
theorem ofLayers_accepts_usable (s : Settings) :
    (build s.overrides >>= ofStore) = .ok s ∧
    ∀ layers : List Layer, (build layers >>= ofStore) = .ok s →
      ((∃ made, ofLayers layers = .ok made) ↔ s.IsUsable) ∧
      (∀ made, ofLayers layers = .ok made → made = s ∧
        (∃ address, s.socketAddress = .ok address) ∧
        (∀ mount, s.mountPath? = some mount →
          mount.toList.head? = some '/' ∧ mount.toList.getLast? ≠ some '/') ∧
        DiskPath.names s.indexFile ≠ [] ∧
        ∀ root, components (join root s.indexFile) =
          components root ++ (DiskPath.names s.indexFile).map .name) ∧
      (isAbsolute s.indexFile = true ∨ ".." ∈ FileTree.segments s.indexFile →
        ∃ e, ofLayers layers = .error e) := by
  refine ⟨build_overrides s, fun layers hlayers => ?_⟩
  rw [ofLayers_eq hlayers, ← validate_ok_iff_isUsable]
  cases hv : s.validate with
  | ok =>
    have hs : s.IsUsable := validate_ok_iff_isUsable.1 hv
    refine ⟨iff_of_true ⟨s, rfl⟩ rfl, fun made hmade => ?_, fun hout => ?_⟩
    · cases hmade
      exact ⟨rfl, socketAddress_ok_iff.2 hs.address, fun _ => hs.mountPath,
        (components_eq_names hs.startsWithName hs.staysBelow).1, hs.components_join⟩
    · rcases hout with habs | hup
      · exact absurd habs (by rw [isAbsolute_of_startsWithName hs.startsWithName]; exact Bool.false_ne_true)
      · exact absurd hup hs.staysBelow
  | error e => exact ⟨iff_of_false nofun nofun, nofun, fun _ => ⟨e, rfl⟩⟩

/-- A root document behind needless slashes and dots is accepted, and one that leads up and down again is
not. -/
theorem ofLayers_accepts_usable_spelled :
    let s : Settings := { basePath := "/", indexFile := "pages//./x.html/" }
    let up : Settings := { indexFile := "pages/../x.html" }
    (∃ made, ofLayers s.overrides = .ok made) ∧
      components (join "srv//www/" s.indexFile) =
        [.name "srv", .name "www", .name "pages", .name "x.html"] ∧
      ∃ e, ofLayers up.overrides = .error e := by
  intro s up
  have haccept := (ofLayers_accepts_usable s).2 s.overrides (build_overrides s)
  have hrefuse := (ofLayers_accepts_usable up).2 up.overrides (build_overrides up)
  have hs : s.IsUsable :=
    { address := Option.isSome_iff_exists.1 (by decide +kernel)
      basePath := .inl rfl
      staticDir := ⟨'b', by decide, by decide⟩
      indexFile := ⟨'p', by decide, by decide⟩
      exportPrefix := ⟨'P', by decide, by decide⟩
      startsWithName := ⟨"pages", by decide +kernel, by decide⟩
      staysBelow := by decide +kernel }
  obtain ⟨made, hmade⟩ := haccept.1.2 hs
  refine ⟨⟨made, hmade⟩, ?_, hrefuse.2.2 (.inr (by decide +kernel))⟩
  rw [(haccept.2.1 made hmade).2.2.2.2]
  decide +kernel

end SinglePage.Settings
