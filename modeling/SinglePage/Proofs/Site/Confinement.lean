/-
What cannot be seen from outside the directory of the assets. With valid settings, all paths of the
disk that a request makes the site look at stay below that directory, however its path is spelled
(`consulted_staysBelow`); so two file systems with the same directories and files there, and anything
elsewhere, answer every request alike (`respond_confined`).
-/
import SinglePage.Proofs.AssetTree.Lookup
import SinglePage.Proofs.DiskPath.Components
import SinglePage.Proofs.FileService.Location
import SinglePage.Proofs.Settings.Validation
import SinglePage.Proofs.Uri.Rewriting
import SinglePage.Site

namespace SinglePage

open DiskPath FileTree RequestPath

/-! ## Paths that stay below a directory -/

/-- A path of the disk that stays below a directory: that of the directory, seen from the working
directory or not, or a path behind it that leads up nowhere. -/
def StaysBelow (root path : String) : Prop :=
  ∃ d, (d = root ∨ d = FileService.baseOf root) ∧
    (path = d ∨ ∃ p, isAbsolute p = false ∧ ".." ∉ FileTree.segments p ∧ path = DiskPath.join d p)

namespace StaysBelow

variable {root path : String} (h : StaysBelow root path)

include h

/-- Such a path is followed by the same segments below the directory, wherever that is. -/
theorem exists_segments : ∃ s, ∀ {t : FileTree} {here l : Location}, t.locate here root = .ok l →
    NoLinks (t.below l) →
      walkLinks t maxLinks (start here path) (FileTree.segments path) =
        (descend (t.below l) [] s).map (l ++ ·) := by
  obtain ⟨d, hd, hpath⟩ := h
  have hleads {t : FileTree} {here l : Location} (hl : t.locate here root = .ok l) : t.Leads here d l := by
    rcases hd with rfl | rfl
    · exact (locate_ok hl).1
    · exact (locate_ok hl).1.dot_join
  rcases hpath with rfl | ⟨p, hp, hup, rfl⟩
  · refine ⟨[], fun hl _ => ?_⟩
    rw [show walkLinks _ _ _ _ = _ from hleads hl, descend, Except.map, List.append_nil]
  · exact ⟨FileTree.segments p, fun hl hno => (hleads hl).walkLinks_join hno hp hup⟩

/-- Where it leads, if it leads anywhere, is below the directory. -/
theorem locate_below {t : FileTree} {here l out : Location} (hl : t.locate here root = .ok l)
    (hno : NoLinks (t.below l)) (hout : t.locate here path = .ok out) : l <+: out := by
  obtain ⟨s, hs⟩ := h.exists_segments
  have hleads := (locate_ok hout).1
  unfold Leads at hleads
  rw [hs hl hno] at hleads
  cases hd : descend (t.below l) [] s with
  | error e => rw [hd] at hleads; cases hleads
  | ok r =>
    rw [hd] at hleads
    cases hleads
    exact List.prefix_append l r

/-- What it leads to is decided by what stands below the directory. -/
theorem disk_congr {t t' : FileTree} {here here' l l' : Location} (hl : t.locate here root = .ok l)
    (hl' : t'.locate here' root = .ok l') (hsame : t.below l = t'.below l') (hno : NoLinks (t.below l)) :
    t.disk here path = t'.disk here' path := by
  obtain ⟨s, hs⟩ := h.exists_segments
  rw [disk_eq, disk_eq]
  unfold locate
  rw [hs hl hno, hs hl' (hsame ▸ hno), ← hsame]
  split
  · rfl
  split
  · rfl
  split
  · rfl
  cases descend (t.below l) [] s with
  | error e => rfl
  | ok r =>
    have he : t.entry? (l ++ r) = t'.entry? (l' ++ r) := congrFun hsame r
    show foundAt t.entry? (l ++ r) = foundAt t'.entry? (l' ++ r)
    rw [foundAt, foundAt, he]

end StaysBelow

namespace Site

/-! ## What a request makes the site look at -/

section Consulted

variable {site : Site} {request : Request}

/-- The service of files sees the canonical path, or the one that is spelled. -/
theorem fileRequest_path_or (request : Request) {path : String} (hs : path.toList.head? = some '/') :
    (fileRequest request path).uri.path = encode path ∨
      (fileRequest request path).uri.path = request.uri.path := by
  unfold fileRequest
  cases hw : request.uri.withPath? (encode path) with
  | none => exact .inr rfl
  | some uri => exact .inl (Uri.path_of_withPath? (head?_encode hs) (isPathChar_encode path) hw)

/-- Behind the directory of the assets, the names of a canonical path lead up nowhere. -/
theorem staysBelow_names {ns : List Segment} (ho : ∀ s ∈ ns, IsOrdinary s) {root d : String}
    (hd : d = root ∨ d = FileService.baseOf root) :
    StaysBelow root (DiskPath.join d (AssetTree.relative (RequestPath.join ns))) := by
  refine ⟨d, hd, .inr ⟨_, isAbsolute_relative ho, ?_, rfl⟩⟩
  by_cases hne : ns = []
  · subst hne; decide
  · rw [fileTreeSegments_relative ho hne]
    exact fun h => (ne_of_mem_names ho _ h).2.2 rfl

theorem staysBelow_location? {raw path root found : String} (hpath : canonicalize raw = .ok path)
    (h : FileService.location? root raw = some found) : StaysBelow root found := by
  obtain ⟨ns, ho, rfl, hrefused, hfollowed⟩ := FileService.location?_of_canonicalize hpath root
  by_cases hr : FileService.Refuses raw
  · rw [hrefused hr] at h
    cases h
  · rw [hfollowed hr, Option.some.injEq] at h
    subst h
    unfold FileService.locationOf
    split
    · exact ⟨_, .inr rfl, .inl rfl⟩
    · rw [← relative_join ho]
      exact staysBelow_names ho (.inr rfl)

/-- With a root document that lies behind the directory of the assets, all paths of the disk that a
request makes the site look at stay below that directory. -/
theorem consulted_staysBelow {site : Site} {indexFile : String}
    (hindex : site.assets.index = DiskPath.join site.assets.root indexFile)
    (hp : isAbsolute indexFile = false) (hup : ".." ∉ FileTree.segments indexFile) (request : Request) :
    ∀ path ∈ site.consulted request, StaysBelow site.assets.root path := by
  intro found hm
  unfold consulted at hm
  split at hm
  · cases hm
  rename_i inner he
  split at hm
  · cases hm
  rename_i path hpath
  obtain ⟨ns, ho, rfl⟩ := canonicalize_isCanonical hpath
  rw [List.mem_cons, List.mem_cons, Option.mem_toList] at hm
  rcases hm with rfl | rfl | hfound
  · exact staysBelow_names ho (.inl rfl)
  · exact ⟨_, .inl rfl, .inr ⟨indexFile, hp, hup, hindex⟩⟩
  -- the service of files follows the canonical path, and also the spelling that it comes from
  · rcases fileRequest_path_or inner (head?_join ns) with hu | hu
    · rw [hu] at hfound
      exact staysBelow_location? (canonicalize_encode ⟨ns, ho, rfl⟩) hfound
    · rw [hu] at hfound
      exact staysBelow_location? hpath hfound

/-! ## Two file systems -/

/-- Nothing outside the directory of the assets can be observed. With valid settings, two file systems
in which that directory has the same directories and files in it give the same assets, and the same
response and log for every request; and every path that is looked at on the way leads to a place below
the directory, if it leads anywhere. -/
theorem respond_confined {layers : List Settings.Layer} {s : Settings}
    (hs : Settings.ofLayers layers = .ok s) {t t' : FileTree} {here here' l l' : Location}
    (hl : t.locate here s.staticDir = .ok l) (hl' : t'.locate here' s.staticDir = .ok l')
    (hdir : t.entry? l = some .directory) (hsame : t.below l = t'.below l') (hno : NoLinks (t.below l)) :
    ∃ assets, AssetTree.openAt (t.disk here) s.staticDir s.indexFile = .ok assets ∧
      AssetTree.openAt (t'.disk here') s.staticDir s.indexFile = .ok assets ∧
      ∀ (script : EnvModule) (mount : Option String) (request : Request),
        respond ⟨assets, script, mount⟩ (t.disk here) request =
          respond ⟨assets, script, mount⟩ (t'.disk here') request ∧
        ∀ path ∈ consulted ⟨assets, script, mount⟩ request, ∀ out,
          t.locate here path = .ok out → l <+: out := by
  have hroot : StaysBelow s.staticDir s.staticDir := ⟨_, .inl rfl, .inl rfl⟩
  have hopen : t.disk here s.staticDir = .ok .directory := by
    rw [disk_eq, hl]
    exact foundAt_of_found? hdir rfl
  obtain ⟨hp, hup⟩ := relative_of_names (Settings.validate_indexFile (Settings.ofLayers_ok hs))
  refine ⟨⟨s.staticDir, DiskPath.join s.staticDir s.indexFile⟩, ?_, ?_, fun script mount request => ?_⟩
  · rw [AssetTree.openAt, hopen]
  · rw [AssetTree.openAt, ← hroot.disk_congr hl hl' hsame hno, hopen]
  · let site : Site := ⟨⟨s.staticDir, DiskPath.join s.staticDir s.indexFile⟩, script, mount⟩
    have hindex : site.assets.index = DiskPath.join site.assets.root s.indexFile := rfl
    have hbelow := consulted_staysBelow hindex hp hup request
    exact ⟨respond_congr fun path hm => (hbelow path hm).disk_congr hl hl' hsame hno,
      fun path hm out hout => (hbelow path hm).locate_below hl hno hout⟩

/-- A file beside the directory of the assets cannot be reached by dots, escaped or not, and the
directory may itself stand anywhere. -/
theorem respond_confined_beside :
    let t : FileTree := ⟨[(["build"], .directory), (["build", "index.html"], .file [60] 0),
      (["secret"], .file [1] 0)]⟩
    let t' : FileTree := ⟨[(["srv"], .directory), (["srv", "build"], .directory),
      (["srv", "build", "index.html"], .file [60] 0)]⟩
    let site : Site := ⟨⟨"build", "build/index.html"⟩, .empty, some "/admin"⟩
    let request : Request := { uri := .originForm ⟨"/admin/%2e%2e/../secret", none⟩ }
    site.respond (t.disk []) request = site.respond (t'.disk ["srv"]) request := by
  intro t t' site request
  have hsame : t.below ["build"] = t'.below ["srv", "build"] := by
    funext r
    simp [below, entry?, t, t', List.lookup_cons, beq_eq_decide]
  have hlinks : ∀ e ∈ t.entries, ∀ target, e.2 ≠ .link target := by simp [t]
  have hs : Settings.ofLayers [] = .ok {} := by decide +kernel
  have hl : t.locate [] "build" = .ok ["build"] := by decide +kernel
  have hl' : t'.locate ["srv"] "build" = .ok ["srv", "build"] := by decide +kernel
  have hopened : AssetTree.openAt (t.disk []) "build" "index.html" = .ok site.assets := by decide +kernel
  obtain ⟨assets, hopen, -, hrespond⟩ :=
    respond_confined hs hl hl' (by decide) hsame (noLinks_below hlinks _)
  rw [hopened, Except.ok.injEq] at hopen
  rw [← hopen] at hrespond
  exact (hrespond .empty (some "/admin") request).1

end Consulted

end Site

end SinglePage
