/-
The root document among the assets. The settings name it by a relative path, which may hold empty segments
and dots, and may lead through links. Where it can be read, the canonical path that the same text stands for
in a request leads to it as well (`disk_location_of_relative`): the segments that this path leaves out lead
nowhere else, and a path that asks for a directory at its end is one that no document is read by.
-/
import SinglePage.Proofs.AssetTree.Lookup
import SinglePage.Proofs.DiskPath.Components
import SinglePage.Proofs.Uri.Rewriting

namespace SinglePage

open DiskPath FileTree RequestPath

/-! ## Segments that are left out -/

namespace RequestPath

theorem intercalate_sublist {names names' : List Segment} (h : names.Sublist names') :
    (['/'].intercalate names).Sublist (['/'].intercalate names') := by
  induction h with
  | slnil => exact .refl _
  | @cons names names' s _ ih =>
    cases names' with
    | nil => exact ih.trans (List.nil_sublist _)
    | cons next rest =>
      rw [List.intercalate_cons_cons]
      exact ih.trans (List.sublist_append_right ..)
  | @cons_cons names names' s h ih =>
    cases names with
    | nil =>
      rw [List.intercalate_singleton]
      cases names' with
      | nil => rw [List.intercalate_singleton]
      | cons next rest =>
        rw [List.intercalate_cons_cons, List.append_assoc]
        exact List.sublist_append_left ..
    | cons first names =>
      obtain ⟨next, rest, rfl⟩ :=
        List.exists_cons_of_ne_nil (List.ne_nil_of_mem (h.subset (List.mem_cons_self ..)))
      rw [List.intercalate_cons_cons, List.intercalate_cons_cons]
      exact (List.Sublist.refl _).append ih

/-- What a written text is read into is the text. -/
theorem decode_encode_ok {path text : String} (h : decode (encode path) = .ok text) : text = path := by
  have hk : (fun c => isUnreserved c || c == '/') '%' = false := by decide
  have hread := (decode_ok h).1
  rw [encode, String.toList_ofList, Percent.decode_encode hk, ← Bytes.ofText, Bytes.text?_ofText,
    Option.some.injEq] at hread
  exact hread.symm

/-- Behind a slash, a relative path without ".." stands for its segments but for those that are empty or
a dot. -/
theorem canonicalize_slash {p path : String} (hup : ".." ∉ FileTree.segments p)
    (h : canonicalize (encode ("/" ++ p)) = .ok path) :
    ∃ names, (∀ s ∈ names, IsOrdinary s) ∧ path = join names ∧ names.Sublist (segments p.toList) ∧
      names.map String.ofList = DiskPath.names p := by
  obtain ⟨text, hdecode, rfl⟩ := canonicalize_ok h
  have hnul := (decode_ok hdecode).2
  obtain rfl := decode_encode_ok hdecode
  have htext : ("/" ++ p).toList = '/' :: p.toList := String.toList_append ..
  have hparent : ['.', '.'] ∉ [] :: segments p.toList := by
    rw [List.mem_cons, not_or]
    exact ⟨by decide, fun hm => hup (List.mem_map.2 ⟨_, hm, rfl⟩)⟩
  have hresolve : resolve (segments ("/" ++ p).toList) =
      (segments p.toList).filter fun s => s ≠ [] ∧ s ≠ ['.'] := by
    rw [htext, segments_cons_slash, resolve_of_no_parent hparent, List.filter_cons_of_neg (by decide)]
  refine ⟨_, resolve_ordinary hnul, rfl, ?_, ?_⟩
  · rw [hresolve]
    exact List.filter_sublist
  · have hsame : (fun s => decide (s ≠ [] ∧ s ≠ ['.'])) =
        (fun name => decide (name ≠ "" ∧ name ≠ ".")) ∘ String.ofList := by
      funext s
      have hempty : String.ofList s = "" ↔ s = [] := ofList_eq_iff []
      have hdot : String.ofList s = "." ↔ s = ['.'] := ofList_eq_iff ['.']
      simp only [Function.comp_apply, ne_eq, hempty, hdot]
    rw [hresolve, hsame, DiskPath.names, FileTree.properSegments, FileTree.segments, List.filter_map]
    rfl

end RequestPath

/-! ## The same file by fewer segments -/

namespace FileTree

variable {t : FileTree} {here : Location} {path d p p' : String} {found : Found}

/-- What a path leads to is found at the location that it leads to. -/
theorem disk_ok_iff : t.disk here path = .ok found ↔
    ∃ l, t.locate here path = .ok l ∧ foundAt t.entry? l = .ok found := by
  rw [disk_eq]
  cases t.locate here path with
  | error e => exact iff_of_false (fun h => nomatch h) fun ⟨_, h, _⟩ => nomatch h
  | ok l => exact ⟨fun h => ⟨l, rfl, h⟩, by rintro ⟨_, ⟨⟩, h⟩; exact h⟩

/-- A path that leads anywhere is not too long. -/
theorem utf8ByteSize_lt_of_disk (h : t.disk here path = .ok found) : path.utf8ByteSize < maxPath := by
  obtain ⟨l, hlocate, -⟩ := disk_ok_iff.1 h
  exact (locate_ok hlocate).2.2.1

/-- A path that does not lead to a directory ends neither in an empty segment nor in a dot. -/
theorem getLast_of_disk_join (hp : isAbsolute p = false) (h : t.disk here (join d p) = .ok found)
    (hfound : found ≠ .directory) : ∀ name ∈ (segments p).getLast?, name ≠ "" ∧ name ≠ "." := by
  obtain ⟨l, hlocate, hat⟩ := disk_ok_iff.1 h
  have hleads := (locate_ok hlocate).1
  intro name hname
  obtain ⟨before, hbefore⟩ := List.getLast?_eq_some_iff.1 (Option.mem_def.1 hname)
  rw [Leads, walkLinks_join hp, hbefore, ← List.append_assoc] at hleads
  rw [← not_or]
  intro hskip
  rw [foundAt_of_found? (walkLinks_skip_last hskip hleads) rfl, Except.ok.injEq] at hat
  exact hfound hat.symm

/-- A path that leads to something else than a directory leads there without its empty segments and dots as
well. -/
theorem disk_join_names (hp : isAbsolute p = false) (hp' : isAbsolute p' = false)
    (hsegments : segments p' = DiskPath.names p) (hsub : p'.toList.Sublist p.toList)
    (hne : join d p' ≠ "") (h : t.disk here (join d p) = .ok found) (hfound : found ≠ .directory) :
    t.disk here (join d p') = .ok found := by
  have hlast := getLast_of_disk_join hp h hfound
  obtain ⟨l, hlocate, hat⟩ := disk_ok_iff.1 h
  obtain ⟨hleads, hnul, hlimit, -⟩ := locate_ok hlocate
  have hjoin := toList_join_sublist hp hp' hsub d
  have hsize := utf8ByteSize_le_of_sublist hjoin
  have hnul' : ¬ (join d p').toList.contains '\x00' = true := by
    rw [List.contains_eq_mem, decide_eq_true_eq]
    exact fun hm => hnul (hjoin.subset hm)
  refine disk_ok_iff.2 ⟨l, ?_, hat⟩
  rw [locate, if_neg hnul', if_neg (by omega), if_neg hne, walkLinks_join hp', start_join hp', hsegments, DiskPath.names,
    walkLinks_append_properSegments _ _ _ hlast, ← walkLinks_join hp, ← start_join hp]
  exact hleads

end FileTree

/-! ## The root document -/

namespace AssetTree

variable {tree : AssetTree} {disk : Disk} {t : FileTree} {here : Location} {p path root : String}
  {document : Bytes}

/-- The root document is a file. -/
def HasIndexFile (tree : AssetTree) (disk : Disk) : Prop :=
  ∃ opened modified, disk tree.index = .ok (.file opened modified)

/-- Assets that can be used are in a directory. -/
theorem openAt_ok {indexFile : String} (h : openAt disk root indexFile = .ok tree) :
    disk root = .ok .directory ∧ tree = ⟨root, join root indexFile⟩ := by
  unfold openAt at h
  split at h
  · rename_i hdir
    cases h
    exact ⟨hdir, rfl⟩
  · cases h
  · cases h

/-- The root document is a file that can be opened, or a device. -/
theorem readIndex_ok (h : tree.readIndex disk = .ok document) :
    ∃ found, disk tree.index = .ok found ∧
      ((∃ movable modified, found = .file (.ok ⟨document, movable⟩) modified) ∨ found = .device document) := by
  unfold readIndex Disk.read at h
  split at h
  · rename_i opened modified hfile
    cases opened with
    | error e => cases h
    | ok file =>
      cases h
      exact ⟨_, hfile, .inl ⟨_, modified, rfl⟩⟩
  · rename_i data hdevice
    cases h
    exact ⟨_, hdevice, .inr rfl⟩
  · cases h
  · cases h

/-- What a relative path without ".." leads to, if it is no directory, the canonical path leads to as well that
the same text stands for in a request. The canonical path is no longer than the text. -/
theorem disk_location_of_relative {found : Found} (hp : isAbsolute p = false) (hup : ".." ∉ FileTree.segments p)
    (h : t.disk here (join root p) = .ok found) (hfound : found ≠ .directory)
    (hpath : canonicalize (encode ("/" ++ p)) = .ok path) :
    relative path ≠ "" ∧ path.utf8ByteSize ≤ ("/" ++ p).utf8ByteSize ∧
      t.disk here (join root (relative path)) = .ok found := by
  obtain ⟨names, ho, rfl, hsub, hnames⟩ := canonicalize_slash hup hpath
  have hne : names ≠ [] := by
    rintro rfl
    have hlast := List.getLast?_eq_some_getLast (segments_ne_nil p)
    exact names_ne_nil (List.mem_of_getLast? hlast) (getLast_of_disk_join hp h hfound _ hlast) hnames.symm
  have hintercalate : (['/'].intercalate names).Sublist p.toList := by
    have h : ['/'].intercalate (p.toList.splitOn '/') = p.toList := List.intercalate_splitOn '/'
    rw [← h]
    exact intercalate_sublist hsub
  have hrel : relative (join names) ≠ "" := fun h => hne ((relative_eq_empty_iff ho).1 h)
  refine ⟨hrel, ?_, disk_join_names hp (isAbsolute_relative ho) ?_ ?_ ?_ h hfound⟩
  · refine utf8ByteSize_le_of_sublist ?_
    rw [toList_join, String.toList_append]
    exact hintercalate.cons_cons '/'
  · rw [fileTreeSegments_relative ho hne, hnames]
  · rw [toList_relative_join ho]
    exact hintercalate
  · exact join_ne_empty_of_right hrel

end AssetTree

end SinglePage
