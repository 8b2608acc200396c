/-
Looking up canonical paths among assets. A path finds the file that its names lead to through
directories (`lookup_of_holdsFile`). Where there are directories and files only, a path that stands
for no file is missing, whatever keeps it from standing for one (`lookup_missing`), except that the
system cannot be asked for a path or a name that is too long (`lookup_tooLong`).
-/
import SinglePage.Proofs.FileTree.Below
import SinglePage.Proofs.RequestPath.Canonical

namespace SinglePage

open FileTree RequestPath

/-- The names of a canonical path. -/
def RequestPath.names (path : String) : List String :=
  ((segments path.toList).filter (· ≠ [])).map String.ofList

namespace RequestPath

variable {ns : List Segment} (ho : ∀ s ∈ ns, IsOrdinary s)

include ho

theorem names_join : names (join ns) = ns.map String.ofList := by
  unfold names
  rw [toList_join, segments_cons_slash]
  by_cases hne : ns = []
  · subst hne; rfl
  · rw [segments_intercalate ho hne, List.filter_cons_of_neg (by decide), List.filter_eq_self.2]
    intro s hs
    rw [decide_eq_true_eq]
    exact (ho s hs).1

theorem relative_join : AssetTree.relative (join ns) = String.ofList (['/'].intercalate ns) := by
  rw [← toList_relative_join ho, String.ofList_toList]

theorem fileTreeSegments_relative (hne : ns ≠ []) :
    FileTree.segments (AssetTree.relative (join ns)) = ns.map String.ofList := by
  unfold FileTree.segments
  rw [toList_relative_join ho]
  exact congrArg _ (segments_intercalate ho hne)

theorem isAbsolute_relative : DiskPath.isAbsolute (AssetTree.relative (join ns)) = false := by
  rw [DiskPath.not_isAbsolute_iff, toList_relative_join ho]
  exact head?_intercalate_ne_slash ho

theorem relative_eq_empty_iff : AssetTree.relative (join ns) = "" ↔ ns = [] := by
  rw [← String.toList_inj, toList_relative_join ho]
  exact intercalate_eq_nil ho

theorem join_eq_slash_iff : join ns = "/" ↔ ns = [] := by
  rw [← String.toList_inj, toList_join, show "/".toList = ['/'] from rfl, List.cons_eq_cons, and_iff_right rfl]
  exact intercalate_eq_nil ho

theorem nul_not_mem_relative : '\x00' ∉ (AssetTree.relative (join ns)).toList := by
  rw [toList_relative_join ho]
  intro h
  have hj := nul_not_mem_join ho
  rw [toList_join] at hj
  exact hj (List.mem_cons_of_mem _ h)

/-- Names of a canonical path are neither empty nor dots. -/
theorem ne_of_mem_names : ∀ name ∈ ns.map String.ofList, name ≠ "" ∧ name ≠ "." ∧ name ≠ ".." := by
  intro name hn
  obtain ⟨s, hs, rfl⟩ := List.mem_map.1 hn
  have h := ho s hs
  refine ⟨?_, ?_, ?_⟩ <;> rw [ne_eq, ← String.toList_inj, String.toList_ofList]
  exacts [h.1, h.2.1, h.2.2.1]

end RequestPath

namespace AssetTree

/-- The system refuses to look up a path: the whole path is too long, or one of its names is, and is
asked for in a directory. -/
def TooLong (tree : AssetTree) (t : FileTree) (l : Location) (path : String) : Prop :=
  names path ≠ [] ∧ (maxPath ≤ (tree.location path).utf8ByteSize ∨ LooksUpLongName (t.below l) [] (names path))

/-- A file of the disk stands where a request path leads to among the assets. The directory itself, which is
what '/' leads to, is none. -/
def HasFile (tree : AssetTree) (disk : Disk) (path : String) : Prop :=
  path ≠ "/" ∧ ∃ opened modified, disk (tree.location path) = .ok (.file opened modified)

/-! ## What is found -/

section Found

variable {tree : AssetTree} {disk : Disk} {path found : String}

/-- What is found is a file of the disk, and has a name. -/
theorem lookup_file (h : tree.lookup disk path = .ok (.file found)) :
    relative path ≠ "" ∧ ∃ opened modified, disk (tree.location path) = .ok (.file opened modified) := by
  unfold lookup at h
  split at h
  · cases h
  rename_i hne
  refine ⟨hne, ?_⟩
  split at h
  · rename_i opened modified hd
    exact ⟨opened, modified, hd⟩
  · cases h
  · split at h <;> cases h

/-- A file of the disk is found, if its path is not that of the directory. -/
theorem lookup_of_file {opened : Except SystemError OpenFile} {modified : Nat} (hpath : relative path ≠ "")
    (h : disk (tree.location path) = .ok (.file opened modified)) :
    tree.lookup disk path = .ok (.file (tree.location path)) := by
  unfold lookup
  rw [if_neg hpath, h]

/-- A device is not found. -/
theorem lookup_of_device {data : Bytes} (hpath : relative path ≠ "")
    (h : disk (tree.location path) = .ok (.device data)) : tree.lookup disk path = .ok .missing := by
  unfold lookup
  rw [if_neg hpath, h]

/-- That there is no such entry is no error of the look-up. -/
theorem lookup_error {e : SystemError} (h : tree.lookup disk path = .error e) : e.isMissing = false := by
  unfold lookup at h
  split at h
  · cases h
  split at h
  · cases h
  · cases h
  · split at h
    · cases h
    · rename_i hmissing
      cases h
      exact Bool.eq_false_of_not_eq_true hmissing

theorem hasFile_of_lookup (hpath : IsCanonical path) (h : tree.lookup disk path = .ok (.file found)) :
    tree.HasFile disk path := by
  obtain ⟨ns, ho, rfl⟩ := hpath
  obtain ⟨hne, hfile⟩ := lookup_file h
  refine ⟨fun hroot => hne ?_, hfile⟩
  rw [relative_eq_empty_iff ho, ← join_eq_slash_iff ho, hroot]

end Found

/-! ## Where a path is looked up -/

section Location

variable {tree : AssetTree} {t : FileTree} {here l : Location} {ns : List Segment}
  (hl : t.locate here tree.root = .ok l) (ho : ∀ s ∈ ns, IsOrdinary s)

include hl ho

theorem location_ne_empty : tree.location (join ns) ≠ "" := by
  refine (DiskPath.join_ne_empty (locate_ok hl).2.2.2).resolve_right ?_
  rw [isAbsolute_relative ho]
  exact Bool.false_ne_true

theorem nul_not_mem_location : '\x00' ∉ (tree.location (join ns)).toList := by
  intro h
  rcases DiskPath.mem_join h with h | h | h
  · exact (locate_ok hl).2.1 h
  · cases h
  · exact nul_not_mem_relative ho h

/-- A path that is not too long leads to the file that its names stand for. -/
theorem disk_location_of_holdsFile {data : Bytes} {modified : Nat} (hne : ns ≠ [])
    (hfile : t.HoldsFile l (ns.map String.ofList) data modified)
    (hlimit : (tree.location (join ns)).utf8ByteSize < maxPath) :
    t.disk here (tree.location (join ns)) = .ok (.file (.ok ⟨data, true⟩) modified) := by
  have hp := isAbsolute_relative ho
  have hnames := ne_of_mem_names ho
  have hempty := location_ne_empty hl ho
  have hnul := nul_not_mem_location hl ho
  rw [← fileTreeSegments_relative ho hne] at hfile hnames
  exact hfile.disk_join (locate_ok hl).1 hnames hp hnul hlimit hempty

theorem lookup_of_holdsFile {data : Bytes} {modified : Nat} (hne : ns ≠ [])
    (hfile : t.HoldsFile l (ns.map String.ofList) data modified)
    (hlimit : (tree.location (join ns)).utf8ByteSize < maxPath) :
    tree.lookup (t.disk here) (join ns) = .ok (.file (tree.location (join ns))) := by
  have hdisk := disk_location_of_holdsFile hl ho hne hfile hlimit
  exact lookup_of_file (fun h => hne ((relative_eq_empty_iff ho).1 h)) hdisk

end Location

section Lookup

variable {tree : AssetTree} {t : FileTree} {here l : Location} {ns : List Segment}
  (hl : t.locate here tree.root = .ok l) (hno : NoLinks (t.below l)) (ho : ∀ s ∈ ns, IsOrdinary s)

include hl hno ho

theorem disk_location (hne : ns ≠ []) :
    t.disk here (tree.location (join ns)) =
      if maxPath ≤ (tree.location (join ns)).utf8ByteSize then .error .nameTooLong
      else descend (t.below l) [] (ns.map String.ofList) >>= foundAt (t.below l) := by
  have hp := isAbsolute_relative ho
  have hseg := fileTreeSegments_relative ho hne
  have hup : ".." ∉ FileTree.segments (relative (join ns)) := by
    rw [hseg]; exact fun h => (ne_of_mem_names ho _ h).2.2 rfl
  have hloc := location_ne_empty hl ho
  have hn : ((tree.location (join ns)).toList.contains '\x00') = false := by
    rw [List.contains_eq_mem, decide_eq_false_iff_not]
    exact nul_not_mem_location hl ho
  unfold location at *
  rw [disk_join (locate_ok hl).1 hno hp hup hloc, hn, if_neg Bool.false_ne_true, hseg]

/-- A path that is too long cannot be looked up. -/
theorem lookup_tooLong (h : tree.TooLong t l (join ns)) :
    tree.lookup (t.disk here) (join ns) = .error .nameTooLong := by
  obtain ⟨hne, hlong⟩ := h
  rw [names_join ho] at hne hlong
  have hns : ns ≠ [] := fun h => hne (by rw [h]; rfl)
  have hd : t.disk here (tree.location (join ns)) = .error .nameTooLong := by
    rw [disk_location hl hno ho hns]
    split
    · rfl
    · rename_i hshort
      have hdesc := (descend_eq_nameTooLong_iff fun n hn =>
        ⟨(ne_of_mem_names ho n hn).1, (ne_of_mem_names ho n hn).2.1⟩).2 (hlong.resolve_left hshort)
      rw [hdesc]
      rfl
  unfold lookup
  rw [if_neg fun h => hns ((relative_eq_empty_iff ho).1 h), hd]
  rfl

/-- Any other path is missing if no file stands where its names lead. -/
theorem lookup_missing (h : ¬ tree.TooLong t l (join ns))
    (hfile : ∀ e ∈ t.below l (names (join ns)), e.isFile = false) :
    tree.lookup (t.disk here) (join ns) = .ok .missing := by
  unfold TooLong at h
  rw [names_join ho] at h hfile
  unfold lookup
  split
  · rfl
  rename_i hrel
  have hns : ns ≠ [] := fun h => hrel ((relative_eq_empty_iff ho).2 h)
  have hnames : ns.map String.ofList ≠ [] := fun h => hns (List.map_eq_nil_iff.1 h)
  have hord : ∀ n ∈ ns.map String.ofList, n ≠ "" ∧ n ≠ "." := fun n hn =>
    ⟨(ne_of_mem_names ho n hn).1, (ne_of_mem_names ho n hn).2.1⟩
  rw [not_and_or, not_or] at h
  have hshort := h.resolve_left (not_not.2 hnames)
  have hdisk := disk_location hl hno ho hns
  rw [if_neg hshort.1] at hdisk
  cases hd : descend (t.below l) [] (ns.map String.ofList) with
  | error e =>
    have hmissing : e.isMissing = true :=
      (descend_error hd).resolve_right fun he =>
        hshort.2 ((descend_eq_nameTooLong_iff hord).1 (he ▸ hd))
    rw [hd] at hdisk
    rw [show t.disk here _ = .error e from hdisk]
    exact if_pos hmissing
  | ok r =>
    obtain ⟨rfl, hv⟩ := descend_ok hord hd
    have hfound : t.disk here (tree.location (join ns)) = foundAt (t.below l) (ns.map String.ofList) := by
      rw [hdisk, hd]
      rfl
    rw [List.nil_append] at hv
    obtain ⟨e, he⟩ := Option.ne_none_iff_exists'.1 (hv hnames)
    have hlink : ∀ target, e ≠ .link target := fun target h => hno _ target (he.trans (congrArg some h))
    obtain ⟨found, hf⟩ := Entry.exists_found hlink
    rw [hfound, foundAt_of_found? he hf]
    cases found with
    | file opened modified => exact absurd ((hfile e he).symm.trans (Entry.found?_eq_file hf).1) (by decide)
    | _ => rfl

end Lookup

end AssetTree

end SinglePage
