/-
The components of a path, told from its segments, which are what stands between its slashes. A path is
made of names exactly if its first segment is one and no segment leads up (`forall_isName_iff`), and
whatever directory such a path is joined to, its names come behind the components of that directory
(`components_join`).
-/
import SinglePage.Proofs.FileTree.Below

namespace SinglePage.DiskPath

open FileTree (properSegments segments)

/-! ## Single segments -/

theorem ofList_eq_iff {segment : List Char} (cs : List Char) :
    String.ofList segment = String.ofList cs ↔ segment = cs :=
  String.ofList_inj

/-- What a segment behind a slash stands for is a name, unless the segment leads up. -/
theorem isName_of_component? {segment : List Char} {c : Component} (h : component? segment = some c) :
    c.isName = true ↔ segment ≠ ['.', '.'] := by
  unfold component? at h
  split at h
  · cases h
  split at h
  · next hup =>
    cases h
    exact iff_of_false nofun fun h => h hup
  · next hup =>
    cases h
    exact iff_of_true rfl hup

/-- Segments of which none leads up stand for their names. -/
theorem filterMap_component? {segments : List (List Char)} (h : ['.', '.'] ∉ segments) :
    segments.filterMap component? =
      (properSegments (segments.map String.ofList)).map .name := by
  induction segments with
  | nil => rfl
  | cons segment rest ih =>
    obtain ⟨hup, hrest⟩ := not_or.1 (mt List.mem_cons.2 h)
    have hskip : String.ofList segment = "" ∨ String.ofList segment = "." ↔ segment = [] ∨ segment = ['.'] :=
      or_congr (ofList_eq_iff []) (ofList_eq_iff ['.'])
    rw [List.filterMap_cons, List.map_cons, ih hrest]
    unfold component?
    by_cases hnone : segment = [] ∨ segment = ['.']
    · rw [if_pos hnone, FileTree.properSegments_cons_of_skip (hskip.2 hnone)]
    · have hproper := mt hskip.1 hnone
      rw [if_neg hnone, if_neg (Ne.symm hup), FileTree.properSegments_cons_of_proper (not_or.1 hproper)]
      rfl

/-! ## The segments of a path -/

theorem parent_mem_segments_iff {path : String} :
    ".." ∈ segments path ↔ ['.', '.'] ∈ path.toList.splitOn '/' :=
  List.mem_map_of_injective (fun _ _ h => String.ofList_injective h) (a := ['.', '.'])

/-- The names of a path: its segments that are neither empty nor a dot. -/
def names (path : String) : List String := properSegments (segments path)

theorem names_ne_nil {path name : String} (h : name ∈ segments path) (hname : name ≠ "" ∧ name ≠ ".") :
    names path ≠ [] :=
  List.ne_nil_of_mem (List.mem_filter.2 ⟨h, decide_eq_true hname⟩)

/-- The path starts with a name, and neither with a slash nor with dots. -/
def StartsWithName (path : String) : Prop :=
  ∃ first ∈ (segments path).head?, first ≠ "" ∧ first ≠ "." ∧ first ≠ ".."

section Split

variable {path : String} {first : List Char} {rest : List (List Char)}
  (hs : path.toList.splitOn '/' = first :: rest)

include hs

theorem startsWithName_iff :
    StartsWithName path ↔ first ≠ [] ∧ first ≠ ['.'] ∧ first ≠ ['.', '.'] := by
  unfold StartsWithName segments
  rw [hs, List.map_cons, List.head?_cons, ne_eq first, ne_eq first, ne_eq first, ← ofList_eq_iff,
    ← ofList_eq_iff, ← ofList_eq_iff]
  exact ⟨by rintro ⟨_, ⟨⟩, h⟩; exact h, fun h => ⟨_, rfl, h⟩⟩

/-- An empty segment in front of a path is a slash, unless the path is empty. -/
theorem components_eq (hne : path ≠ "") :
    components path = (firstComponent? first true).toList ++ rest.filterMap component? := by
  have hfirst : firstComponent? first (!rest.isEmpty) = firstComponent? first true := by
    cases rest with
    | cons => rfl
    | nil =>
      have hpath : ['/'].intercalate (path.toList.splitOn '/') = path.toList := List.intercalate_splitOn '/'
      rw [hs, List.intercalate_singleton] at hpath
      have hempty : first ≠ [] := fun h => hne (String.toList_eq_nil_iff.1 (hpath ▸ h))
      unfold firstComponent?
      rw [if_neg hempty, if_neg hempty]
  unfold components
  rw [hs, ← hfirst]

/-- A first segment that is neither empty nor a dot is like one behind a slash. -/
theorem components_eq_filterMap (hempty : first ≠ []) (hdot : first ≠ ['.']) :
    components path = (path.toList.splitOn '/').filterMap component? := by
  have hfirst (b : Bool) : firstComponent? first b = component? first := by
    unfold firstComponent?
    rw [if_neg hempty, if_neg hdot]
  unfold components
  rw [hs, List.filterMap_cons]
  dsimp only
  rw [hfirst]
  cases component? first <;> rfl

end Split

/-! ## Paths made of names -/

theorem components_of_startsWithName {path : String} (h : StartsWithName path) :
    components path = (path.toList.splitOn '/').filterMap component? := by
  obtain ⟨first, rest, hs⟩ := List.exists_cons_of_ne_nil (List.splitOn_ne_nil '/' path.toList)
  obtain ⟨hempty, hdot, -⟩ := (startsWithName_iff hs).1 h
  exact components_eq_filterMap hs hempty hdot

theorem isAbsolute_of_startsWithName {path : String} (h : StartsWithName path) :
    isAbsolute path = false := by
  rw [not_isAbsolute_iff]
  intro hslash
  obtain ⟨cs, hcs⟩ := List.head?_eq_some_iff.1 hslash
  have hs : path.toList.splitOn '/' = [] :: cs.splitOn '/' := by
    rw [hcs]
    exact List.splitOn_append_cons_self [] cs
  exact ((startsWithName_iff hs).1 h).1 rfl

/-- A path is made of names exactly if it starts with one and leads up nowhere. Behind the first, it
does not matter whether segments are empty or dots. -/
theorem forall_isName_iff {path : String} (hne : path ≠ "") :
    (∀ c ∈ components path, c.isName = true) ↔ StartsWithName path ∧ ".." ∉ segments path := by
  obtain ⟨first, rest, hs⟩ := List.exists_cons_of_ne_nil (List.splitOn_ne_nil '/' path.toList)
  rw [startsWithName_iff hs, parent_mem_segments_iff]
  by_cases hfirst : first = [] ∨ first = ['.']
  · -- the path starts with the root or with a dot, which are components, but no names
    refine iff_of_false (fun h => ?_) fun h => hfirst.elim h.1.1 h.1.2.1
    rw [components_eq hs hne] at h
    rcases hfirst with rfl | rfl
    · exact absurd (h .root (.head _)) nofun
    · exact absurd (h .here (.head _)) nofun
  obtain ⟨hempty, hdot⟩ := not_or.1 hfirst
  rw [components_eq_filterMap hs hempty hdot]
  constructor
  · intro h
    have hno : ['.', '.'] ∉ path.toList.splitOn '/' := fun hm =>
      absurd (h .parent (List.mem_filterMap.2 ⟨_, hm, rfl⟩)) nofun
    exact ⟨⟨hempty, hdot, fun h => hno (hs ▸ h ▸ List.mem_cons_self ..)⟩, hno⟩
  · rintro ⟨-, hno⟩ c hc
    obtain ⟨segment, hm, hc⟩ := List.mem_filterMap.1 hc
    exact (isName_of_component? hc).2 fun h => hno (h ▸ hm)

/-- The components of such a path are its names, of which there is one at least. -/
theorem components_eq_names {path : String} (h : StartsWithName path) (hup : ".." ∉ segments path) :
    names path ≠ [] ∧ components path = (names path).map .name := by
  constructor
  · obtain ⟨first, hfirst, hempty, hdot, -⟩ := h
    exact names_ne_nil (List.mem_of_mem_head? hfirst) ⟨hempty, hdot⟩
  · rw [components_of_startsWithName h]
    exact filterMap_component? (mt parent_mem_segments_iff.2 hup)

/-- A path made of names is not absolute, and leads up nowhere. -/
theorem relative_of_names {path : String} (h : ∀ c ∈ components path, c.isName = true) :
    isAbsolute path = false ∧ ".." ∉ segments path := by
  by_cases hne : path = ""
  · subst hne
    decide +kernel
  · obtain ⟨hstart, hup⟩ := (forall_isName_iff hne).1 h
    exact ⟨isAbsolute_of_startsWithName hstart, hup⟩

/-! ## Joined paths -/

section Split

variable {d : String} {first : List Char} {rest : List (List Char)}
  (hs : d.toList.splitOn '/' = first :: rest)

include hs

/-- What comes behind a slash adds its segments, whatever it is. -/
theorem components_append_slash (p : String) : components (d ++ "/" ++ p) =
    (firstComponent? first true).toList ++ rest.filterMap component? ++
      (p.toList.splitOn '/').filterMap component? := by
  have hsplit : (d ++ "/" ++ p).toList.splitOn '/' = first :: (rest ++ p.toList.splitOn '/') := by
    rw [String.toList_append, String.toList_append, List.append_assoc]
    show (d.toList ++ '/' :: p.toList).splitOn '/' = _
    rw [List.splitOn_append_cons_self, hs, List.cons_append]
  have hne : d ++ "/" ++ p ≠ "" := fun h =>
    absurd (String.append_eq_empty_iff.1 (String.append_eq_empty_iff.1 h).1).2 (by decide)
  rw [components_eq hsplit hne, List.filterMap_append, List.append_assoc]

/-- A slash at the end adds nothing. -/
theorem components_slash :
    components (d ++ "/") = (firstComponent? first true).toList ++ rest.filterMap component? := by
  rw [← String.append_empty (s := d ++ "/"), components_append_slash hs]
  exact List.append_nil _

end Split

/-- A path that starts with a name adds its components to those of the directory it is joined to. -/
theorem components_join {p : String} (hp : StartsWithName p) (d : String) :
    components (join d p) = components d ++ components p := by
  have hjoin : join d p =
      if d = "" ∨ d.toList.getLast? = some '/' then d ++ p else d ++ "/" ++ p := by
    unfold join
    rw [isAbsolute_of_startsWithName hp, if_neg Bool.false_ne_true]
  rw [hjoin, components_of_startsWithName hp]
  by_cases hd : d = ""
  · subst hd
    rw [if_pos (.inl rfl), String.empty_append, components_of_startsWithName hp]
    rfl
  by_cases hlast : d.toList.getLast? = some '/'
  · -- the slash between the two belongs to the directory
    obtain ⟨cs, hcs⟩ := List.getLast?_eq_some_iff.1 hlast
    obtain rfl : d = String.ofList cs ++ "/" := by
      rw [← String.toList_inj, hcs, String.toList_append, String.toList_ofList]
      rfl
    obtain ⟨first, rest, hs⟩ := List.exists_cons_of_ne_nil (List.splitOn_ne_nil '/' (String.ofList cs).toList)
    rw [if_pos (.inr hlast), components_append_slash hs, components_slash hs]
  · obtain ⟨first, rest, hs⟩ := List.exists_cons_of_ne_nil (List.splitOn_ne_nil '/' d.toList)
    rw [if_neg (not_or.2 ⟨hd, hlast⟩), components_append_slash hs, components_eq hs hd]

end SinglePage.DiskPath
