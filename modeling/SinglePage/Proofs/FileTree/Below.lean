/-
Following paths below a directory. What a path leads to from a directory is decided by the entries
below that directory, if no link is among them and no segment of the path is ".."; how the directory
itself was reached, and what stands elsewhere, does not matter. `descend` follows such paths in what
stands below a directory alone, and `disk_join` says that a path joined to that of a directory leads
to what `descend` finds.
-/
import SinglePage.DiskPath
import SinglePage.FileTree
import Mathlib.Tactic

namespace SinglePage

namespace DiskPath

/-! ## Joined texts -/

theorem not_isAbsolute_iff {path : String} : isAbsolute path = false ↔ path.toList.head? ≠ some '/' := by
  unfold isAbsolute
  rw [beq_eq_false_iff_ne]

/-- The first component of an absolute path is the root. -/
theorem components_of_isAbsolute {path : String} (h : isAbsolute path = true) :
    ∃ rest, components path = .root :: rest := by
  obtain ⟨cs, hcs⟩ := List.head?_eq_some_iff.1 (beq_iff_eq.1 h)
  have hs : path.toList.splitOn '/' = [] :: cs.splitOn '/' := by
    rw [hcs]
    exact List.splitOn_append_cons_self [] cs
  have hne : (cs.splitOn '/').isEmpty = false := List.isEmpty_eq_false_iff.2 (List.splitOn_ne_nil '/' cs)
  refine ⟨(cs.splitOn '/').filterMap component?, ?_⟩
  unfold components
  rw [hs]
  show (firstComponent? [] !(cs.splitOn '/').isEmpty).toList ++ _ = _
  rw [hne]
  rfl

theorem mem_join {c : Char} {d p : String} (h : c ∈ (join d p).toList) :
    c ∈ d.toList ∨ c = '/' ∨ c ∈ p.toList := by
  unfold join at h
  split at h
  · exact .inr (.inr h)
  split at h
  · rw [String.toList_append, List.mem_append] at h
    exact h.imp_right .inr
  · rw [String.toList_append, String.toList_append, List.mem_append, List.mem_append] at h
    rcases h with (h | h) | h
    · exact .inl h
    · exact .inr (.inl (List.mem_singleton.1 h))
    · exact .inr (.inr h)

/-- What is left of a path is left of it behind a directory. -/
theorem toList_join_sublist {p p' : String} (hp : isAbsolute p = false) (hp' : isAbsolute p' = false)
    (h : p'.toList.Sublist p.toList) (d : String) : (join d p').toList.Sublist (join d p).toList := by
  unfold join
  rw [hp, hp', if_neg Bool.false_ne_true, if_neg Bool.false_ne_true]
  split
  · rw [String.toList_append, String.toList_append]
    exact (List.Sublist.refl _).append h
  · rw [String.toList_append, String.toList_append (s := d ++ "/")]
    exact (List.Sublist.refl _).append h

theorem join_ne_empty {d p : String} (hd : d ≠ "") : join d p ≠ "" ∨ isAbsolute p = true := by
  unfold join
  split
  · rename_i h
    exact .inr h
  split
  · exact .inl fun h => hd (String.append_eq_empty_iff.1 h).1
  · exact .inl fun h => hd (String.append_eq_empty_iff.1 (String.append_eq_empty_iff.1 h).1).1

theorem join_ne_empty_of_right {d p : String} (hp : p ≠ "") : join d p ≠ "" := by
  unfold join
  split
  · exact hp
  split
  · exact fun h => hp (String.append_eq_empty_iff.1 h).2
  · exact fun h => hp (String.append_eq_empty_iff.1 h).2

theorem utf8ByteSize_le_join (d p : String) : p.utf8ByteSize ≤ (join d p).utf8ByteSize := by
  unfold join
  split
  · exact le_rfl
  split
  · rw [String.utf8ByteSize_append]
    exact Nat.le_add_left ..
  · rw [String.utf8ByteSize_append]
    exact Nat.le_add_left ..

theorem isAbsolute_join {d p : String} (hp : isAbsolute p = false) : isAbsolute (join d p) = isAbsolute d := by
  unfold join
  rw [hp, if_neg Bool.false_ne_true]
  by_cases hd : d = ""
  · rw [if_pos (.inl hd), hd, String.empty_append, hp]
    rfl
  · have hhead (s : String) : isAbsolute (d ++ s) = isAbsolute d := by
      unfold isAbsolute
      rw [String.toList_append, List.head?_append_of_ne_nil _ (by simpa using hd)]
    split
    · exact hhead p
    · rw [String.append_assoc]
      exact hhead _

/-- It does not matter in which order a path is seen from the working directory and extended. -/
theorem join_dot_join {d p : String} (hp : isAbsolute p = false) :
    join (join "." d) p = join "." (join d p) := by
  have habs := @isAbsolute_join d p hp
  by_cases hd : isAbsolute d = true
  · rw [show join "." d = d from if_pos hd, show join "." (join d p) = join d p from if_pos (habs.trans hd)]
  · have hdot {s : String} (hs : isAbsolute s = false) : join "." s = "." ++ "/" ++ s := by
      unfold join
      rw [hs, if_neg Bool.false_ne_true, if_neg (by decide)]
    rw [Bool.not_eq_true] at hd
    rw [hdot hd, hdot (habs.trans hd)]
    unfold join
    rw [hp, if_neg Bool.false_ne_true, if_neg Bool.false_ne_true]
    by_cases he : d = ""
    · subst he
      rw [if_pos (.inr (by decide)), if_pos (.inl rfl)]
      rfl
    · have hlast : ("." ++ "/" ++ d).toList.getLast? = d.toList.getLast? := by
        rw [String.toList_append, List.getLast?_append_of_ne_nil _ (by simpa using he)]
      have hne : "." ++ "/" ++ d ≠ "" := fun h => he (String.append_eq_empty_iff.1 h).2
      simp only [hlast, hne, he, false_or]
      split
      · rw [String.append_assoc]
      · simp only [String.append_assoc]
end DiskPath

deriving instance DecidableEq for Found

namespace Entry

/-- A file stands there. -/
def isFile : Entry → Bool
  | .file .. | .handle _ => true
  | _ => false

/-- Everything but a link is found. -/
theorem exists_found {e : Entry} (h : ∀ target, e ≠ .link target) : ∃ found, e.found? = some found := by
  cases e with
  | link target => exact absurd rfl (h target)
  | _ => exact ⟨_, rfl⟩

/-- What is found as a file can be opened. -/
theorem found?_eq_file {e : Entry} {opened : Except SystemError OpenFile} {modified : Nat}
    (h : e.found? = some (.file opened modified)) : e.isFile = true ∧ ∃ file, opened = .ok file := by
  cases e with
  | file data modified => cases h; exact ⟨rfl, _, rfl⟩
  | handle modified => cases h; exact ⟨rfl, _, rfl⟩
  | _ => cases h

end Entry

namespace FileTree

open DiskPath

/-! ## What stands below a directory -/

/-- What stands at each location below a directory. -/
def below (t : FileTree) (l : Location) : Location → Option Entry := fun r => t.entry? (l ++ r)

/-- No links. -/
def NoLinks (view : Location → Option Entry) : Prop := ∀ r target, view r ≠ some (.link target)

/-- A file system without links has none below any directory. -/
theorem noLinks_below {t : FileTree} (h : ∀ e ∈ t.entries, ∀ target, e.2 ≠ .link target) (l : Location) :
    NoLinks (t.below l) := by
  intro r target he
  unfold below entry? at he
  split at he
  · cases he
  · obtain ⟨before, after, hm, -⟩ := List.lookup_eq_some_iff.1 he
    exact h _ (by rw [hm]; exact List.mem_append_right _ (List.mem_cons_self ..)) target rfl

/-- Follows segments where no link stands. -/
def descend (view : Location → Option Entry) : Location → List String → Except SystemError Location
  | r, [] => .ok r
  | r, name :: rest =>
    if view r ≠ some .directory then .error .notADirectory
    else if name = "" ∨ name = "." then descend view r rest
    else if maxName < name.utf8ByteSize then .error .nameTooLong
    else
      match view (r ++ [name]) with
      | none => .error .notFound
      | some _ => descend view (r ++ [name]) rest

/-- What is found at a location. -/
def foundAt (view : Location → Option Entry) (r : Location) : Except SystemError Found :=
  match (view r).bind Entry.found? with
  | some found => .ok found
  | none => .error .notFound

theorem foundAt_of_found? {view : Location → Option Entry} {r : Location} {e : Entry} {found : Found}
    (he : view r = some e) (hfound : e.found? = some found) : foundAt view r = .ok found := by
  unfold foundAt
  rw [he, Option.bind_some, hfound]

theorem foundAt_ok_iff {view : Location → Option Entry} {r : Location} {found : Found} :
    foundAt view r = .ok found ↔ ∃ e, view r = some e ∧ e.found? = some found := by
  rw [← Option.bind_eq_some_iff, foundAt]
  cases (view r).bind Entry.found? <;> simp

theorem disk_eq (t : FileTree) (here : Location) (path : String) :
    t.disk here path = t.locate here path >>= foundAt t.entry? := rfl

/-- Every file of a file system can be opened. -/
theorem opened_of_disk {t : FileTree} {here : Location} {path : String} {opened : Except SystemError OpenFile}
    {modified : Nat} (h : t.disk here path = .ok (.file opened modified)) : ∃ file, opened = .ok file := by
  rw [disk_eq] at h
  cases hl : t.locate here path with
  | error e => rw [hl] at h; cases h
  | ok l =>
    rw [hl] at h
    obtain ⟨e, -, hfound⟩ := foundAt_ok_iff.1 h
    exact (Entry.found?_eq_file hfound).2

/-! ## Empty segments and dots -/

section Skip

variable {t : FileTree} {skip : String} {rest : List String}

/-- An empty segment or a dot in front of others asks for a directory, as the next one does. -/
theorem walk_skip (f : Location → List String → Except SystemError Location)
    (hs : skip = "" ∨ skip = ".") (hr : rest ≠ []) (l : Location) :
    walk t f l (skip :: rest) = walk t f l rest := by
  obtain ⟨name, rest, rfl⟩ := List.exists_cons_of_ne_nil hr
  rw [walk]
  split
  · rename_i hd
    rw [walk, if_pos hd]
  · rfl

theorem walk_append_skip {f : Location → List String → Except SystemError Location}
    (hs : skip = "" ∨ skip = ".") (hr : rest ≠ [])
    (hf : ∀ l s, f l (s ++ skip :: rest) = f l (s ++ rest)) :
    ∀ (s : List String) (l : Location), walk t f l (s ++ skip :: rest) = walk t f l (s ++ rest)
  | [], l => walk_skip f hs hr l
  | name :: s, l => by
    simp only [List.cons_append, walk, walk_append_skip hs hr hf s]
    split
    · rfl
    · split
      · rfl
      · split
        · rfl
        · split
          · rfl
          · split
            · rfl
            · rw [← List.append_assoc, hf, List.append_assoc]
            · rfl

/-- An empty segment or a dot in front of others can be left out, wherever it stands. -/
theorem walkLinks_append_skip (hs : skip = "" ∨ skip = ".") (hr : rest ≠ []) :
    ∀ (n : Nat) (l : Location) (s : List String),
      walkLinks t n l (s ++ skip :: rest) = walkLinks t n l (s ++ rest)
  | 0, l, s => walk_append_skip hs hr (fun _ _ => rfl) s l
  | n + 1, l, s => walk_append_skip hs hr (walkLinks_append_skip hs hr n) s l

theorem walk_skip_last {f : Location → List String → Except SystemError Location}
    (hs : skip = "" ∨ skip = ".")
    (hf : ∀ {l s out}, f l (s ++ [skip]) = .ok out → t.entry? out = some .directory) :
    ∀ {s : List String} {l out : Location}, walk t f l (s ++ [skip]) = .ok out →
      t.entry? out = some .directory
  | [], l, out, h => by
    simp only [List.nil_append, walk, if_pos hs] at h
    split at h
    · cases h
    · rename_i hd
      cases h
      exact not_not.1 hd
  | name :: s, l, out, h => by
    simp only [List.cons_append, walk] at h
    split at h
    · cases h
    split at h
    · exact walk_skip_last hs hf h
    split at h
    · exact walk_skip_last hs hf h
    split at h
    · cases h
    split at h
    · cases h
    · rw [← List.append_assoc] at h
      exact hf h
    · exact walk_skip_last hs hf h

/-- At the end, an empty segment or a dot asks for a directory. -/
theorem walkLinks_skip_last (hs : skip = "" ∨ skip = ".") :
    ∀ {n : Nat} {l : Location} {s : List String} {out : Location},
      walkLinks t n l (s ++ [skip]) = .ok out → t.entry? out = some .directory
  | 0, _, _, _, h => by
    refine walk_skip_last hs (fun h => ?_) h
    cases h
  | _ + 1, _, _, _, h => walk_skip_last hs (walkLinks_skip_last hs) h

/-- The segments that are neither empty nor a dot. -/
def properSegments (s : List String) : List String := s.filter fun name => name ≠ "" ∧ name ≠ "."

theorem properSegments_cons_of_proper {name : String} (h : name ≠ "" ∧ name ≠ ".") (s : List String) :
    properSegments (name :: s) = name :: properSegments s :=
  List.filter_cons_of_pos (decide_eq_true h)

theorem properSegments_cons_of_skip {name : String} (h : name = "" ∨ name = ".") (s : List String) :
    properSegments (name :: s) = properSegments s :=
  List.filter_cons_of_neg (by simpa [← not_or] using h)

/-- The others can all be left out, if there is none at the end. -/
theorem walkLinks_append_properSegments (n : Nat) (l : Location) :
    ∀ {p : List String} (s : List String), (∀ name ∈ p.getLast?, name ≠ "" ∧ name ≠ ".") →
      walkLinks t n l (s ++ properSegments p) = walkLinks t n l (s ++ p)
  | [], _, _ => rfl
  | name :: p, s, hlast => by
    have hrest : ∀ last ∈ p.getLast?, last ≠ "" ∧ last ≠ "." := by
      cases p with
      | nil => exact fun _ h => nomatch h
      | cons next p => exact hlast
    by_cases hname : name ≠ "" ∧ name ≠ "."
    · have ih := walkLinks_append_properSegments n l (s ++ [name]) hrest
      rw [List.append_assoc, List.append_assoc] at ih
      rw [properSegments_cons_of_proper hname]
      exact ih
    · have hskip : name = "" ∨ name = "." := by rwa [← not_or, not_not] at hname
      have hne : p ≠ [] := by
        rintro rfl
        exact hname (hlast name rfl)
      rw [walkLinks_append_skip hskip hne, properSegments_cons_of_skip hskip,
        walkLinks_append_properSegments n l s hrest]

end Skip

/-! ## A path in two parts -/

theorem walk_append {t : FileTree} {n : Nat} {f : Location → List String → Except SystemError Location}
    (hn : walkLinks t n = walk t f)
    (hf : ∀ {l s out}, f l s = .ok out → ∃ m, ∀ rest, f l (s ++ rest) = walkLinks t m out rest) :
    ∀ {s : List String} {l out : Location}, walk t f l s = .ok out →
      ∃ m, ∀ rest, walk t f l (s ++ rest) = walkLinks t m out rest
  | [], l, out, h => by
    simp only [walk, Except.ok.injEq] at h
    subst h
    exact ⟨n, fun rest => by rw [hn]; rfl⟩
  | name :: s, l, out, h => by
    simp only [walk] at h
    split at h
    · cases h
    rename_i hd
    split at h
    · rename_i hs
      obtain ⟨m, hm⟩ := walk_append hn hf h
      exact ⟨m, fun rest => by rw [List.cons_append, walk, if_neg hd, if_pos hs, hm]⟩
    rename_i hs
    split at h
    · rename_i hu
      obtain ⟨m, hm⟩ := walk_append hn hf h
      exact ⟨m, fun rest => by rw [List.cons_append, walk, if_neg hd, if_neg hs, if_pos hu, hm]⟩
    rename_i hu
    split at h
    · cases h
    rename_i hl
    split at h
    · cases h
    · rename_i target he
      obtain ⟨m, hm⟩ := hf h
      refine ⟨m, fun rest => ?_⟩
      rw [List.cons_append, walk, if_neg hd, if_neg hs, if_neg hu, if_neg hl, he, ← hm, List.append_assoc]
    · rename_i e hlink he
      obtain ⟨m, hm⟩ := walk_append hn hf h
      refine ⟨m, fun rest => ?_⟩
      rw [List.cons_append, walk, if_neg hd, if_neg hs, if_neg hu, if_neg hl, he]
      cases e with
      | link target => exact absurd rfl (hlink target)
      | _ => exact hm rest

/-- Where the first part of a path leads somewhere, the rest of it is followed from there, by way of
the links that are left. -/
theorem walkLinks_append {t : FileTree} : ∀ {n : Nat} {l : Location} {s : List String} {out : Location},
    walkLinks t n l s = .ok out → ∃ m, ∀ rest, walkLinks t n l (s ++ rest) = walkLinks t m out rest
  | 0, _, _, _, h => walk_append (n := 0) rfl (fun h => nomatch h) h
  | n + 1, _, _, _, h => walk_append (n := n + 1) rfl walkLinks_append h

/-! ## Below a directory without links -/

theorem walk_below {t : FileTree} {l : Location} (hno : NoLinks (t.below l))
    (f : Location → List String → Except SystemError Location) :
    ∀ (s : List String) (r : Location), ".." ∉ s →
      walk t f (l ++ r) s = (descend (t.below l) r s).map (l ++ ·)
  | [], r, _ => rfl
  | name :: s, r, hup => by
    rw [List.mem_cons, not_or] at hup
    simp only [walk, descend]
    split
    · rename_i hd
      rw [if_pos (show t.below l r ≠ _ from hd)]; rfl
    rename_i hd
    rw [if_neg (show ¬ t.below l r ≠ _ from hd)]
    split
    · exact walk_below hno f s r hup.2
    rw [if_neg (Ne.symm hup.1)]
    split
    · rfl
    have he : t.entry? (l ++ r ++ [name]) = t.below l (r ++ [name]) := by
      rw [List.append_assoc]; rfl
    rw [he]
    cases hv : t.below l (r ++ [name]) with
    | none => rfl
    | some e =>
      cases e with
      | link target => exact absurd hv (hno _ target)
      | _ =>
        rw [List.append_assoc]
        exact walk_below hno f s (r ++ [name]) hup.2

/-- Below a directory without links, however many links may still be followed. -/
theorem walkLinks_below {t : FileTree} {l : Location} (hno : NoLinks (t.below l)) (n : Nat)
    {s : List String} (hup : ".." ∉ s) :
    walkLinks t n l s = (descend (t.below l) [] s).map (l ++ ·) := by
  cases n with
  | zero => rw [← walk_below hno _ s [] hup, List.append_nil]; rfl
  | succ n => rw [← walk_below hno (walkLinks t n) s [] hup, List.append_nil]; rfl

/-! ## What names lead to -/

/-- A name that is too long is looked up: those in front of it lead through directories only. -/
def LooksUpLongName (view : Location → Option Entry) (r : Location) (names : List String) : Prop :=
  ∃ before name after, names = before ++ name :: after ∧ maxName < name.utf8ByteSize ∧
    ∀ p, p <+: before → view (r ++ p) = some .directory

/-- Names that lead anywhere lead to the location that they spell, and there is something. -/
theorem descend_ok {view : Location → Option Entry} :
    ∀ {names : List String} {r out : Location}, (∀ name ∈ names, name ≠ "" ∧ name ≠ ".") →
      descend view r names = .ok out → out = r ++ names ∧ (names ≠ [] → view out ≠ none)
  | [], r, out, _, h => by
    simp only [descend, Except.ok.injEq] at h
    subst h
    exact ⟨(List.append_nil r).symm, fun hne => absurd rfl hne⟩
  | name :: names, r, out, ho, h => by
    have hn := ho name (List.mem_cons_self ..)
    have ho' : ∀ n ∈ names, n ≠ "" ∧ n ≠ "." := fun n hm => ho n (List.mem_cons_of_mem _ hm)
    rw [descend, if_neg (show ¬ (name = "" ∨ name = ".") from not_or.2 hn)] at h
    split at h
    · cases h
    split at h
    · cases h
    split at h
    · cases h
    · rename_i e he
      obtain ⟨rfl, hv⟩ := descend_ok ho' h
      refine ⟨by rw [List.append_assoc]; rfl, fun _ => ?_⟩
      by_cases hnil : names = []
      · subst hnil
        rw [List.append_nil, he]
        exact Option.some_ne_none e
      · exact hv hnil

theorem descend_error {view : Location → Option Entry} {e : SystemError} :
    ∀ {s : List String} {r : Location}, descend view r s = .error e →
      e.isMissing = true ∨ e = .nameTooLong
  | [], _, h => nomatch h
  | name :: s, r, h => by
    rw [descend] at h
    split at h
    · cases h; exact .inl rfl
    split at h
    · exact descend_error h
    split at h
    · cases h; exact .inr rfl
    split at h
    · cases h; exact .inl rfl
    · exact descend_error h

/-- Names are too long for the system if it is asked for one of them that is. -/
theorem descend_eq_nameTooLong_iff {view : Location → Option Entry} :
    ∀ {names : List String} {r : Location}, (∀ name ∈ names, name ≠ "" ∧ name ≠ ".") →
      (descend view r names = .error .nameTooLong ↔ LooksUpLongName view r names)
  | [], r, _ => by
    constructor
    · intro h; cases h
    · rintro ⟨before, name, after, h, -⟩
      exact absurd h.symm (by simp)
  | name :: names, r, ho => by
    have hn := ho name (List.mem_cons_self ..)
    have ho' : ∀ n ∈ names, n ≠ "" ∧ n ≠ "." := fun n hm => ho n (List.mem_cons_of_mem _ hm)
    rw [descend, if_neg (show ¬ (name = "" ∨ name = ".") from not_or.2 hn)]
    by_cases hd : view r = some .directory
    · rw [if_neg (not_not.2 hd)]
      by_cases hl : maxName < name.utf8ByteSize
      · rw [if_pos hl]
        refine ⟨fun _ => ⟨[], name, names, rfl, hl, fun p hp => ?_⟩, fun _ => rfl⟩
        rw [List.prefix_nil.1 hp, List.append_nil, hd]
      · rw [if_neg hl]
        -- the long name is behind this one, which therefore stands for a directory
        have hrest : LooksUpLongName view r (name :: names) ↔
            view (r ++ [name]) = some .directory ∧ LooksUpLongName view (r ++ [name]) names := by
          constructor
          · rintro ⟨before, long, after, h, hlong, hp⟩
            cases before with
            | nil =>
              rw [List.nil_append, List.cons.injEq] at h
              exact absurd (h.1 ▸ hlong) hl
            | cons first before =>
              rw [List.cons_append, List.cons.injEq] at h
              obtain ⟨rfl, rfl⟩ := h
              refine ⟨hp [name] (List.prefix_iff_eq_append.2 rfl), before, long, after, rfl, hlong, ?_⟩
              intro p hpre
              rw [List.append_assoc]
              exact hp (name :: p) ((List.prefix_cons_inj name).2 hpre)
          · rintro ⟨hdir, before, long, after, rfl, hlong, hp⟩
            refine ⟨name :: before, long, after, rfl, hlong, fun p hpre => ?_⟩
            rcases List.prefix_cons_iff.1 hpre with rfl | ⟨q, rfl, hq⟩
            · rw [List.append_nil, hd]
            · have := hp q hq
              rwa [List.append_assoc] at this
        rw [hrest, ← descend_eq_nameTooLong_iff ho']
        cases hv : view (r ++ [name]) with
        | none => exact ⟨fun h => (nomatch h), fun h => (nomatch h.1)⟩
        | some e =>
          refine ⟨fun h => ⟨?_, h⟩, fun h => h.2⟩
          cases names with
          | nil => cases h
          | cons next names =>
            by_contra hne
            rw [descend, if_pos (hv ▸ hne)] at h
            cases h
    · rw [if_pos hd]
      refine ⟨fun h => (nomatch h), ?_⟩
      rintro ⟨before, long, after, -, -, hp⟩
      have := hp [] (List.nil_prefix ..)
      rw [List.append_nil] at this
      exact absurd this hd

/-! ## Joined paths -/

theorem segments_ne_nil (path : String) : segments path ≠ [] := by
  unfold segments
  rw [ne_eq, List.map_eq_nil_iff]
  exact List.splitOn_ne_nil _ _

/-- A joined path is followed like the segments of its two parts. -/
theorem walkLinks_join {p : String} (hp : isAbsolute p = false) (t : FileTree) (n : Nat) (l : Location)
    (d : String) : walkLinks t n l (segments (join d p)) = walkLinks t n l (segments d ++ segments p) := by
  have hne := segments_ne_nil p
  unfold join
  rw [hp, if_neg Bool.false_ne_true]
  split
  · rename_i hd
    rcases hd with rfl | hd
    · exact (walkLinks_append_skip (.inl rfl) hne n l []).symm
    · -- the slash at the end of the directory makes an empty segment, which is left out
      obtain ⟨cs, hcs⟩ := List.getLast?_eq_some_iff.1 hd
      have h1 : segments (d ++ p) = (cs.splitOn '/').map String.ofList ++ segments p := by
        unfold segments
        rw [String.toList_append, hcs, List.append_assoc, List.singleton_append,
          List.splitOn_append_cons_self, List.map_append]
      have h2 : segments d = (cs.splitOn '/').map String.ofList ++ [""] := by
        unfold segments
        rw [hcs, List.splitOn_append_cons_self, List.map_append]
        rfl
      rw [h1, h2, List.append_assoc, List.singleton_append, walkLinks_append_skip (.inl rfl) hne]
  · have h : segments (d ++ "/" ++ p) = segments d ++ segments p := by
      unfold segments
      rw [String.append_assoc, String.toList_append, String.toList_append,
        show "/".toList = ['/'] from rfl, List.singleton_append, List.splitOn_append_cons_self,
        List.map_append]
    rw [h]

theorem start_join {p : String} (hp : isAbsolute p = false) (here : Location) (d : String) :
    start here (join d p) = start here d := by
  have hh := not_isAbsolute_iff.1 hp
  unfold join
  rw [hp, if_neg Bool.false_ne_true]
  by_cases hd : d = ""
  · subst hd
    rw [if_pos (.inl rfl)]
    unfold start
    rw [String.empty_append, if_neg hh]
    rfl
  · have hhead (s : String) : (d ++ s).toList.head? = d.toList.head? := by
      rw [String.toList_append, List.head?_append_of_ne_nil _ (by simpa using hd)]
    unfold start
    split
    · rw [hhead]
    · rw [String.append_assoc, hhead]

/-- A path leads to a location, if it is not too long. -/
def Leads (t : FileTree) (here : Location) (path : String) (l : Location) : Prop :=
  walkLinks t maxLinks (start here path) (segments path) = .ok l

theorem locate_ok {t : FileTree} {here l : Location} {path : String} (h : t.locate here path = .ok l) :
    t.Leads here path l ∧ '\x00' ∉ path.toList ∧ path.utf8ByteSize < maxPath ∧ path ≠ "" := by
  unfold locate at h
  split at h
  · cases h
  rename_i hn
  split at h
  · cases h
  rename_i hl
  split at h
  · cases h
  rename_i he
  exact ⟨h, by simpa using hn, by omega, he⟩

/-- A path leads where it leads from the working directory. -/
theorem Leads.dot_join {t : FileTree} {here l : Location} {path : String} (h : t.Leads here path l) :
    t.Leads here (join "." path) l := by
  by_cases hp : isAbsolute path = true
  · unfold join
    rw [hp, if_pos rfl]
    exact h
  · rw [Bool.not_eq_true] at hp
    unfold Leads at h ⊢
    rw [walkLinks_join hp, start_join hp]
    rw [show start here path = here from if_neg (not_isAbsolute_iff.1 hp)] at h
    exact (walkLinks_append_skip (.inr rfl) (segments_ne_nil path) maxLinks here []).trans h

/-- A path joined to that of a directory is followed below the directory. -/
theorem Leads.walkLinks_join {t : FileTree} {here l : Location} {d p : String} (hd : t.Leads here d l)
    (hno : NoLinks (t.below l)) (hp : isAbsolute p = false) (hup : ".." ∉ segments p) :
    walkLinks t maxLinks (start here (join d p)) (segments (join d p)) =
      (descend (t.below l) [] (segments p)).map (l ++ ·) := by
  obtain ⟨m, hm⟩ := walkLinks_append hd
  rw [FileTree.walkLinks_join hp, start_join hp, hm, walkLinks_below hno m hup]

/-- A path joined to that of a directory leads to what is found by following it below the directory,
if it is no path that the system refuses at once. -/
theorem disk_join {t : FileTree} {here l : Location} {d p : String} (hd : t.Leads here d l)
    (hno : NoLinks (t.below l)) (hp : isAbsolute p = false) (hup : ".." ∉ segments p)
    (hne : join d p ≠ "") :
    t.disk here (join d p) =
      if (join d p).toList.contains '\x00' then .error .nulInName
      else if maxPath ≤ (join d p).utf8ByteSize then .error .nameTooLong
      else descend (t.below l) [] (segments p) >>= foundAt (t.below l) := by
  rw [disk_eq, locate, if_neg hne, hd.walkLinks_join hno hp hup]
  split
  · rfl
  split
  · rfl
  cases descend (t.below l) [] (segments p) with
  | error e => rfl
  | ok r => rfl

/-- Behind a dot, a path leads to what it leads to without one, unless it has become too long. -/
theorem disk_dot_join_eq {t : FileTree} {here : Location} {path : String} {found : Found}
    (h : t.disk here path = .ok found) :
    t.disk here (join "." path) =
      if maxPath ≤ (join "." path).utf8ByteSize then .error .nameTooLong else .ok found := by
  rw [disk_eq] at h
  cases hl : t.locate here path with
  | error e => rw [hl] at h; cases h
  | ok l =>
    rw [hl] at h
    obtain ⟨hleads, hnul, -, hne⟩ := locate_ok hl
    have hdot := hleads.dot_join
    have hn : ((join "." path).toList.contains '\x00') = false := by
      rw [List.contains_eq_mem, decide_eq_false_iff_not]
      intro hm
      rcases mem_join hm with hm | hm | hm
      · exact absurd hm (by decide)
      · cases hm
      · exact hnul hm
    have hne' : join "." path ≠ "" := by
      by_cases hp : isAbsolute path = true
      · rw [join, if_pos hp]
        exact hne
      · exact (join_ne_empty (by decide)).resolve_right hp
    rw [disk_eq, locate, hn, if_neg Bool.false_ne_true, if_neg hne']
    split
    · rfl
    · rw [hdot]
      exact h

theorem disk_dot_join {t : FileTree} {here : Location} {path : String} {found : Found}
    (h : t.disk here path = .ok found) :
    t.disk here (join "." path) = .ok found ∨ t.disk here (join "." path) = .error .nameTooLong := by
  rw [disk_dot_join_eq h]
  split
  · exact .inr rfl
  · exact .inl rfl

/-! ## Files behind directories -/

/-- A file stands below a directory: names that are not too long lead through directories to it. -/
structure HoldsFile (t : FileTree) (l : Location) (names : List String) (data : Bytes) (modified : Nat) :
    Prop where
  directory : ∀ k < names.length, t.below l (names.take k) = some .directory
  file : t.below l names = some (.file data modified)
  short : ∀ name ∈ names, name.utf8ByteSize ≤ maxName

/-- Names lead through directories to the file that they spell, whatever links stand elsewhere. -/
theorem HoldsFile.walk {t : FileTree} {data : Bytes} {modified : Nat}
    (f : Location → List String → Except SystemError Location) :
    ∀ {names : List String} {l : Location}, (∀ name ∈ names, name ≠ "" ∧ name ≠ "." ∧ name ≠ "..") →
      t.HoldsFile l names data modified → FileTree.walk t f l names = .ok (l ++ names)
  | [], l, _, _ => by rw [List.append_nil]; rfl
  | name :: names, l, ho, h => by
    have hn := ho name (List.mem_cons_self ..)
    have hdir : t.entry? l = some .directory := by
      simpa [below] using h.directory 0 (by simp)
    have hrest : t.HoldsFile (l ++ [name]) names data modified := by
      refine ⟨fun k hk => ?_, ?_, fun n hn => h.short n (List.mem_cons_of_mem _ hn)⟩
      · simpa [below] using h.directory (k + 1) (by simpa using hk)
      · simpa [below] using h.file
    have hshort := h.short name (List.mem_cons_self ..)
    -- another name follows, or this one is that of the file
    have hnext : ∃ e, t.entry? (l ++ [name]) = some e ∧ ∀ target, e ≠ .link target := by
      cases names with
      | nil => exact ⟨.file data modified, by simpa [below] using hrest.file, fun target he => nomatch he⟩
      | cons next names =>
        exact ⟨.directory, by simpa [below] using hrest.directory 0 (by simp), fun target he => nomatch he⟩
    obtain ⟨e, he, hlink⟩ := hnext
    have ih := HoldsFile.walk f (fun n hn => ho n (List.mem_cons_of_mem _ hn)) hrest
    rw [List.append_assoc, List.singleton_append] at ih
    rw [FileTree.walk, if_neg (not_not.2 hdir), if_neg (not_or.2 ⟨hn.1, hn.2.1⟩), if_neg hn.2.2,
      if_neg (Nat.not_lt.2 hshort), he]
    cases e with
    | link target => exact absurd rfl (hlink target)
    | _ => exact ih

/-- A path joined to that of a directory leads to the file that its names stand for there. -/
theorem HoldsFile.disk_join {t : FileTree} {here l : Location} {d p : String} {data : Bytes} {modified : Nat}
    (h : t.HoldsFile l (segments p) data modified) (hd : t.Leads here d l)
    (ho : ∀ name ∈ segments p, name ≠ "" ∧ name ≠ "." ∧ name ≠ "..") (hp : isAbsolute p = false)
    (hnul : '\x00' ∉ (join d p).toList) (hlimit : (join d p).utf8ByteSize < maxPath) (hne : join d p ≠ "") :
    t.disk here (join d p) = .ok (.file (.ok ⟨data, true⟩) modified) := by
  obtain ⟨m, hm⟩ := walkLinks_append hd
  have hwalk : walkLinks t m l (segments p) = .ok (l ++ segments p) := by
    cases m <;> exact h.walk _ ho
  have hlocate : t.locate here (join d p) = .ok (l ++ segments p) := by
    rw [locate, if_neg (by simpa using hnul), if_neg (Nat.not_le.2 hlimit), if_neg hne, FileTree.walkLinks_join hp,
      start_join hp, hm, hwalk]
  rw [disk_eq, hlocate]
  exact foundAt_of_found? h.file rfl

end FileTree

end SinglePage
