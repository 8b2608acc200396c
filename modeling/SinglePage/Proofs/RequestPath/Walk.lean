/-
Walks along the segments of a path. A walk is at a place that is known by its names, outermost first: a name
leads into it, ".." leads out of the innermost one and stays at the root, an empty segment and a dot lead
nowhere. Resolving a path follows the one walk from the root along it (`walk_iff`), and so the canonical path
of a request is the place that its decoded segments lead to (`canonicalize_ok_iff`).
-/
import SinglePage.Proofs.RequestPath.Canonical

namespace SinglePage.RequestPath

/-- The walk along a path from one place leads to another. -/
inductive Walk : List Segment → List Segment → List Segment → Prop where
  | done {names : List Segment} : Walk names [] names
  | skip {names path names' : List Segment} {segment : Segment} : segment = [] ∨ segment = ['.'] →
      Walk names path names' → Walk names (segment :: path) names'
  | root {path names' : List Segment} : Walk [] path names' → Walk [] (['.', '.'] :: path) names'
  | out {names path names' : List Segment} {name : Segment} : Walk names path names' →
      Walk (names ++ [name]) (['.', '.'] :: path) names'
  | into {names path names' : List Segment} {segment : Segment} : segment ≠ [] → segment ≠ ['.'] →
      segment ≠ ['.', '.'] → Walk (names ++ [segment]) path names' → Walk names (segment :: path) names'

/-! ## The one walk along a path -/

section Enter

variable {segment : Segment} (names : List Segment)

theorem enter_skip (h : segment = [] ∨ segment = ['.']) : enter names segment = names := if_pos h

theorem enter_parent : enter names ['.', '.'] = names.tail := rfl

theorem enter_name (h1 : segment ≠ []) (h2 : segment ≠ ['.']) (h3 : segment ≠ ['.', '.']) :
    enter names segment = segment :: names := by
  unfold enter
  rw [if_neg (not_or.2 ⟨h1, h2⟩), if_neg h3]

end Enter

/-- A walk leads where the segments lead that are taken into the stack of the names one by one. -/
theorem walk_foldl_enter (names path : List Segment) :
    Walk names path (path.foldl enter names.reverse).reverse := by
  induction path generalizing names with
  | nil =>
    rw [List.foldl_nil, List.reverse_reverse]
    exact .done
  | cons segment path ih =>
    rw [List.foldl_cons]
    by_cases hskip : segment = [] ∨ segment = ['.']
    · rw [enter_skip _ hskip]
      exact .skip hskip (ih names)
    by_cases hparent : segment = ['.', '.']
    · subst hparent
      rw [enter_parent]
      rcases List.eq_nil_or_concat names with rfl | ⟨names, name, rfl⟩
      · exact .root (ih [])
      · rw [List.concat_eq_append, List.reverse_append, List.reverse_singleton, List.singleton_append,
          List.tail_cons]
        exact .out (ih names)
    · rw [not_or] at hskip
      have h := ih (names ++ [segment])
      rw [List.reverse_append, List.reverse_singleton, List.singleton_append] at h
      rw [enter_name _ hskip.1 hskip.2 hparent]
      exact .into hskip.1 hskip.2 hparent h

theorem Walk.eq_foldl_enter {names path names' : List Segment} (h : Walk names path names') :
    names' = (path.foldl enter names.reverse).reverse := by
  induction h with
  | done => rw [List.foldl_nil, List.reverse_reverse]
  | skip hskip _ ih => rw [List.foldl_cons, enter_skip _ hskip, ih]
  | root _ ih => exact ih
  | out _ ih =>
    rw [List.foldl_cons, enter_parent, List.reverse_append, List.reverse_singleton, List.singleton_append,
      List.tail_cons, ih]
  | into h1 h2 h3 _ ih =>
    rw [List.reverse_append, List.reverse_singleton, List.singleton_append] at ih
    rw [List.foldl_cons, enter_name _ h1 h2 h3, ih]

/-- There is one walk along a path from each place. It takes the segments into the names one by one. -/
theorem walk_iff {names path names' : List Segment} :
    Walk names path names' ↔ names' = (path.foldl enter names.reverse).reverse := by
  constructor
  · exact fun h => h.eq_foldl_enter
  · rintro rfl
    exact walk_foldl_enter names path

/-- The walk from the root leads where the path resolves to. -/
theorem walk_root_iff {path names : List Segment} : Walk [] path names ↔ names = resolve path := walk_iff

/-- Along one path and then another, a walk leads from where the first path resolves to to where both of
them resolve to together. -/
theorem walk_resolve_iff {path path' names : List Segment} :
    Walk (resolve path) path' names ↔ names = resolve (path ++ path') := by
  rw [walk_iff, resolve, List.reverse_reverse, ← List.foldl_append]
  rfl

/-! ## Canonical paths -/

/-- A canonical path is the place that the segments of a request path lead to from the root. -/
theorem canonicalize_ok_iff {raw path : String} : canonicalize raw = .ok path ↔
    ∃ text names, decode raw = .ok text ∧ Walk [] (segments text.toList) names ∧ path = join names := by
  constructor
  · intro h
    obtain ⟨text, hdecode, rfl⟩ := canonicalize_ok h
    exact ⟨text, _, hdecode, walk_root_iff.2 rfl, rfl⟩
  · rintro ⟨text, names, hdecode, hwalk, rfl⟩
    rw [canonicalize, hdecode, walk_root_iff.1 hwalk]
    rfl

end SinglePage.RequestPath
