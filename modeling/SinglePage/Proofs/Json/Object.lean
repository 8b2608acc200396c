/-
Objects of texts read back. The reader takes an object whose values are texts, with white space wherever
JSON allows it and nothing else around it. Main statements: what is written for a list of members reads
as that list (`readObject?_object`), so no two lists are written alike (`object_injective`).
-/
import SinglePage.Json.Quoted

namespace SinglePage.Json

/-! ## What is read is gone -/

theorem exists_of_bind_cons {read : Option (List Char × List Char)} {c : Char} {text rest : List Char}
    (h : (do let (text, rest) ← read; return (c :: text, rest)) = some (text, rest)) :
    ∃ text, read = some (text, rest) := by
  obtain ⟨⟨text, rest⟩, hread, h⟩ := Option.bind_eq_some_iff.1 h
  cases h
  exact ⟨text, hread⟩

theorem length_unquoteRest?_lt {cs text rest : List Char} (h : unquoteRest? cs = some (text, rest)) :
    rest.length < cs.length := by
  fun_induction unquoteRest? cs generalizing text rest with
  | case1 => cases h
  | case2 => cases h; simp
  | case3 a b c d cs ih =>
    obtain ⟨n, -, h⟩ := Option.bind_eq_some_iff.1 h
    split at h
    · obtain ⟨text, h⟩ := exists_of_bind_cons h
      have := ih h
      simp only [List.length_cons]
      omega
    · cases h
  | case4 c cs _ ih =>
    obtain ⟨d, -, h⟩ := Option.bind_eq_some_iff.1 h
    obtain ⟨text, h⟩ := exists_of_bind_cons h
    have := ih h
    simp only [List.length_cons]
    omega
  | case5 => cases h
  | case6 c cs _ _ _ _ ih =>
    obtain ⟨text, h⟩ := exists_of_bind_cons h
    have := ih h
    simp only [List.length_cons]
    omega

theorem length_unquote?_lt {cs text rest : List Char} (h : unquote? cs = some (text, rest)) :
    rest.length < cs.length := by
  unfold unquote? at h
  split at h
  · have := length_unquoteRest?_lt h
    simp only [List.length_cons]
    omega
  · cases h

/-! ## Reading -/

/-- White space between the parts of an object. -/
def isSpace (c : Char) : Bool := c = ' ' ∨ c = '\t' ∨ c = '\n' ∨ c = '\r'

/-- What follows the white space in front. -/
def skip (cs : List Char) : List Char := cs.dropWhile isSpace

theorem length_skip_le (cs : List Char) : (skip cs).length ≤ cs.length :=
  (List.dropWhile_sublist isSpace).length_le

/-- Reads a name, a colon and a value: the member, and what follows it. -/
def readMember? (cs : List Char) : Option ((String × String) × List Char) :=
  match unquote? (skip cs) with
  | none => none
  | some (name, cs) =>
    match skip cs with
    | ':' :: cs =>
      match unquote? (skip cs) with
      | none => none
      | some (value, cs) => some ((String.ofList name, String.ofList value), skip cs)
    | _ => none

theorem length_readMember?_lt {cs rest : List Char} {member : String × String}
    (h : readMember? cs = some (member, rest)) : rest.length < cs.length := by
  unfold readMember? at h
  split at h
  · cases h
  rename_i hname
  split at h
  · rename_i hcolon
    split at h
    · cases h
    rename_i hvalue
    cases h
    have h₁ := length_unquote?_lt hname
    have h₂ := length_unquote?_lt hvalue
    have h₃ := congrArg List.length hcolon
    have := length_skip_le
    simp only [List.length_cons] at h₃
    grind
  · cases h

/-- Reads one member or more with commas between them, up to the closing brace: the members, and what
follows the brace. -/
def readMembers? (cs : List Char) : Option (List (String × String) × List Char) :=
  match _ : readMember? cs with
  | some (member, '}' :: rest) => some ([member], rest)
  | some (member, ',' :: rest) => do
    let (members, rest) ← readMembers? rest
    return (member :: members, rest)
  | _ => none
termination_by cs.length
decreasing_by
  have := length_readMember?_lt ‹_›
  simp only [List.length_cons] at this
  omega

/-- Reads a text that is an object of texts: its members in the order in which they are written. -/
def readObject? (cs : List Char) : Option (List (String × String)) :=
  match skip cs with
  | '{' :: cs =>
    match skip cs with
    | '}' :: rest => if skip rest = [] then some [] else none
    | cs => do
      let (members, rest) ← readMembers? cs
      if skip rest = [] then some members else none
  | _ => none

/-! ## What is written reads back -/

theorem skip_quote_append (text rest : List Char) : skip (quote text ++ rest) = quote text ++ rest := rfl

/-- A member reads back, whatever follows it that is no white space. -/
theorem readMember?_append (member : String × String) {c : Char} (hc : isSpace c = false) (rest : List Char) :
    readMember? (quote member.1.toList ++ ':' :: (quote member.2.toList ++ c :: rest)) =
      some (member, c :: rest) := by
  have hcolon : skip (':' :: (quote member.2.toList ++ c :: rest)) = ':' :: (quote member.2.toList ++ c :: rest) :=
    rfl
  have hrest : skip (c :: rest) = c :: rest := List.dropWhile_cons_of_neg (by rw [hc]; exact Bool.false_ne_true)
  unfold readMember?
  simp only [skip_quote_append, unquote?_quote_append, hcolon, hrest, String.ofList_toList]

theorem readMembers?_of_brace {cs rest : List Char} {member : String × String}
    (h : readMember? cs = some (member, '}' :: rest)) : readMembers? cs = some ([member], rest) := by
  unfold readMembers?
  split <;> grind

theorem readMembers?_of_comma {cs rest rest' : List Char} {member : String × String}
    {members : List (String × String)} (h : readMember? cs = some (member, ',' :: rest))
    (hrest : readMembers? rest = some (members, rest')) :
    readMembers? cs = some (member :: members, rest') := by
  unfold readMembers?
  split
  · grind
  · rename_i h'
    rw [h] at h'
    cases h'
    rw [hrest]
    rfl
  · grind

/-- A member of an object as it is written. -/
def memberText (member : String × String) : List Char :=
  quote member.1.toList ++ ':' :: quote member.2.toList

theorem object_eq (entries : List (String × String)) :
    object entries = '{' :: [','].intercalate (entries.map memberText) ++ ['}'] := by
  rw [object, members, List.map_map]
  rfl

theorem readMembers?_append (rest : List Char) : ∀ {entries : List (String × String)}, entries ≠ [] →
    readMembers? ([','].intercalate (entries.map memberText) ++ '}' :: rest) = some (entries, rest)
  | [member], _ => by
    apply readMembers?_of_brace
    rw [List.map_singleton, List.intercalate_singleton, memberText, List.append_assoc]
    exact readMember?_append member rfl rest
  | member :: next :: entries, _ => by
    have ih := readMembers?_append rest (List.cons_ne_nil next entries)
    refine readMembers?_of_comma ?_ ih
    -- the comma ends the member, and what follows it is read as the members that are left
    have hcomma : isSpace ',' = false := by decide
    rw [List.map_cons, List.map_cons, List.intercalate_cons_cons, memberText]
    simpa only [List.append_assoc, List.cons_append, List.nil_append] using readMember?_append member hcomma _

theorem readObject?_quote_append (name tail : List Char) :
    readObject? ('{' :: (quote name ++ tail)) = (do
      let (members, rest) ← readMembers? (quote name ++ tail)
      if skip rest = [] then some members else none) := rfl

theorem intercalate_members_eq (member : String × String) (entries : List (String × String)) :
    ∃ tail, [','].intercalate ((member :: entries).map memberText) = quote member.1.toList ++ tail := by
  cases entries with
  | nil => exact ⟨_, List.intercalate_singleton⟩
  | cons next entries =>
    rw [List.map_cons, List.map_cons, List.intercalate_cons_cons, memberText, List.append_assoc, List.append_assoc]
    exact ⟨_, rfl⟩

/-- What is written for a list of members reads as that list. -/
theorem readObject?_object (entries : List (String × String)) : readObject? (object entries) = some entries := by
  rw [object_eq]
  cases entries with
  | nil => rfl
  | cons member entries =>
    have hread := readMembers?_append [] (List.cons_ne_nil member entries)
    obtain ⟨tail, htail⟩ := intercalate_members_eq member entries
    rw [htail, List.append_assoc] at hread
    rw [htail, List.cons_append, List.append_assoc, readObject?_quote_append, hread]
    rfl

theorem object_injective : Function.Injective object := by
  intro entries entries' h
  have hread := readObject?_object entries
  rw [h, readObject?_object, Option.some.injEq] at hread
  exact hread.symm

end SinglePage.Json
