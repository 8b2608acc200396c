/-
A body that is polled some times and then dropped. Whatever the body, its request is logged once, and
the line tells whether the transfer was completed (`lines_eq`). Data in memory counts as sent as soon
as it has been yielded (`completes_whole`). A file counts as sent only if a poll has found its end,
which takes one poll more than its data does (`completes_file`, `length_delivered_file`).
-/
import SinglePage.AccessLog
import Mathlib.Tactic

namespace SinglePage

/-! ## Polling a body -/

namespace Body

/-- Polls a number of times: what each poll yields, and the body after them. -/
def polls : Nat → Body → List (Option Frame) × Body
  | 0, b => ([], b)
  | n + 1, b => (b.poll.1 :: (polls n b.poll.2).1, (polls n b.poll.2).2)

/-- The data that polls yield. -/
def delivered (frames : List (Option Frame)) : Bytes :=
  frames.flatMap fun frame => (frame.map Frame.bytes).getD []

/-- A body that is polled a number of times and then dropped tells that it was sent: a poll found the
end before any failed, or the body knows at the drop that it has ended. -/
def completes : Nat → Body → Bool
  | 0, b => b.isEnd
  | n + 1, b =>
    match b.poll.1 with
    | none => true
    | some (.failure _) => false
    | some _ => completes n b.poll.2

/-- The body is read from a file. -/
def isFile : Body → Bool
  | .file _ => true
  | _ => false

@[simp] theorem delivered_nil : delivered [] = [] := rfl

@[simp] theorem delivered_cons_none (frames : List (Option Frame)) :
    delivered (none :: frames) = delivered frames := rfl

@[simp] theorem delivered_cons_data (data : Bytes) (frames : List (Option Frame)) :
    delivered (some (.data data) :: frames) = data ++ delivered frames := rfl

/-! ### Data in memory -/

theorem poll_whole {data : Bytes} (h : data ≠ []) : (whole data).poll = (some (.data data), whole []) := by
  cases data with
  | nil => exact absurd rfl h
  | cons b data => rfl

theorem delivered_whole_nil (n : Nat) : delivered (polls n (whole [])).1 = [] := by
  induction n with
  | zero => rfl
  | succ n ih => exact ih

theorem completes_whole_nil (n : Nat) : completes n (whole []) = true := by
  cases n <;> rfl

/-- The first poll yields all data that is in memory. -/
theorem delivered_whole (data : Bytes) (n : Nat) :
    delivered (polls n (whole data)).1 = if n = 0 then [] else data := by
  cases n with
  | zero => rfl
  | succ n =>
    by_cases h : data = []
    · subst h
      exact delivered_whole_nil (n + 1)
    · simp [polls, poll_whole h, delivered_whole_nil]

/-- Data in memory counts as sent as soon as it has been yielded. -/
theorem completes_whole (data : Bytes) (n : Nat) :
    completes n (whole data) = true ↔ (delivered (polls n (whole data)).1).length = data.length := by
  by_cases h : data = []
  · subst h
    simp [completes_whole_nil, delivered_whole_nil]
  · rw [delivered_whole]
    cases n with
    | zero =>
      have : data.length ≠ 0 := by simpa using h
      simp [completes, isEnd, h]
      omega
    | succ n => simp [completes, poll_whole h, completes_whole_nil]

theorem failure_not_mem_polls_whole (data : Bytes) (n : Nat) (detail : String) :
    some (.failure detail) ∉ (polls n (whole data)).1 := by
  induction n generalizing data with
  | zero => simp [polls]
  | succ n ih =>
    by_cases h : data = []
    · subst h
      simpa [polls, poll] using ih []
    · simpa [polls, poll_whole h] using ih []

/-! ### Files -/

theorem poll_file {data : Bytes} (h : data ≠ []) :
    (file data).poll = (some (.data (data.take frameSize)), file (data.drop frameSize)) := by
  cases data with
  | nil => exact absurd rfl h
  | cons b data => rfl

theorem framesLeft_file_le_iff (data : Bytes) (n : Nat) :
    (file data).framesLeft ≤ n ↔ data.length ≤ n * frameSize := by
  simp only [framesLeft, frameSize]
  omega

/-- Each poll takes one frame off what is left. -/
theorem framesLeft_file_drop {data : Bytes} (h : data ≠ []) :
    (file data).framesLeft = (file (data.drop frameSize)).framesLeft + 1 := by
  have : 0 < data.length := List.length_pos_of_ne_nil h
  simp only [framesLeft, frameSize, List.length_drop]
  omega

/-- Polls of a file yield its data from the start, so many bytes a poll. -/
theorem delivered_file (data : Bytes) (n : Nat) :
    delivered (polls n (file data)).1 = data.take (n * frameSize) := by
  induction n generalizing data with
  | zero => simp [polls]
  | succ n ih =>
    by_cases h : data = []
    · subst h
      simpa [polls, poll] using ih []
    · simp only [polls, poll_file h, delivered_cons_data, ih]
      rw [Nat.succ_mul, Nat.add_comm, List.take_add]

/-- All data of a file is there after as many polls as it has frames. -/
theorem length_delivered_file (data : Bytes) (n : Nat) :
    (delivered (polls n (file data)).1).length = data.length ↔ (file data).framesLeft ≤ n := by
  rw [delivered_file, List.length_take, framesLeft_file_le_iff]
  omega

/-- The poll after those finds the end, and none before it does. -/
theorem none_mem_polls_file (data : Bytes) (n : Nat) :
    none ∈ (polls n (file data)).1 ↔ (file data).framesLeft < n := by
  induction n generalizing data with
  | zero => simp [polls]
  | succ n ih =>
    by_cases h : data = []
    · subst h
      simp [polls, poll, framesLeft, frameSize]
    · rw [framesLeft_file_drop h, Nat.succ_lt_succ_iff, ← ih]
      simp [polls, poll_file h]

theorem failure_not_mem_polls_file (data : Bytes) (n : Nat) (detail : String) :
    some (.failure detail) ∉ (polls n (file data)).1 := by
  induction n generalizing data with
  | zero => simp [polls]
  | succ n ih =>
    by_cases h : data = []
    · subst h
      simpa [polls, poll] using ih []
    · simpa [polls, poll_file h] using ih (data.drop frameSize)

/-- A file counts as sent if a poll has found its end. -/
theorem completes_file (data : Bytes) (n : Nat) :
    completes n (file data) = true ↔ none ∈ (polls n (file data)).1 := by
  induction n generalizing data with
  | zero => simp [completes, polls, isEnd]
  | succ n ih =>
    by_cases h : data = []
    · subst h
      simp [completes, polls, poll]
    · simp [completes, polls, poll_file h, ih]

end Body

/-! ## The line of a request -/

namespace LoggedBody

/-- All that is logged when the body is polled a number of times and then dropped. -/
def lines (n : Nat) (b : LoggedBody) : List LogLine := (b.polls n).2.2 ++ (b.polls n).2.1.drop

theorem polls_succ (n : Nat) (b : LoggedBody) :
    b.polls (n + 1) = (b.poll.1 :: (b.poll.2.1.polls n).1, (b.poll.2.1.polls n).2.1,
      b.poll.2.2 ++ (b.poll.2.1.polls n).2.2) := rfl

/-- A poll yields what the body inside yields. -/
theorem poll_fst (b : LoggedBody) : b.poll.1 = b.inner.poll.1 ∧ b.poll.2.1.inner = b.inner.poll.2 := by
  unfold poll
  rcases b.inner.poll with ⟨_ | frame, inner⟩
  · exact ⟨rfl, rfl⟩
  · cases frame <;> exact ⟨rfl, rfl⟩

theorem lines_succ (n : Nat) (b : LoggedBody) : b.lines (n + 1) = b.poll.2.2 ++ b.poll.2.1.lines n := by
  simp only [lines, polls_succ, List.append_assoc]

/-- Polls yield what the body inside yields. -/
theorem polls_fst (n : Nat) (b : LoggedBody) : (b.polls n).1 = (b.inner.polls n).1 := by
  induction n generalizing b with
  | zero => rfl
  | succ n ih => rw [polls_succ, Body.polls, ih, (poll_fst b).1, (poll_fst b).2]

/-- Once the request is logged, nothing more is. -/
theorem lines_none (n : Nat) (b : Body) : lines n ⟨b, none⟩ = [] := by
  induction n generalizing b with
  | zero => rfl
  | succ n ih =>
    rw [lines_succ]
    unfold poll
    rcases b.poll with ⟨_ | frame, inner⟩
    · exact ih inner
    · cases frame <;> exact ih inner

/-- The request of a body that is polled some times and then dropped is logged once. -/
theorem lines_eq (n : Nat) (b : Body) (e : AccessEvent) :
    lines n ⟨b, some e⟩ = [e.line (b.completes n)] := by
  induction n generalizing b with
  | zero => rfl
  | succ n ih =>
    rw [lines_succ]
    unfold poll Body.completes
    rcases b.poll with ⟨_ | frame, inner⟩
    · simp [finish, lines_none]
    · cases frame with
      | data bytes => exact ih inner
      | trailers fields => exact ih inner
      | failure detail => simp [finish, lines_none]

/-! ### Polled to the end -/

/-- Polled to the end, a body delivers data: there is an end, the polls up to it yield the data, and no poll
ever fails. -/
structure Delivers (b : LoggedBody) (data : Bytes) : Prop where
  ends : ∃ n, none ∈ (b.polls n).1
  delivered : ∀ n, none ∈ (b.polls n).1 → Body.delivered (b.polls n).1 = data
  failure : ∀ n detail, some (.failure detail) ∉ (b.polls n).1

/-- What is to be logged has no part in it. -/
theorem Delivers.congr {a b : LoggedBody} {data : Bytes} (h : a.Delivers data) (hinner : a.inner = b.inner) :
    b.Delivers data := by
  have hpolls (n : Nat) : (b.polls n).1 = (a.polls n).1 := by rw [polls_fst, polls_fst, hinner]
  constructor
  · simpa only [hpolls] using h.ends
  · simpa only [hpolls] using h.delivered
  · simpa only [hpolls] using h.failure

theorem delivers_whole (data : Bytes) (pending : Option AccessEvent) :
    Delivers ⟨.whole data, pending⟩ data where
  ends := by
    refine ⟨2, ?_⟩
    rw [polls_fst]
    cases data <;> simp [Body.polls, Body.poll]
  delivered n hend := by
    rw [polls_fst] at hend ⊢
    have hn : n ≠ 0 := by
      rintro rfl
      cases hend
    rw [Body.delivered_whole, if_neg hn]
  failure n detail := by
    rw [polls_fst]
    exact Body.failure_not_mem_polls_whole data n detail

theorem delivers_file (data : Bytes) (pending : Option AccessEvent) :
    Delivers ⟨.file data, pending⟩ data where
  ends := by
    refine ⟨(Body.file data).framesLeft + 1, ?_⟩
    rw [polls_fst]
    exact (Body.none_mem_polls_file data _).2 (Nat.lt_succ_self _)
  delivered n hend := by
    rw [polls_fst] at hend ⊢
    have hframes := ((Body.none_mem_polls_file data n).1 hend).le
    rw [Body.delivered_file]
    exact List.take_of_length_le ((Body.framesLeft_file_le_iff data n).1 hframes)
  failure n detail := by
    rw [polls_fst]
    exact Body.failure_not_mem_polls_file data n detail

end LoggedBody

end SinglePage
