/-
Bodies in flight. The bodies of any number of responses are polled, asked and dropped in any order.
Whatever the order, a body that logs its request answers like the body inside it, and logs at the
first occasion for that, which is its own: the poll that finds the end, the poll that fails, or the
drop (`log_once`). The invariant of a run is that a body has its event if and only if there was no
occasion yet; a step on one body leaves the events of the others alone.
-/
import SinglePage.AccessLog
import Mathlib.Logic.Function.Basic
import Mathlib.Tactic

namespace SinglePage.Transfer

/-! ## Steps -/

/-- What can be done with a body. -/
inductive Step where
  | poll
  | isEnd
  | sizeHint
  | drop
  deriving DecidableEq, Repr

/-- What is answered. -/
inductive Reply where
  | frame (frame : Option Frame)
  | ended (isEnd : Bool)
  | size (hint : Nat × Option Nat)
  | dropped
  deriving DecidableEq, Repr

/-- The occasion to log a request, if a step on its body is one, with the completion of the transfer:
a poll that finds the end, a poll that fails, or the drop of a body, which may tell that it has
ended. -/
def occasion? (b : Body) : Step → Option Bool
  | .poll =>
    match b.poll.1 with
    | none => some true
    | some (.failure _) => some false
    | some _ => none
  | .drop => some b.isEnd
  | .isEnd => none
  | .sizeHint => none

/-- A step on a plain body: what is answered, whether it is an occasion to log, and the body after
it. -/
def performPlain (b : Body) : Step → (Reply × Option Bool) × Option Body
  | .poll => ((.frame b.poll.1, occasion? b .poll), some b.poll.2)
  | .isEnd => ((.ended b.isEnd, occasion? b .isEnd), some b)
  | .sizeHint => ((.size b.sizeHint, occasion? b .sizeHint), some b)
  | .drop => ((.dropped, occasion? b .drop), none)

section Results

variable {ι : Type}

/-- A step of a run of plain bodies is an occasion to log a request. -/
def Occasion (results : List (ι × Option (Reply × Option Bool))) (i : ι) (j : Nat) (completed : Bool) : Prop :=
  ∃ reply, results[j]? = some (i, some (reply, some completed))

/-- A step is the first occasion to log a request. -/
def FirstOccasion (results : List (ι × Option (Reply × Option Bool))) (i : ι) (j : Nat) (completed : Bool) :
    Prop :=
  Occasion results i j completed ∧ ∀ k < j, ∀ c, ¬ Occasion results i k c

variable {e : ι × Option (Reply × Option Bool)} {results : List (ι × Option (Reply × Option Bool))}
  {i : ι} {j j' : Nat} {completed completed' : Bool}

/-- No request has two first occasions. -/
theorem FirstOccasion.unique (h : FirstOccasion results i j completed)
    (h' : FirstOccasion results i j' completed') : j = j' := by
  rcases Nat.lt_trichotomy j j' with hlt | heq | hlt
  · exact absurd h.1 (h'.2 j hlt completed)
  · exact heq
  · exact absurd h'.1 (h.2 j' hlt completed')

end Results

/-! ## Runs -/

section Runs

variable {ι β ω : Type} [DecidableEq ι]

/-- A run of steps on bodies in flight, and what each step leads to. A step on a body that is gone
leads to nothing. -/
def run (perform : β → Step → ω × Option β) : (ι → Option β) → List (ι × Step) → List (ι × Option ω)
  | _, [] => []
  | bodies, (i, step) :: rest =>
    match bodies i with
    | none => (i, none) :: run perform bodies rest
    | some b =>
      (i, some (perform b step).1) :: run perform (Function.update bodies i (perform b step).2) rest

theorem run_cons {perform : β → Step → ω × Option β} {bodies : ι → Option β} {i : ι} {b : β}
    (h : bodies i = some b) (step : Step) (rest : List (ι × Step)) :
    run perform bodies ((i, step) :: rest) =
      (i, some (perform b step).1) :: run perform (Function.update bodies i (perform b step).2) rest := by
  rw [run, h]

theorem run_cons_none {perform : β → Step → ω × Option β} {bodies : ι → Option β} {i : ι}
    (h : bodies i = none) (step : Step) (rest : List (ι × Step)) :
    run perform bodies ((i, step) :: rest) = (i, none) :: run perform bodies rest := by
  rw [run, h]

/-- Each result is that of a step on the same body. -/
theorem map_fst_run (perform : β → Step → ω × Option β) : ∀ (steps : List (ι × Step)) (bodies : ι → Option β),
    (run perform bodies steps).map Prod.fst = steps.map Prod.fst
  | [], _ => rfl
  | (i, step) :: rest, bodies => by
    cases h : bodies i with
    | none =>
      rw [run_cons_none h]
      exact congrArg (i :: ·) (map_fst_run perform rest bodies)
    | some b =>
      rw [run_cons h]
      exact congrArg (i :: ·) (map_fst_run perform rest _)

theorem Occasion.step {steps : List (ι × Step)} {bodies : ι → Option Body} {i : ι} {j : Nat}
    {completed : Bool} (h : Occasion (run performPlain bodies steps) i j completed) :
    steps[j]?.map Prod.fst = some i := by
  obtain ⟨reply, hr⟩ := h
  rw [← List.getElem?_map, ← map_fst_run performPlain steps bodies, List.getElem?_map, hr]
  rfl

/-! ## The invariant of a run -/

/-- The bodies of responses as they are sent, to log their requests. -/
def sent (requests : ι → Request) (responses : ι → Response Body) : ι → Option LoggedBody :=
  fun i => some ((responses i).logged (requests i)).body

end Runs

end SinglePage.Transfer
