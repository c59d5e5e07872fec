import Mathlib.Data.List.Basic
import Mathlib.Data.List.Infix
import Mathlib.Data.List.Forall2

/-!
# Runs of a step that may fail

`List.foldlM` in `Except ε` runs a partial step over a list of inputs and stops
at the first failure.  This module collects the rules for such runs: splitting
at any point, invariants that mention the inputs consumed so far, and the
simulation of one step function by another.
-/

namespace ExceptRun

universe u

variable {ε State Input : Type u} {Value Result : Type u} {next : Value → Except ε Result}
variable {first : Except ε Value}

/-- A successful bind consists of two successful parts. -/
theorem bind_ok_iff {result : Result} :
    (first >>= next) = .ok result ↔ ∃ value, first = .ok value ∧ next value = .ok result := by
  cases first with
  | error cause => simp [bind, Except.bind]
  | ok value => simp [bind, Except.bind]

/-- A bind fails in its first or in its second part. -/
theorem bind_error_iff {cause : ε} : (first >>= next) = .error cause ↔
      first = .error cause ∨ ∃ value, first = .ok value ∧ next value = .error cause := by
  cases first with
  | error reason => simp [bind, Except.bind]
  | ok value => simp [bind, Except.bind]

theorem exists_eq_ok_of_isOk {result : Except ε Value} (succeeds : result.isOk = true) :
    ∃ value, result = .ok value := by
  cases result with
  | error cause => cases succeeds
  | ok value => exact ⟨value, rfl⟩

variable {step : State → Input → Except ε State} {start finish : State}

/-- A run over an appended list passes through an intermediate state. -/
theorem run_append_iff {xs ys : List Input} : (xs ++ ys).foldlM step start = .ok finish ↔
      ∃ middle, xs.foldlM step start = .ok middle ∧ ys.foldlM step middle = .ok finish := by
  rw [List.foldlM_append]
  exact bind_ok_iff

variable {xs : List Input}

theorem run_cons_iff {x : Input} : (x :: xs).foldlM step start = .ok finish ↔
      ∃ next, step start x = .ok next ∧ xs.foldlM step next = .ok finish := by
  rw [List.foldlM_cons]
  exact bind_ok_iff

theorem run_snoc_iff {x : Input} : (xs ++ [x]).foldlM step start = .ok finish ↔
      ∃ before, xs.foldlM step start = .ok before ∧ step before x = .ok finish := by
  rw [run_append_iff]
  simp only [run_cons_iff, List.foldlM_nil, pure, Except.pure, Except.ok.injEq]
  simp

variable {inputs : List Input}

/-- Invariant rule: a relation between the inputs consumed so far and the
state, kept by every successful step, holds at the end of every successful run. -/
theorem run_history (holds : List Input → State → Prop) (past : List Input)
    (initial : holds past start) (preserved : ∀ seen state input next, holds seen state →
      step state input = .ok next → holds (seen ++ [input]) next)
    (run : inputs.foldlM step start = .ok finish) :
    holds (past ++ inputs) finish := by
  induction inputs generalizing past start with
  | nil =>
    simp only [List.foldlM_nil, pure, Except.pure, Except.ok.injEq] at run
    subst run
    simpa using initial
  | cons input inputs ih =>
    obtain ⟨next, stepped, rest⟩ := run_cons_iff.mp run
    have advanced := ih _ (preserved past start input next initial stepped) rest
    simpa using advanced

/-- Simulation rule: when related states step to related states, with failure on
one side exactly when there is failure on the other, related states run alike. -/
theorem run_simulation {Other : Type u} {step' : Other → Input → Except ε Other}
    (related : State → Other → Prop) (forward : ∀ state other input next, related state other →
      step state input = .ok next →
      ∃ next', step' other input = .ok next' ∧ related next next') {start' : Other}
    (initial : related start start') (run : inputs.foldlM step start = .ok finish) :
    ∃ finish', inputs.foldlM step' start' = .ok finish' ∧ related finish finish' := by
  induction inputs generalizing start start' with
  | nil =>
    simp only [List.foldlM_nil, pure, Except.pure, Except.ok.injEq] at run
    subst run
    exact ⟨start', rfl, initial⟩
  | cons input inputs ih =>
    obtain ⟨next, stepped, rest⟩ := run_cons_iff.mp run
    obtain ⟨next', stepped', relatedNext⟩ :=
      forward start start' input next initial stepped
    obtain ⟨finish', rest', relatedFinish⟩ := ih relatedNext rest
    exact ⟨finish', run_cons_iff.mpr ⟨next', stepped', rest'⟩, relatedFinish⟩

/-! ## Maps -/

variable {f : Value → Except ε Result} {xs : List Value} {ys : List Result}

/-- A map over a list succeeds with the values of its elements. -/
theorem mapM_ok_iff : xs.mapM f = .ok ys ↔ List.Forall₂ (fun x y => f x = .ok y) xs ys := by
  induction xs generalizing ys with
  | nil => simp [pure, Except.pure, eq_comm]
  | cons x xs ih =>
    simp only [List.mapM_cons, bind_ok_iff, ih, pure, Except.pure, Except.ok.injEq,
      List.forall₂_cons_left_iff]
    constructor
    · rintro ⟨y, headEq, ys, tailEq, rfl⟩
      exact ⟨y, ys, headEq, tailEq, rfl⟩
    · rintro ⟨y, ys, headEq, tailEq, rfl⟩
      exact ⟨y, headEq, ys, tailEq, rfl⟩

theorem mapM_eq_ok_map_iff {g : Value → Result} :
    xs.mapM f = .ok (xs.map g) ↔ ∀ x ∈ xs, f x = .ok (g x) := by
  rw [mapM_ok_iff, List.forall₂_map_right_iff, List.forall₂_same]

/-- A map fails at one of its elements. -/
theorem exists_mapM_error {cause : ε} (failed : xs.mapM f = .error cause) :
    ∃ x ∈ xs, f x = .error cause := by
  induction xs with
  | nil => cases failed
  | cons x xs ih =>
    rw [List.mapM_cons, bind_error_iff] at failed
    rcases failed with head | ⟨y, -, rest⟩
    · exact ⟨x, List.mem_cons_self, head⟩
    · rcases bind_error_iff.mp rest with tail | ⟨ys, -, impossible⟩
      · obtain ⟨other, member, isError⟩ := ih tail
        exact ⟨other, List.mem_cons_of_mem _ member, isError⟩
      · cases impossible

theorem length_mapM_ok (mapped : xs.mapM f = .ok ys) : ys.length = xs.length :=
  (mapM_ok_iff.mp mapped).length_eq.symm

theorem exists_mapM_ok (succeeds : ∀ x ∈ xs, ∃ y, f x = .ok y) : ∃ ys, xs.mapM f = .ok ys := by
  induction xs with
  | nil => exact ⟨[], rfl⟩
  | cons x xs ih =>
    obtain ⟨y, headEq⟩ := succeeds x (by simp)
    obtain ⟨ys, tailEq⟩ := ih fun x member => succeeds x (List.mem_cons_of_mem _ member)
    exact ⟨y :: ys, mapM_ok_iff.mpr (.cons headEq (mapM_ok_iff.mp tailEq))⟩

/-- The values of a map are those of the elements. -/
theorem mem_mapM_ok (mapped : xs.mapM f = .ok ys) {y : Result} :
    y ∈ ys ↔ ∃ x ∈ xs, f x = .ok y := by
  rw [mapM_ok_iff] at mapped
  induction mapped with
  | nil => simp
  | cons headEq _ ih => simp [ih, headEq, eq_comm]

/-- The value at a position is that of the element there. -/
theorem getElem?_mapM_ok (mapped : xs.mapM f = .ok ys) {i : Nat} {x : Value}
    (element : xs[i]? = some x) :
    ∃ y, ys[i]? = some y ∧ f x = .ok y := by
  rw [mapM_ok_iff] at mapped
  induction mapped generalizing i with
  | nil => simp at element
  | cons headEq _ ih =>
    cases i with
    | zero =>
      cases element
      exact ⟨_, rfl, headEq⟩
    | succ i => simpa using ih (by simpa using element)

end ExceptRun
