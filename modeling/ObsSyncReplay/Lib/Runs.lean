import Mathlib.Data.List.Basic
import Mathlib.Tactic

/-!
Runs of a deterministic machine that answers each input. A run keeps its
whole history, so a property may speak about what was asked and answered on
the way and not only about the state reached.
-/

namespace Runs

variable {σ ι ο : Type*}

/-- One step of a run: the state before, the input, the answer, the state after. -/
structure Transition (σ ι ο : Type*) where
  before : σ
  input : ι
  output : ο
  after : σ

/-- The transition that `step` makes from `s` on input `i`. -/
def transition (step : σ → ι → ο × σ) (s : σ) (i : ι) : Transition σ ι ο :=
  ⟨s, i, (step s i).1, (step s i).2⟩

/-- `Run step a past b`: the machine goes from `a` to `b` with history `past`. -/
inductive Run (step : σ → ι → ο × σ) (a : σ) : List (Transition σ ι ο) → σ → Prop
  | start : Run step a [] a
  | next {past : List (Transition σ ι ο)} {s : σ} (i : ι) :
      Run step a past s → Run step a (past ++ [transition step s i]) (step s i).2

/-- The state after a list of inputs. -/
def exec (step : σ → ι → ο × σ) (s : σ) (inputs : List ι) : σ :=
  inputs.foldl (fun s i => (step s i).2) s

/-- The history made by a list of inputs. -/
def history (step : σ → ι → ο × σ) : σ → List ι → List (Transition σ ι ο)
  | _, [] => []
  | s, i :: rest => transition step s i :: history step (step s i).2 rest

variable {step : σ → ι → ο × σ} {a b c : σ} {past : List (Transition σ ι ο)}

@[simp] theorem exec_nil (s : σ) : exec step s [] = s := rfl

@[simp] theorem exec_cons (s : σ) (i : ι) (rest : List ι) :
    exec step s (i :: rest) = exec step (step s i).2 rest := rfl

theorem exec_append (s : σ) (xs ys : List ι) :
    exec step s (xs ++ ys) = exec step (exec step s xs) ys :=
  List.foldl_append

theorem Run.trans {first second : List (Transition σ ι ο)}
    (h : Run step a first b) (h' : Run step b second c) :
    Run step a (first ++ second) c := by
  induction h' with
  | start => simpa using h
  | next i _ ih =>
      rw [← List.append_assoc]
      exact ih.next i

/-- Every list of inputs is the input side of a run. -/
theorem run_exec (s : σ) (inputs : List ι) :
    Run step s (history step s inputs) (exec step s inputs) := by
  induction inputs generalizing s with
  | nil => exact .start
  | cons i rest ih => exact (Run.start.next i).trans (ih (step s i).2)

theorem history_append (s : σ) (xs ys : List ι) :
    history step s (xs ++ ys) = history step s xs ++ history step (exec step s xs) ys := by
  induction xs generalizing s with
  | nil => rfl
  | cons x xs ih => rw [List.cons_append, history, history, exec_cons, ih, List.cons_append]

theorem forall_history_input {s : σ} {inputs : List ι} {P : ι → Prop} :
    (∀ t ∈ history step s inputs, P t.input) ↔ ∀ i ∈ inputs, P i := by
  induction inputs generalizing s with
  | nil => simp [history]
  | cons i rest ih =>
      rw [history, List.forall_mem_cons, List.forall_mem_cons, ih]
      rfl

/-- The invariant rule over histories: what holds at the start and is kept by
every step from a state the run can be in holds at the end of the run. -/
theorem Run.invariant {P : List (Transition σ ι ο) → σ → Prop} (h : Run step a past b)
    (hstart : P [] a)
    (hstep : ∀ past s i, Run step a past s → P past s →
      P (past ++ [transition step s i]) (step s i).2) :
    P past b := by
  induction h with
  | start => exact hstart
  | next i hrun ih => exact hstep _ _ i hrun ih

/-- The invariant rule for a property of the state alone. -/
theorem Run.stateInvariant {P : σ → Prop} (h : Run step a past b) (hstart : P a)
    (hstep : ∀ s i, P s → P (step s i).2) : P b :=
  h.invariant (P := fun _ s => P s) hstart (fun _ s i _ hs => hstep s i hs)

/-- A property of the states that each step keeps under exactly one condition holds all
along a run if and only if every step of the run meets the condition. -/
theorem Run.always_iff {Good : σ → Prop} {Allowed : σ → ι → Prop} (h : Run step a past b)
    (hstart : Good a)
    (hstep : ∀ past s i, Run step a past s → Good s → (Good (step s i).2 ↔ Allowed s i)) :
    (∀ t ∈ past, Good t.after) ↔ ∀ t ∈ past, Allowed t.before t.input := by
  suffices hboth : ((∀ t ∈ past, Good t.after) ↔ ∀ t ∈ past, Allowed t.before t.input) ∧
      ((∀ t ∈ past, Good t.after) → Good b) from hboth.1
  apply h.invariant (P := fun past s =>
    ((∀ t ∈ past, Good t.after) ↔ ∀ t ∈ past, Allowed t.before t.input) ∧
      ((∀ t ∈ past, Good t.after) → Good s))
  · exact ⟨by simp, fun _ => hstart⟩
  · intro past s i hrun ⟨hiff, hgood⟩
    simp only [List.forall_mem_append, List.forall_mem_singleton]
    refine ⟨?_, fun hafter => hafter.2⟩
    constructor
    · rintro ⟨hpast, hafter⟩
      exact ⟨hiff.mp hpast, (hstep past s i hrun (hgood hpast)).mp hafter⟩
    · rintro ⟨hpast, hallowed⟩
      have hbefore := hiff.mpr hpast
      exact ⟨hbefore, (hstep past s i hrun (hgood hbefore)).mpr hallowed⟩

/-- The refinement rule: where each step of a machine is a run of another machine on what is seen
of its state, so is each run. -/
theorem Run.refines {σ' ι' ο' : Type*} {step' : σ' → ι' → ο' × σ'} (view : σ → σ')
    (project : Transition σ ι ο → List (Transition σ' ι' ο')) (h : Run step a past b)
    (hstep : ∀ past s i, Run step a past s →
      Run step' (view s) (project (transition step s i)) (view (step s i).2)) :
    Run step' (view a) (past.flatMap project) (view b) := by
  apply h.invariant (P := fun past s => Run step' (view a) (past.flatMap project) (view s))
  · exact .start
  · intro past s i hrun ih
    rw [List.flatMap_append]
    refine ih.trans ?_
    simpa using hstep past s i hrun

theorem run_one (s : σ) (i : ι) : Run step s [transition step s i] (step s i).2 :=
  Run.start.next i

end Runs
