import Mathlib.Data.List.Basic
import Mathlib.Tactic

/-!
Traces that obey a protocol. The protocol says of each event whether it is legal after
the events before it, so that an event may depend on the whole past. A trace is
extended event by event, and one that is legal so far stays legal.
-/

namespace Traces

variable {ε : Type*} {legal : List ε → ε → Prop} {trace : List ε} {event : ε}

/-- Every event of the trace is legal after the ones before it. -/
def Obeys (legal : List ε → ε → Prop) (trace : List ε) : Prop :=
  ∀ before event after, trace = before ++ event :: after → legal before event

theorem obeys_nil : Obeys legal [] := by
  intro before event after hsplit
  have hlength := congrArg List.length hsplit
  simp at hlength

/-- A legal event more. -/
theorem Obeys.concat (h : Obeys legal trace) (hlegal : legal trace event) :
    Obeys legal (trace ++ [event]) := by
  intro before other after hsplit
  rcases List.eq_nil_or_concat after with rfl | ⟨rest, last, rfl⟩
  · obtain ⟨rfl, hsame⟩ := List.append_inj' hsplit rfl
    rwa [← List.singleton_inj.mp hsame]
  · have hsplit' : trace ++ [event] = (before ++ other :: rest) ++ [last] := by
      rw [hsplit]
      simp
    obtain ⟨rfl, -⟩ := List.append_inj' hsplit' rfl
    exact h before other rest rfl

theorem obeys_concat_iff :
    Obeys legal (trace ++ [event]) ↔ Obeys legal trace ∧ legal trace event := by
  constructor
  · intro h
    constructor
    · intro before other after hsplit
      apply h before other (after ++ [event])
      rw [hsplit]
      simp
    · exact h trace event [] rfl
  · rintro ⟨h, hlegal⟩
    exact h.concat hlegal

theorem obeys_iff_get : Obeys legal trace ↔
    ∀ index : Fin trace.length, legal (trace.take index) (trace.get index) := by
  constructor
  · intro h index
    apply h _ _ (trace.drop (index + 1))
    rw [List.get_eq_getElem, List.cons_getElem_drop_succ, List.take_append_drop]
  · rintro h before event after rfl
    have hlegal := h ⟨before.length, by simp⟩
    simpa using hlegal

end Traces
