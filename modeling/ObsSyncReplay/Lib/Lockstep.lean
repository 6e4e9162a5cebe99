import Mathlib.Data.List.Sort
import Mathlib.Tactic

/-!
The longest run that two lists share from their heads on, where each element
must also be admissible after the one before it. Over two ascending lists the
run is a cut: below its last element the two lists have the same members.
-/

namespace Lockstep

variable {α : Type*}

/-- Every element may follow the one before it, the first one `prev`. -/
def Admissible (ok : Option α → α → Bool) : Option α → List α → Prop
  | _, [] => True
  | prev, x :: xs => ok prev x = true ∧ Admissible ok (some x) xs

def run [DecidableEq α] (ok : Option α → α → Bool) : Option α → List α → List α → List α
  | prev, x :: xs, y :: ys =>
      if x = y ∧ ok prev x = true then x :: run ok (some x) xs ys else []
  | _, _, _ => []

section Run

variable [DecidableEq α] (ok : Option α → α → Bool)

theorem run_isPrefix_left (prev : Option α) (xs ys : List α) :
    run ok prev xs ys <+: xs := by
  induction xs generalizing prev ys with
  | nil => simp [run]
  | cons x xs ih =>
      cases ys with
      | nil => simp [run]
      | cons y ys =>
          simp only [run]
          split_ifs with h
          · exact (List.prefix_cons_inj x).mpr (ih (some x) ys)
          · exact List.nil_prefix

theorem run_isPrefix_right (prev : Option α) (xs ys : List α) :
    run ok prev xs ys <+: ys := by
  induction xs generalizing prev ys with
  | nil => simp [run]
  | cons x xs ih =>
      cases ys with
      | nil => simp [run]
      | cons y ys =>
          simp only [run]
          split_ifs with h
          · rw [h.1]
            exact (List.prefix_cons_inj y).mpr (ih (some y) ys)
          · exact List.nil_prefix

theorem run_admissible (prev : Option α) (xs ys : List α) :
    Admissible ok prev (run ok prev xs ys) := by
  induction xs generalizing prev ys with
  | nil => simp [run, Admissible]
  | cons x xs ih =>
      cases ys with
      | nil => simp [run, Admissible]
      | cons y ys =>
          simp only [run]
          split_ifs with h
          · exact ⟨h.2, ih (some x) ys⟩
          · trivial

end Run

theorem Admissible.mem {ok : Option α → α → Bool} {prev : Option α} {l : List α}
    (h : Admissible ok prev l) {x : α} (hx : x ∈ l) : ∃ before, ok before x = true := by
  induction l generalizing prev with
  | nil => simp at hx
  | cons y ys ih =>
      rcases List.mem_cons.mp hx with rfl | hrest
      · exact ⟨prev, h.1⟩
      · exact ih h.2 hrest

theorem Admissible.isChain {ok : Option α → α → Bool} {prev : Option α} {l : List α}
    (h : Admissible ok prev l) : l.IsChain (fun x y => ok (some x) y = true) := by
  induction l generalizing prev with
  | nil => exact .nil
  | cons x xs ih =>
      refine List.isChain_cons.mpr ⟨?_, ih h.2⟩
      intro y hy
      cases xs with
      | nil => simp at hy
      | cons z zs =>
          obtain rfl : z = y := by simpa using hy
          exact h.2.1

/-- Two lists that begin with an admissible common part, after which neither goes on
admissibly, share that part. -/
theorem run_append [DecidableEq α] {ok : Option α → α → Bool} {prev : Option α}
    {l xs ys : List α} (h : Admissible ok prev l)
    (hstop : ∀ before, ∀ x ∈ xs.head?, ok before x = false) :
    run ok prev (l ++ xs) (l ++ ys) = l := by
  induction l generalizing prev with
  | nil =>
      cases xs with
      | nil => cases ys <;> rfl
      | cons x xs =>
          cases ys with
          | nil => rfl
          | cons y ys =>
              rw [List.nil_append, List.nil_append, run, if_neg]
              rintro ⟨-, hok⟩
              rw [hstop prev x rfl] at hok
              cases hok
  | cons z zs ih =>
      obtain ⟨hok, hrest⟩ := h
      rw [List.cons_append, List.cons_append, run, if_pos ⟨rfl, hok⟩, ih hrest]

/-- The run is the longest admissible part: every other one is an initial segment of it. -/
theorem isPrefix_run [DecidableEq α] {ok : Option α → α → Bool} {prev : Option α}
    {l xs ys : List α} (h : Admissible ok prev l) (hxs : l <+: xs) (hys : l <+: ys) :
    l <+: run ok prev xs ys := by
  induction l generalizing prev xs ys with
  | nil => exact List.nil_prefix
  | cons z zs ih =>
      obtain ⟨restX, rfl⟩ := hxs
      obtain ⟨restY, rfl⟩ := hys
      rw [List.cons_append, List.cons_append, run, if_pos ⟨rfl, h.1⟩]
      exact (List.prefix_cons_inj z).mpr
        (ih h.2 (List.prefix_append zs restX) (List.prefix_append zs restY))

theorem admissible_of_isChain {ok : Option α → α → Bool} {prev : Option α} {l : List α}
    (hfirst : ∀ x ∈ l.head?, ok prev x = true)
    (h : l.IsChain (fun x y => ok (some x) y = true)) : Admissible ok prev l := by
  induction l generalizing prev with
  | nil => trivial
  | cons x xs ih =>
      obtain ⟨hnext, hrest⟩ := List.isChain_cons.mp h
      exact ⟨hfirst x rfl, ih hnext hrest⟩

section Ascending

variable [LinearOrder α]

/-- An initial segment of an ascending list holds exactly the elements up to
its last one. -/
theorem filter_le_eq_of_isPrefix {l xs : List α} {z : α}
    (hinitial : l <+: xs) (hxs : xs.Pairwise (· < ·)) (hlast : l.getLast? = some z) :
    xs.filter (· ≤ z) = l := by
  obtain ⟨rest, rfl⟩ := hinitial
  obtain ⟨front, rfl⟩ : ∃ front, l = front ++ [z] :=
    List.getLast?_eq_some_iff.mp hlast
  obtain ⟨hleft, _, hcross⟩ := List.pairwise_append.mp hxs
  have hfront : ∀ x ∈ front ++ [z], x ≤ z := by
    intro x hx
    rcases List.mem_append.mp hx with hold | hlast
    · exact ((List.pairwise_append.mp hleft).2.2 x hold z (by simp)).le
    · exact (List.mem_singleton.mp hlast).le
  have hrest : ∀ x ∈ rest, ¬ x ≤ z := fun x hx =>
    not_le.mpr (hcross z (by simp) x hx)
  rw [List.filter_append, List.filter_eq_self.mpr (by simpa using hfront),
    List.filter_eq_nil_iff.mpr (by simpa using hrest), List.append_nil]

/-- Cutting an ascending list above does not change its head, as long as
something is left. -/
theorem head?_filter_le {xs : List α} {z : α} (hxs : xs.Pairwise (· < ·))
    (hne : xs.filter (· ≤ z) ≠ []) : (xs.filter (· ≤ z)).head? = xs.head? := by
  cases xs with
  | nil => rfl
  | cons x xs =>
      by_cases hle : x ≤ z
      · rw [List.filter_cons_of_pos (by simpa using hle)]
        rfl
      · refine absurd (List.filter_eq_nil_iff.mpr ?_) hne
        intro y hy
        have hxy : x ≤ y := by
          rcases List.mem_cons.mp hy with rfl | hrest
          · exact le_rfl
          · exact ((List.pairwise_cons.mp hxs).1 y hrest).le
        simpa using (not_le.mp hle).trans_le hxy

variable {ok : Option α → α → Bool} {prev : Option α} {xs ys : List α} {z : α}

/-- Up to the last element of their shared run, two ascending lists agree,
and the run is what they agree on. -/
theorem filter_le_run_last (hxs : xs.Pairwise (· < ·)) (hys : ys.Pairwise (· < ·))
    (hlast : (run ok prev xs ys).getLast? = some z) :
    xs.filter (· ≤ z) = run ok prev xs ys ∧ ys.filter (· ≤ z) = run ok prev xs ys :=
  ⟨filter_le_eq_of_isPrefix (run_isPrefix_left ok prev xs ys) hxs hlast,
    filter_le_eq_of_isPrefix (run_isPrefix_right ok prev xs ys) hys hlast⟩

end Ascending

end Lockstep
