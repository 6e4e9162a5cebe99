import ObsSyncReplay.Lib.AscendingList

/-!
The run that several ascending lists have in common, found by walking only one
of them. `run lists lead start` follows the leading list from `start` on for as long
as every list has the element. What the walk finds is characterised by membership,
so that it can be compared between different leading lists, and between a family of
lists and the same family with more elements at the ends.
-/

namespace CommonRun

open AscendingList

variable {α : Type*} [LinearOrder α]

/-- Every list has the element. -/
def Shared (lists : List (List α)) (x : α) : Prop := ∀ l ∈ lists, x ∈ l

instance (lists : List (List α)) (x : α) : Decidable (Shared lists x) :=
  inferInstanceAs (Decidable (∀ l ∈ lists, x ∈ l))

def run (lists : List (List α)) (lead : List α) (start : α) : List α :=
  (lead.filter (start ≤ ·)).takeWhile (fun x => Shared lists x)

section Run

variable {lists : List (List α)} {lead : List α} {start : α}

theorem run_ascending (hlead : lead.Pairwise (· < ·)) :
    (run lists lead start).Pairwise (· < ·) :=
  (hlead.filter _).sublist (List.takeWhile_sublist _)

theorem mem_run (hlead : lead.Pairwise (· < ·)) {y : α} :
    y ∈ run lists lead start ↔
      y ∈ lead ∧ start ≤ y ∧ ∀ x ∈ lead, start ≤ x → x ≤ y → Shared lists x := by
  rw [run, mem_takeWhile_iff (hlead.filter _)]
  simp only [List.mem_filter, decide_eq_true_eq]
  constructor
  · rintro ⟨⟨hmem, hstart⟩, hall⟩
    exact ⟨hmem, hstart, fun x hx hx' hle => hall x ⟨hx, hx'⟩ hle⟩
  · rintro ⟨hmem, hstart, hall⟩
    exact ⟨⟨hmem, hstart⟩, fun x ⟨hx, hx'⟩ hle => hall x hx hx' hle⟩

theorem head?_run (hlead : lead.Pairwise (· < ·)) (hmem : start ∈ lead)
    (hshared : Shared lists start) : (run lists lead start).head? = some start := by
  have hrun : start ∈ run lists lead start := by
    refine (mem_run hlead).mpr ⟨hmem, le_rfl, fun x _ hstart hle => ?_⟩
    rwa [le_antisymm hle hstart]
  exact (head?_eq_some_iff_least (run_ascending hlead)).mpr
    ⟨hrun, fun y hy => ((mem_run hlead).mp hy).2.1⟩

end Run

end CommonRun
