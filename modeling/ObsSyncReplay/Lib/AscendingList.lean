import Mathlib.Data.List.Sort
import Mathlib.Tactic

/-!
Facts about strictly ascending lists of a linear order: their ends bound them, they
are determined by their members, and a cut by a test is described by membership.
Also the bounds that a running maximum or minimum over a list gives.
-/

namespace AscendingList

variable {α : Type*} [LinearOrder α]

/-- In an ascending list, `takeWhile` keeps what has no bad element up to it. -/
theorem mem_takeWhile_iff {l : List α} (hl : l.Pairwise (· < ·)) {p : α → Bool} {y : α} :
    y ∈ l.takeWhile p ↔ y ∈ l ∧ ∀ x ∈ l, x ≤ y → p x = true := by
  induction l with
  | nil => simp
  | cons z zs ih =>
      obtain ⟨hhead, htail⟩ := List.pairwise_cons.mp hl
      by_cases hz : p z = true
      · rw [List.takeWhile_cons_of_pos hz, List.mem_cons, List.mem_cons, ih htail]
        constructor
        · rintro (rfl | ⟨hmem, hall⟩)
          · refine ⟨Or.inl rfl, fun x hx hle => ?_⟩
            rcases List.mem_cons.mp hx with rfl | hrest
            · exact hz
            · exact absurd hle (hhead x hrest).not_ge
          · refine ⟨Or.inr hmem, fun x hx hle => ?_⟩
            rcases List.mem_cons.mp hx with rfl | hrest
            · exact hz
            · exact hall x hrest hle
        · rintro ⟨rfl | hmem, hall⟩
          · exact Or.inl rfl
          · exact Or.inr ⟨hmem, fun x hx => hall x (List.mem_cons_of_mem z hx)⟩
      · rw [List.takeWhile_cons_of_neg hz]
        refine ⟨fun h => absurd h (List.not_mem_nil), fun ⟨hmem, hall⟩ => ?_⟩
        have hle : z ≤ y := by
          rcases List.mem_cons.mp hmem with rfl | hrest
          · exact le_rfl
          · exact (hhead y hrest).le
        exact absurd (hall z List.mem_cons_self hle) hz

/-- Everything in an ascending list is at most its last element. -/
theorem le_getLast? {l : List α} (hl : l.Pairwise (· < ·)) {x last : α} (hx : x ∈ l)
    (hlast : l.getLast? = some last) : x ≤ last := by
  obtain ⟨front, rfl⟩ := List.getLast?_eq_some_iff.mp hlast
  rcases List.mem_append.mp hx with hold | hend
  · exact ((List.pairwise_append.mp hl).2.2 x hold last (by simp)).le
  · exact (List.mem_singleton.mp hend).le

theorem head?_le {l : List α} (hl : l.Pairwise (· < ·)) {x first : α} (hx : x ∈ l)
    (hfirst : l.head? = some first) : first ≤ x := by
  obtain ⟨rest, rfl⟩ := List.head?_eq_some_iff.mp hfirst
  rcases List.mem_cons.mp hx with rfl | hmem
  · exact le_rfl
  · exact ((List.pairwise_cons.mp hl).1 x hmem).le

/-- Two ascending lists with the same members are the same list. -/
theorem eq_of_mem_iff {l l' : List α} (hl : l.Pairwise (· < ·)) (hl' : l'.Pairwise (· < ·))
    (h : ∀ x, x ∈ l ↔ x ∈ l') : l = l' := by
  have hperm : l.Perm l' :=
    (List.perm_ext_iff_of_nodup (hl.imp ne_of_lt) (hl'.imp ne_of_lt)).mpr h
  exact hperm.eq_of_pairwise' hl hl'

/-- The head of an ascending list is its least member. -/
theorem head?_eq_some_iff_least {l : List α} (hl : l.Pairwise (· < ·)) {x : α} :
    l.head? = some x ↔ x ∈ l ∧ ∀ y ∈ l, x ≤ y := by
  refine ⟨fun h => ⟨List.mem_of_head? h, fun y hy => head?_le hl hy h⟩, ?_⟩
  rintro ⟨hx, hleast⟩
  cases hfirst : l.head? with
  | none =>
      rw [List.head?_eq_none_iff.mp hfirst] at hx
      cases hx
  | some first =>
      rw [le_antisymm (head?_le hl hx hfirst) (hleast first (List.mem_of_head? hfirst))]

/-- The last element of an ascending list is its greatest member. -/
theorem getLast?_eq_some_iff_greatest {l : List α} (hl : l.Pairwise (· < ·)) {x : α} :
    l.getLast? = some x ↔ x ∈ l ∧ ∀ y ∈ l, y ≤ x := by
  refine ⟨fun h => ⟨List.mem_of_getLast? h, fun y hy => le_getLast? hl hy h⟩, ?_⟩
  rintro ⟨hx, hgreatest⟩
  cases hlast : l.getLast? with
  | none =>
      rw [List.getLast?_eq_none_iff.mp hlast] at hx
      cases hx
  | some last =>
      rw [le_antisymm (hgreatest last (List.mem_of_getLast? hlast)) (le_getLast? hl hx hlast)]

/-- The first element with a property is the least one that has it. -/
theorem find?_eq_some_iff_least {l : List α} (hl : l.Pairwise (· < ·)) {p : α → Bool} {x : α} :
    l.find? p = some x ↔ (x ∈ l ∧ p x = true) ∧ ∀ y ∈ l, p y = true → x ≤ y := by
  rw [← List.head?_filter, head?_eq_some_iff_least (hl.filter p)]
  simp only [List.mem_filter, and_imp]

theorem mem_take_of_le {l : List α} (hl : l.Pairwise (· < ·)) {count : Nat} {x y : α}
    (hy : y ∈ l.take count) (hx : x ∈ l) (hle : x ≤ y) : x ∈ l.take count := by
  rw [← List.take_append_drop count l] at hl hx
  rcases List.mem_append.mp hx with hfront | hrest
  · exact hfront
  · exact absurd ((List.pairwise_append.mp hl).2.2 y hy x hrest) hle.not_gt

theorem le_of_take_subset {l : List α} (hl : l.Pairwise (· < ·)) {count count' : Nat}
    (hcount : count ≤ l.length) (h : l.take count ⊆ l.take count') : count ≤ count' := by
  have hnodup : (l.take count).Nodup :=
    (hl.sublist (List.take_sublist count l)).imp ne_of_lt
  have hlength := (hnodup.subperm h).length_le
  rw [List.length_take, List.length_take] at hlength
  omega

theorem head?_getD_le_iff {l : List α} (hl : l.Pairwise (· < ·)) (hne : l ≠ []) {a b : α} :
    l.head?.getD a ≤ b ↔ ∃ x ∈ l, x ≤ b := by
  obtain ⟨first, hfirst⟩ := Option.isSome_iff_exists.mp (List.isSome_head?.mpr hne)
  rw [hfirst, Option.getD_some]
  exact ⟨fun hle => ⟨first, List.mem_of_head? hfirst, hle⟩,
    fun ⟨x, hx, hle⟩ => (head?_le hl hx hfirst).trans hle⟩

theorem le_getLast?_getD_iff {l : List α} (hl : l.Pairwise (· < ·)) (hne : l ≠ []) {a b : α} :
    b ≤ l.getLast?.getD a ↔ ∃ x ∈ l, b ≤ x := by
  obtain ⟨last, hlast⟩ := Option.ne_none_iff_exists'.mp
    (fun h => hne (List.getLast?_eq_none_iff.mp h))
  rw [hlast, Option.getD_some]
  exact ⟨fun hle => ⟨last, List.mem_of_getLast? hlast, hle⟩,
    fun ⟨x, hx, hle⟩ => hle.trans (le_getLast? hl hx hlast)⟩

section Fold

variable {β : Type*} (f : β → α)

theorem foldl_max_le_iff {l : List β} {a b : α} :
    l.foldl (fun m x => max m (f x)) a ≤ b ↔ a ≤ b ∧ ∀ x ∈ l, f x ≤ b := by
  induction l generalizing a with
  | nil => simp
  | cons x xs ih =>
      rw [List.foldl_cons, ih, max_le_iff, List.forall_mem_cons, and_assoc]

theorem le_foldl_min_iff {l : List β} {a b : α} :
    b ≤ l.foldl (fun m x => min m (f x)) a ↔ b ≤ a ∧ ∀ x ∈ l, b ≤ f x := by
  induction l generalizing a with
  | nil => simp
  | cons x xs ih =>
      rw [List.foldl_cons, ih, le_min_iff, List.forall_mem_cons, and_assoc]

theorem foldl_max_attained {l : List β} {a : α} :
    l.foldl (fun m x => max m (f x)) a = a ∨
      ∃ x ∈ l, f x = l.foldl (fun m x => max m (f x)) a := by
  induction l generalizing a with
  | nil => exact Or.inl rfl
  | cons x xs ih =>
      rw [List.foldl_cons]
      rcases ih (a := max a (f x)) with hmax | ⟨y, hy, heq⟩
      · rcases max_choice a (f x) with hleft | hright
        · exact Or.inl (hmax.trans hleft)
        · exact Or.inr ⟨x, List.mem_cons_self, (hmax.trans hright).symm⟩
      · exact Or.inr ⟨y, List.mem_cons_of_mem x hy, heq⟩

/-- A running maximum that starts below every value ends at the greatest one. -/
theorem isGreatest_foldl_max {l : List β} {a : α} (hne : l ≠ []) (ha : ∀ x ∈ l, a ≤ f x) :
    IsGreatest {y | ∃ x ∈ l, f x = y} (l.foldl (fun m x => max m (f x)) a) := by
  have hupper := (foldl_max_le_iff f (l := l) (a := a)).mp le_rfl
  constructor
  · rcases foldl_max_attained f (l := l) (a := a) with hstart | hmem
    · obtain ⟨x, hx⟩ := List.exists_mem_of_ne_nil l hne
      refine ⟨x, hx, le_antisymm (hupper.2 x hx) ?_⟩
      rw [hstart]
      exact ha x hx
    · exact hmem
  · rintro y ⟨x, hx, rfl⟩
    exact hupper.2 x hx

/-- A running minimum that starts above every value ends at the least one. -/
theorem isLeast_foldl_min {l : List β} {a : α} (hne : l ≠ []) (ha : ∀ x ∈ l, f x ≤ a) :
    IsLeast {y | ∃ x ∈ l, f x = y} (l.foldl (fun m x => min m (f x)) a) :=
  isGreatest_foldl_max (α := αᵒᵈ) f hne ha

end Fold

end AscendingList
