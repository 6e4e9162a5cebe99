import ObsSyncReplay.Lib.Runs
import Mathlib.Data.Multiset.AddSub
import Mathlib.Data.Multiset.Count
import Mathlib.Tactic

/-!
A ledger of what is taken and given back. Entries settle from one holding to another when nothing
is given back that is not held: then nothing is given back twice, and what is still held at the
end is what has not been given back. Holdings are multisets, for a key may be taken twice.
-/

namespace Ledger

variable {κ : Type*}

inductive Entry (κ : Type*) where
  | acquired (key : κ)
  | released (key : κ)
deriving DecidableEq

def Entry.key : Entry κ → κ
  | .acquired key => key
  | .released key => key

/-- `Settles held entries held'`: the entries lead from holding `held` to holding `held'`. -/
inductive Settles : Multiset κ → List (Entry κ) → Multiset κ → Prop
  | nil (held : Multiset κ) : Settles held [] held
  | acquired {held held' : Multiset κ} {entries : List (Entry κ)} (key : κ)
      (h : Settles (key ::ₘ held) entries held') : Settles held (.acquired key :: entries) held'
  | released {held held' : Multiset κ} {entries : List (Entry κ)} (key : κ)
      (h : Settles held entries held') :
      Settles (key ::ₘ held) (.released key :: entries) held'

variable {held held' held'' : Multiset κ} {entries entries' : List (Entry κ)}

theorem Settles.trans (h : Settles held entries held') (h' : Settles held' entries' held'') :
    Settles held (entries ++ entries') held'' := by
  induction h with
  | nil held => exact h'
  | acquired key _ ih => exact .acquired key (ih h')
  | released key _ ih => exact .released key (ih h')

/-- What is held besides is not touched. -/
theorem Settles.frame (h : Settles held entries held') (rest : Multiset κ) :
    Settles (held + rest) entries (held' + rest) := by
  induction h with
  | nil held => exact .nil _
  | acquired key _ ih =>
      apply Settles.acquired
      rwa [← Multiset.cons_add]
  | released key _ ih =>
      rw [Multiset.cons_add]
      exact .released key ih

theorem Settles.frame_left (h : Settles held entries held') (rest : Multiset κ) :
    Settles (rest + held) entries (rest + held') := by
  rw [add_comm rest, add_comm rest]
  exact h.frame rest

theorem settles_acquired (key : κ) (held : Multiset κ) :
    Settles held [.acquired key] (key ::ₘ held) :=
  .acquired key (.nil _)

theorem settles_released (key : κ) (held : Multiset κ) :
    Settles (key ::ₘ held) [.released key] held :=
  .released key (.nil _)

/-- A key that is taken first and given back last. -/
theorem Settles.bracket (h : Settles held entries held') (key : κ) :
    Settles held (.acquired key :: entries ++ [.released key]) held' := by
  apply Settles.acquired
  have hframed := h.frame {key}
  rw [add_comm, Multiset.singleton_add, add_comm, Multiset.singleton_add] at hframed
  exact hframed.trans (settles_released key _)

/-- A list of keys is given back, one after the other. -/
theorem settles_releaseAll (keys : List κ) (held : Multiset κ) :
    Settles ((keys : Multiset κ) + held) (keys.map .released) held := by
  induction keys with
  | nil => simpa using Settles.nil held
  | cons key keys ih =>
      rw [← Multiset.cons_coe, Multiset.cons_add]
      exact .released key ih

/-- The entries before any entry settle as well. -/
theorem Settles.split (h : Settles held (entries ++ entries') held'') :
    ∃ held', Settles held entries held' ∧ Settles held' entries' held'' := by
  induction entries generalizing held with
  | nil => exact ⟨held, .nil held, h⟩
  | cons entry entries ih =>
      cases h with
      | acquired key h =>
          obtain ⟨middle, hfirst, hsecond⟩ := ih h
          exact ⟨middle, .acquired key hfirst, hsecond⟩
      | released key h =>
          obtain ⟨middle, hfirst, hsecond⟩ := ih h
          exact ⟨middle, .released key hfirst, hsecond⟩

section Counts

variable [DecidableEq κ]

/-- Each key: taken and held before is given back and held after. -/
theorem Settles.count_eq (h : Settles held entries held') (key : κ) :
    held.count key + entries.count (.acquired key) =
      held'.count key + entries.count (.released key) := by
  induction h with
  | nil held => simp
  | acquired other _ ih =>
      by_cases hsame : other = key
      · subst hsame
        simp only [Multiset.count_cons_self, List.count_cons_self] at ih ⊢
        simp only [List.count_cons, beq_iff_eq, reduceCtorEq, if_false]
        omega
      · simp only [Multiset.count_cons_of_ne (Ne.symm hsame)] at ih
        simp only [List.count_cons, beq_iff_eq, reduceCtorEq, Entry.acquired.injEq, hsame, if_false]
        omega
  | released other _ ih =>
      by_cases hsame : other = key
      · subst hsame
        simp only [Multiset.count_cons_self, List.count_cons, beq_iff_eq, reduceCtorEq, if_false,
          if_true]
        omega
      · simp only [Multiset.count_cons_of_ne (Ne.symm hsame), List.count_cons, beq_iff_eq,
          reduceCtorEq, Entry.released.injEq, hsame, if_false]
        omega

/-- With nothing left, every key was given back as often as it was taken. -/
theorem Settles.balanced (h : Settles 0 entries 0) (key : κ) :
    entries.count (.released key) = entries.count (.acquired key) := by
  have hcount := h.count_eq key
  simp only [Multiset.count_zero] at hcount
  omega

end Counts

/-- Every entry about a key in `P` is made while the guard is held. -/
def Guarded (guard : κ) (P : κ → Prop) (held : Multiset κ) (entries : List (Entry κ)) : Prop :=
  ∀ before entry after middle, entries = before ++ entry :: after → Settles held before middle →
    P entry.key → guard ∈ middle

variable {guard : κ} {P : κ → Prop}

theorem guarded_nil : Guarded guard P held [] := by
  intro before entry after middle hsplit
  have hlength := congrArg List.length hsplit
  simp at hlength

theorem settles_deterministic {other : Multiset κ} (h : Settles held entries held')
    (h' : Settles held entries other) : held' = other := by
  induction h with
  | nil held =>
      cases h'
      rfl
  | acquired key _ ih =>
      cases h' with
      | acquired _ h' => exact ih h'
  | released key _ ih =>
      generalize hstart : key ::ₘ _ = start at h'
      cases h' with
      | released _ h' =>
          obtain rfl := (Multiset.cons_inj_right key).mp hstart
          exact ih h'

theorem Guarded.append (h : Guarded guard P held entries) (hsettles : Settles held entries held')
    (h' : Guarded guard P held' entries') : Guarded guard P held (entries ++ entries') := by
  intro before entry after middle hsplit hbefore hkey
  rcases List.append_eq_append_iff.mp hsplit with ⟨rest, rfl, hrest⟩ | ⟨rest, rfl, hrest⟩
  · -- the entry is one of the second list
    obtain ⟨start, hfirst, hsecond⟩ := hbefore.split
    obtain rfl := settles_deterministic hsettles hfirst
    exact h' rest entry after middle hrest hsecond hkey
  · cases rest with
    | nil =>
        rw [List.append_nil] at hsettles
        obtain rfl := settles_deterministic hsettles hbefore
        exact h' [] entry after _ hrest.symm (.nil _) hkey
    | cons other rest =>
        rw [List.cons_append, List.cons.injEq] at hrest
        obtain ⟨rfl, rfl⟩ := hrest
        exact h before entry rest middle rfl hbefore hkey

/-- The guard stays held where no entry gives it back. -/
theorem Settles.mem_of_unreleased (h : Settles held entries held')
    (hunreleased : ∀ entry ∈ entries, entry ≠ .released guard) (hguard : guard ∈ held) :
    guard ∈ held' := by
  induction h with
  | nil held => exact hguard
  | acquired key _ ih =>
      apply ih (fun entry hentry => hunreleased entry (List.mem_cons_of_mem _ hentry))
      exact Multiset.mem_cons_of_mem hguard
  | released key _ ih =>
      apply ih (fun entry hentry => hunreleased entry (List.mem_cons_of_mem _ hentry))
      rcases Multiset.mem_cons.mp hguard with rfl | hguard
      · exact absurd rfl (hunreleased _ List.mem_cons_self)
      · exact hguard

/-- Between taking the guard and giving it back everything is guarded. -/
theorem guarded_bracket (held : Multiset κ) (hinner : ∀ entry ∈ entries, entry.key ≠ guard) :
    Guarded guard (· ≠ guard) held (.acquired guard :: entries ++ [.released guard]) := by
  rintro before entry after middle hsplit hbefore hkey
  cases before with
  | nil =>
      rw [List.cons_append, List.nil_append, List.cons.injEq] at hsplit
      obtain ⟨rfl, -⟩ := hsplit
      exact absurd rfl hkey
  | cons first before =>
      rw [List.cons_append, List.cons_append, List.cons.injEq] at hsplit
      obtain ⟨rfl, hsplit⟩ := hsplit
      cases hbefore with
      | acquired _ hbefore =>
          apply hbefore.mem_of_unreleased _ (Multiset.mem_cons_self _ _)
          rintro other hother rfl
          -- what comes before an entry that is not the last one is inside
          rcases List.eq_nil_or_concat after with rfl | ⟨after, last, rfl⟩
          · obtain ⟨rfl, hlast⟩ := List.append_inj' hsplit rfl
            exact hinner _ hother rfl
          · have hinside : entries ++ [.released guard] = (before ++ entry :: after) ++ [last] := by
              rw [hsplit]
              simp
            obtain ⟨rfl, -⟩ := List.append_inj' hinside rfl
            exact hinner _ (List.mem_append_left _ hother) rfl

section Needs

variable {needs : κ → κ → Prop}

/-- The entries settle, no key is taken before what it needs, and none is given back while
something that is held needs it. -/
inductive Orderly (needs : κ → κ → Prop) : Multiset κ → List (Entry κ) → Multiset κ → Prop
  | nil (held : Multiset κ) : Orderly needs held [] held
  | acquired {held held' : Multiset κ} {entries : List (Entry κ)} (key : κ)
      (hneeds : ∀ other, needs key other → other ∈ held)
      (h : Orderly needs (key ::ₘ held) entries held') :
      Orderly needs held (.acquired key :: entries) held'
  | released {held held' : Multiset κ} {entries : List (Entry κ)} (key : κ)
      (hfree : ∀ other ∈ held, ¬needs other key)
      (h : Orderly needs held entries held') :
      Orderly needs (key ::ₘ held) (.released key :: entries) held'

theorem Orderly.settles (h : Orderly needs held entries held') : Settles held entries held' := by
  induction h with
  | nil held => exact .nil held
  | acquired key _ _ ih => exact .acquired key ih
  | released key _ _ ih => exact .released key ih

theorem Orderly.trans (h : Orderly needs held entries held')
    (h' : Orderly needs held' entries' held'') : Orderly needs held (entries ++ entries') held'' := by
  induction h with
  | nil held => exact h'
  | acquired key hneeds _ ih => exact .acquired key hneeds (ih h')
  | released key hfree _ ih => exact .released key hfree (ih h')

/-- Keys that nothing needs are given back in any order. -/
theorem orderly_releaseAll (keys : List κ) (held : Multiset κ)
    (hfree : ∀ key ∈ keys, ∀ other, ¬needs other key) :
    Orderly needs ((keys : Multiset κ) + held) (keys.map .released) held := by
  induction keys with
  | nil => simpa using Orderly.nil held
  | cons key keys ih =>
      rw [List.forall_mem_cons] at hfree
      rw [← Multiset.cons_coe, Multiset.cons_add]
      exact .released key (fun other _ => hfree.1 other) (ih hfree.2)

theorem orderly_acquireAll (keys : List κ) (held : Multiset κ)
    (hneeds : ∀ key ∈ keys, ∀ other, needs key other → other ∈ held) :
    Orderly needs held (keys.map .acquired) ((keys : Multiset κ) + held) := by
  induction keys generalizing held with
  | nil => simpa using Orderly.nil held
  | cons key keys ih =>
      rw [List.forall_mem_cons] at hneeds
      have hrest := ih (key ::ₘ held) fun other hother third hthird =>
        Multiset.mem_cons_of_mem (hneeds.2 other hother third hthird)
      rw [← Multiset.cons_coe, Multiset.cons_add, ← Multiset.add_cons]
      exact .acquired key hneeds.1 hrest

/-- What is held is held with all that it needs. -/
def Closed (needs : κ → κ → Prop) (held : Multiset κ) : Prop :=
  ∀ key ∈ held, ∀ other, needs key other → other ∈ held

theorem Orderly.closed (h : Orderly needs held entries held') (hclosed : Closed needs held) :
    Closed needs held' := by
  induction h with
  | nil held => exact hclosed
  | acquired key hneeds _ ih =>
      apply ih
      intro first hfirst other hother
      apply Multiset.mem_cons_of_mem
      rcases Multiset.mem_cons.mp hfirst with rfl | hfirst
      · exact hneeds other hother
      · exact hclosed first hfirst other hother
  | released key hfree _ ih =>
      apply ih
      intro first hfirst other hother
      rcases Multiset.mem_cons.mp
        (hclosed first (Multiset.mem_cons_of_mem hfirst) other hother) with rfl | hheld
      · exact absurd hother (hfree first hfirst)
      · exact hheld

theorem Orderly.split (h : Orderly needs held (entries ++ entries') held'') :
    ∃ held', Orderly needs held entries held' ∧ Orderly needs held' entries' held'' := by
  induction entries generalizing held with
  | nil => exact ⟨held, .nil held, h⟩
  | cons entry entries ih =>
      cases h with
      | acquired key hneeds h =>
          obtain ⟨middle, hfirst, hsecond⟩ := ih h
          exact ⟨middle, .acquired key hneeds hfirst, hsecond⟩
      | released key hfree h =>
          obtain ⟨middle, hfirst, hsecond⟩ := ih h
          exact ⟨middle, .released key hfree hfirst, hsecond⟩

/-- At every moment what is held is held with all that it needs. -/
theorem Orderly.always_closed (h : Orderly needs 0 entries held') {before after : List (Entry κ)}
    {middle : Multiset κ} (hsplit : entries = before ++ after) (hbefore : Settles 0 before middle) :
    Closed needs middle := by
  subst hsplit
  obtain ⟨reached, hfirst, -⟩ := h.split
  obtain rfl := settles_deterministic hfirst.settles hbefore
  exact hfirst.closed fun key hkey => absurd hkey (Multiset.notMem_zero key)

end Needs

section Runs

open Runs

variable {σ ι ο : Type*} {step : σ → ι → ο × σ} {a b : σ} {past : List (Transition σ ι ο)}
  (posts : Transition σ ι ο → List (Entry κ)) (holds : σ → Multiset κ)

/-- The run rule: where each step settles from what its state holds, so does a run. -/
theorem settles_run (hrun : Run step a past b)
    (hstep : ∀ past s i, Run step a past s →
      Settles (holds s) (posts (transition step s i)) (holds (step s i).2)) :
    Settles (holds a) (past.flatMap posts) (holds b) := by
  apply hrun.invariant (P := fun past s => Settles (holds a) (past.flatMap posts) (holds s))
  · exact .nil _
  · intro past s i hrun ih
    rw [List.flatMap_append]
    refine ih.trans ?_
    simpa using hstep past s i hrun

/-- The same for entries under a guard. -/
theorem guarded_run (hrun : Run step a past b)
    (hstep : ∀ past s i, Run step a past s →
      Settles (holds s) (posts (transition step s i)) (holds (step s i).2))
    (hguarded : ∀ past s i, Run step a past s →
      Guarded guard P (holds s) (posts (transition step s i))) :
    Guarded guard P (holds a) (past.flatMap posts) := by
  apply hrun.invariant (P := fun past _ => Guarded guard P (holds a) (past.flatMap posts))
  · exact guarded_nil
  · intro past s i hrun ih
    rw [List.flatMap_append]
    apply ih.append (settles_run posts holds hrun hstep)
    simpa using hguarded past s i hrun

/-- The same for entries about keys that need each other. -/
theorem orderly_run {needs : κ → κ → Prop} (hrun : Run step a past b)
    (hstep : ∀ past s i, Run step a past s →
      Orderly needs (holds s) (posts (transition step s i)) (holds (step s i).2)) :
    Orderly needs (holds a) (past.flatMap posts) (holds b) := by
  apply hrun.invariant (P := fun past s => Orderly needs (holds a) (past.flatMap posts) (holds s))
  · exact .nil _
  · intro past s i hrun ih
    rw [List.flatMap_append]
    refine ih.trans ?_
    simpa using hstep past s i hrun

end Runs

end Ledger
