import ObsSyncReplay.Lib.AscendingList

/-!
An append-only log of a linear order that grows by batches, each of them
ascending and above everything logged before. The ascending order is a field,
so a log has no duplicates, its first entry is the least and its last entry
the greatest, and every list with the same members in another order sorts
to it.
-/

structure AscendingLog (α : Type*) [LinearOrder α] where
  entries : List α
  ascending : entries.Pairwise (· < ·)

namespace AscendingLog

variable {α : Type*} [LinearOrder α]

def empty : AscendingLog α := ⟨[], .nil⟩

def first? (log : AscendingLog α) : Option α := log.entries.head?

def last? (log : AscendingLog α) : Option α := log.entries.getLast?

@[simp] theorem entries_empty : (empty : AscendingLog α).entries = [] := rfl

@[simp] theorem last?_empty : (empty : AscendingLog α).last? = none := rfl

@[simp] theorem first?_empty : (empty : AscendingLog α).first? = none := rfl

theorem last?_eq_none {log : AscendingLog α} : log.last? = none ↔ log.entries = [] :=
  List.getLast?_eq_none_iff

theorem last?_mem {log : AscendingLog α} {last : α} (h : last ∈ log.last?) :
    last ∈ log.entries :=
  List.mem_of_getLast? h

theorem first?_mem {log : AscendingLog α} {first : α} (h : first ∈ log.first?) :
    first ∈ log.entries :=
  List.mem_of_head? h

theorem nodup (log : AscendingLog α) : log.entries.Nodup :=
  log.ascending.imp ne_of_lt

/-- Every entry is at most the last one. -/
theorem le_last {log : AscendingLog α} {x last : α} (hx : x ∈ log.entries)
    (hlast : last ∈ log.last?) : x ≤ last :=
  AscendingList.le_getLast? log.ascending hx hlast

/-- Every entry is at least the first one. -/
theorem first_le {log : AscendingLog α} {x first : α} (hx : x ∈ log.entries)
    (hfirst : first ∈ log.first?) : first ≤ x :=
  AscendingList.head?_le log.ascending hx hfirst

theorem exists_last {log : AscendingLog α} {x : α} (hx : x ∈ log.entries) :
    ∃ last ∈ log.last?, x ≤ last := by
  cases hlast : log.last? with
  | none => rw [last?_eq_none.mp hlast] at hx; cases hx
  | some last => exact ⟨last, rfl, le_last hx hlast⟩

/-- Any arrangement of the entries sorts back to the log. -/
theorem sorted_eq_of_perm {log : AscendingLog α} {l : List α} (h : l.Perm log.entries) :
    l.insertionSort (· ≤ ·) = log.entries := by
  have hsorted := List.pairwise_insertionSort (· ≤ ·) l
  exact ((List.perm_insertionSort _ l).trans h).eq_of_pairwise'
    hsorted (log.ascending.imp le_of_lt)

/-- The log with one more batch. -/
def extend (log : AscendingLog α) (batch : List α) (hbatch : batch.Pairwise (· < ·))
    (habove : ∀ x ∈ batch, ∀ last ∈ log.last?, last < x) : AscendingLog α where
  entries := log.entries ++ batch
  ascending := List.pairwise_append.mpr ⟨log.ascending, hbatch, fun x hx y hy => by
    obtain ⟨last, hlast, hle⟩ := exists_last hx
    exact hle.trans_lt (habove y hy last hlast)⟩

section Extend

variable {log : AscendingLog α} {batch : List α} {hbatch : batch.Pairwise (· < ·)}
  {habove : ∀ x ∈ batch, ∀ last ∈ log.last?, last < x}

@[simp] theorem entries_extend :
    (log.extend batch hbatch habove).entries = log.entries ++ batch := rfl

theorem last?_extend {last : α} (h : batch.getLast? = some last) :
    (log.extend batch hbatch habove).last? = some last := by
  rw [last?, entries_extend, List.getLast?_append, h, Option.some_or]

theorem first?_extend_of_some {first : α} (h : log.first? = some first) :
    (log.extend batch hbatch habove).first? = some first := by
  rw [first?, entries_extend, List.head?_append, ← first?, h, Option.some_or]

theorem first?_extend_of_none (h : log.first? = none) :
    (log.extend batch hbatch habove).first? = batch.head? := by
  rw [first?, entries_extend, List.head?_append, ← first?, h, Option.none_or]

end Extend

end AscendingLog
