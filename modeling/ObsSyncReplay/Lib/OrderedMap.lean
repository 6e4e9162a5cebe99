import Mathlib.Data.List.Sort
import Mathlib.Tactic

/-!
Finite maps over a linear order, kept as the ascending list of their
entries. The ascending order is a field, so every map that can be written
down iterates the way a balanced search tree does: smallest key first, each
key once. The representation is canonical, and two maps with the same
entries are equal.

Lookups, insertion of a fresh key, and the two ways of cutting a map at a
key are given, each with the one lemma that says which entries remain.
-/

structure OrderedMap (κ ν : Type*) [LinearOrder κ] where
  entries : List (κ × ν)
  ascending : entries.Pairwise (fun x y => x.1 < y.1)

namespace OrderedMap

variable {κ ν : Type*} [LinearOrder κ]

instance [DecidableEq ν] : DecidableEq (OrderedMap κ ν) := fun m m' =>
  decidable_of_iff (m.entries = m'.entries) (by cases m; cases m'; simp)

@[ext] theorem ext_entries {m m' : OrderedMap κ ν} (h : m.entries = m'.entries) :
    m = m' := by
  cases m
  cases m'
  simpa using h

def empty : OrderedMap κ ν := ⟨[], .nil⟩

instance : Inhabited (OrderedMap κ ν) := ⟨empty⟩

def keys (m : OrderedMap κ ν) : List κ := m.entries.map Prod.fst

def values (m : OrderedMap κ ν) : List ν := m.entries.map Prod.snd

def size (m : OrderedMap κ ν) : Nat := m.entries.length

def isEmpty (m : OrderedMap κ ν) : Bool := m.entries.isEmpty

def find? (m : OrderedMap κ ν) (k : κ) : Option ν :=
  (m.entries.find? (fun e => e.1 == k)).map Prod.snd

def contains (m : OrderedMap κ ν) (k : κ) : Bool := (m.find? k).isSome

/-- The entry with the least key, and the one with the greatest. -/
def first? (m : OrderedMap κ ν) : Option (κ × ν) := m.entries.head?

def last? (m : OrderedMap κ ν) : Option (κ × ν) := m.entries.getLast?

@[simp] theorem entries_empty : (empty : OrderedMap κ ν).entries = [] := rfl

@[simp] theorem keys_empty : (empty : OrderedMap κ ν).keys = [] := rfl

@[simp] theorem values_empty : (empty : OrderedMap κ ν).values = [] := rfl

theorem keys_ascending (m : OrderedMap κ ν) : m.keys.Pairwise (· < ·) :=
  List.pairwise_map.mpr m.ascending

theorem keys_nodup (m : OrderedMap κ ν) : m.keys.Nodup :=
  m.keys_ascending.imp ne_of_lt

theorem mem_keys {m : OrderedMap κ ν} {k : κ} :
    k ∈ m.keys ↔ ∃ v, (k, v) ∈ m.entries := by
  simp [keys]

theorem value_unique {m : OrderedMap κ ν} {k : κ} {v w : ν}
    (hv : (k, v) ∈ m.entries) (hw : (k, w) ∈ m.entries) : v = w := by
  have hsame := List.inj_on_of_nodup_map m.keys_nodup hv hw rfl
  exact congrArg Prod.snd hsame

theorem find?_eq_some {m : OrderedMap κ ν} {k : κ} {v : ν} :
    m.find? k = some v ↔ (k, v) ∈ m.entries := by
  constructor
  · intro h
    obtain ⟨e, he, rfl⟩ := Option.map_eq_some_iff.mp h
    have hkey : e.1 = k := by simpa using List.find?_some he
    rw [← hkey]
    exact List.mem_of_find?_eq_some he
  · intro h
    have hsome : (m.entries.find? (fun e => e.1 == k)).isSome := by
      rw [List.find?_isSome]
      exact ⟨(k, v), h, by simp⟩
    obtain ⟨e, he⟩ := Option.isSome_iff_exists.mp hsome
    have hkey : e.1 = k := by simpa using List.find?_some he
    have hmem : (k, e.2) ∈ m.entries := by
      rw [← hkey]
      exact List.mem_of_find?_eq_some he
    simp [find?, he, value_unique hmem h]

@[simp] theorem contains_iff {m : OrderedMap κ ν} {k : κ} :
    m.contains k = true ↔ k ∈ m.keys := by
  simp only [contains, Option.isSome_iff_exists, find?_eq_some, mem_keys]

theorem find?_eq_none {m : OrderedMap κ ν} {k : κ} :
    m.find? k = none ↔ k ∉ m.keys := by
  rw [← contains_iff]
  simp [contains]

theorem mem_keys_of_find? {m : OrderedMap κ ν} {k : κ} {v : ν}
    (h : m.find? k = some v) : k ∈ m.keys :=
  mem_keys.mpr ⟨v, find?_eq_some.mp h⟩

def emplaceEntry (k : κ) (v : ν) : List (κ × ν) → List (κ × ν)
  | [] => [(k, v)]
  | e :: rest =>
      if k < e.1 then (k, v) :: e :: rest
      else if e.1 < k then e :: emplaceEntry k v rest
      else e :: rest

theorem mem_emplaceEntry {k : κ} {v : ν} {l : List (κ × ν)} {x : κ × ν}
    (h : x ∈ emplaceEntry k v l) : x = (k, v) ∨ x ∈ l := by
  induction l with
  | nil => exact Or.inl (by simpa [emplaceEntry] using h)
  | cons e rest ih =>
      simp only [emplaceEntry] at h
      split_ifs at h with hlt hgt
      · simpa using h
      · rcases List.mem_cons.mp h with rfl | hrest
        · exact Or.inr List.mem_cons_self
        · exact (ih hrest).imp_right (List.mem_cons_of_mem e)
      · exact Or.inr h

theorem emplaceEntry_ascending (k : κ) (v : ν) (l : List (κ × ν))
    (h : l.Pairwise (fun x y => x.1 < y.1)) :
    (emplaceEntry k v l).Pairwise (fun x y => x.1 < y.1) := by
  induction l with
  | nil => simp [emplaceEntry]
  | cons e rest ih =>
      obtain ⟨hhead, htail⟩ := List.pairwise_cons.mp h
      simp only [emplaceEntry]
      split_ifs with hlt hgt
      · refine List.pairwise_cons.mpr ⟨?_, h⟩
        intro x hx
        rcases List.mem_cons.mp hx with rfl | hrest
        · exact hlt
        · exact hlt.trans (hhead x hrest)
      · refine List.pairwise_cons.mpr ⟨?_, ih htail⟩
        intro x hx
        rcases mem_emplaceEntry hx with rfl | hrest
        · exact hgt
        · exact hhead x hrest
      · exact h

theorem emplaceEntry_perm (k : κ) (v : ν) (l : List (κ × ν))
    (h : k ∉ l.map Prod.fst) : (emplaceEntry k v l).Perm ((k, v) :: l) := by
  induction l with
  | nil => exact List.Perm.refl _
  | cons e rest ih =>
      have hne : k ≠ e.1 ∧ k ∉ rest.map Prod.fst := by simpa using h
      simp only [emplaceEntry]
      split_ifs with hlt hgt
      · exact List.Perm.refl _
      · exact ((ih hne.2).cons e).trans (List.Perm.swap _ _ _)
      · exact absurd (le_antisymm (not_lt.mp hgt) (not_lt.mp hlt)) hne.1

/-- Inserts the binding unless the key is already there. -/
def emplace (m : OrderedMap κ ν) (k : κ) (v : ν) : OrderedMap κ ν :=
  ⟨emplaceEntry k v m.entries, emplaceEntry_ascending k v _ m.ascending⟩

theorem emplace_perm {m : OrderedMap κ ν} {k : κ} (v : ν) (h : k ∉ m.keys) :
    (m.emplace k v).entries.Perm ((k, v) :: m.entries) :=
  emplaceEntry_perm k v m.entries h

theorem mem_emplace {m : OrderedMap κ ν} {k : κ} {v : ν} (h : k ∉ m.keys)
    {e : κ × ν} : e ∈ (m.emplace k v).entries ↔ e = (k, v) ∨ e ∈ m.entries := by
  rw [(emplace_perm v h).mem_iff, List.mem_cons]

theorem dropWhile_lt_eq_filter (k : κ) (l : List (κ × ν))
    (h : l.Pairwise (fun x y => x.1 < y.1)) :
    l.dropWhile (fun e => e.1 < k) = l.filter (fun e => k ≤ e.1) := by
  induction l with
  | nil => rfl
  | cons e rest ih =>
      obtain ⟨hhead, htail⟩ := List.pairwise_cons.mp h
      by_cases hlt : e.1 < k
      · simp [hlt, hlt.not_ge, ih htail]
      · have hge : k ≤ e.1 := not_lt.mp hlt
        have hrest : ∀ x ∈ rest, decide (k ≤ x.1) = true := fun x hx =>
          decide_eq_true (hge.trans (hhead x hx).le)
        simp [hge, List.filter_eq_self.mpr hrest, hge.not_gt]

theorem dropWhile_le_eq_filter (k : κ) (l : List (κ × ν))
    (h : l.Pairwise (fun x y => x.1 < y.1)) :
    l.dropWhile (fun e => e.1 ≤ k) = l.filter (fun e => k < e.1) := by
  induction l with
  | nil => rfl
  | cons e rest ih =>
      obtain ⟨hhead, htail⟩ := List.pairwise_cons.mp h
      by_cases hle : e.1 ≤ k
      · simp [hle, ih htail, hle.not_gt]
      · have hgt : k < e.1 := not_le.mp hle
        have hrest : ∀ x ∈ rest, decide (k < x.1) = true := fun x hx =>
          decide_eq_true (hgt.trans (hhead x hx))
        simp [hgt, List.filter_eq_self.mpr hrest]

theorem takeWhile_le_eq_filter (k : κ) (l : List (κ × ν))
    (h : l.Pairwise (fun x y => x.1 < y.1)) :
    l.takeWhile (fun e => e.1 ≤ k) = l.filter (fun e => e.1 ≤ k) := by
  induction l with
  | nil => rfl
  | cons e rest ih =>
      obtain ⟨hhead, htail⟩ := List.pairwise_cons.mp h
      by_cases hle : e.1 ≤ k
      · simp [hle, ih htail]
      · have hrest : ∀ x ∈ rest, ¬ decide (x.1 ≤ k) = true := fun x hx => by
          simpa using (not_le.mp hle).trans (hhead x hx)
        simp [hle, List.filter_eq_nil_iff.mpr hrest]

/-- The entries at or above a key, in order. -/
def entriesFrom (m : OrderedMap κ ν) (k : κ) : List (κ × ν) :=
  m.entries.dropWhile (fun e => e.1 < k)

/-- The entries at or below a key, in order. -/
def entriesThrough (m : OrderedMap κ ν) (k : κ) : List (κ × ν) :=
  m.entries.takeWhile (fun e => e.1 ≤ k)

theorem entriesFrom_eq_filter (m : OrderedMap κ ν) (k : κ) :
    m.entriesFrom k = m.entries.filter (fun e => k ≤ e.1) :=
  dropWhile_lt_eq_filter k _ m.ascending

theorem entriesThrough_eq_filter (m : OrderedMap κ ν) (k : κ) :
    m.entriesThrough k = m.entries.filter (fun e => e.1 ≤ k) :=
  takeWhile_le_eq_filter k _ m.ascending

/-- Erases the entries below a key. -/
def eraseBefore (m : OrderedMap κ ν) (k : κ) : OrderedMap κ ν :=
  ⟨m.entriesFrom k, m.ascending.sublist (List.dropWhile_sublist _)⟩

@[simp] theorem entries_eraseBefore (m : OrderedMap κ ν) (k : κ) :
    (m.eraseBefore k).entries = m.entries.filter (fun e => k ≤ e.1) :=
  m.entriesFrom_eq_filter k

/-- Erases from the front while a test holds. -/
def eraseWhile (m : OrderedMap κ ν) (p : κ × ν → Bool) : OrderedMap κ ν :=
  ⟨m.entries.dropWhile p, m.ascending.sublist (List.dropWhile_sublist _)⟩

@[simp] theorem entries_eraseWhile (m : OrderedMap κ ν) (p : κ × ν → Bool) :
    (m.eraseWhile p).entries = m.entries.dropWhile p := rfl

/-- Erases the entry with the given key. -/
def erase (m : OrderedMap κ ν) (k : κ) : OrderedMap κ ν :=
  ⟨m.entries.filter (fun e => e.1 ≠ k), m.ascending.filter _⟩

@[simp] theorem entries_erase (m : OrderedMap κ ν) (k : κ) :
    (m.erase k).entries = m.entries.filter (fun e => e.1 ≠ k) := rfl

end OrderedMap
