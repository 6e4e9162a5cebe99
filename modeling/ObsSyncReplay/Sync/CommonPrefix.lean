import ObsSyncReplay.Sync.CommonPacketRange

/-!
What `SelectCommonPrefixEnd` selects, said of two lists: the last element of the
longest initial segment that they share, within the bound and on cadence. What the
flushes and the drain rely on follows from it.
-/

namespace ObsSyncReplay

/-- The buffers that the member functions of `EncodedPacketBuffer` can build. -/
inductive EncodedPacketBuffer.Reachable : EncodedPacketBuffer → Prop
  | create (capacityBytes : Nat) : Reachable { capacityBytes := capacityBytes }
  | push {buffer : EncodedPacketBuffer} (packet : EncodedPacket) :
      Reachable buffer → Reachable (buffer.push packet).2
  | clear {buffer : EncodedPacketBuffer} : Reachable buffer → Reachable buffer.clear
  | discardBefore {buffer : EncodedPacketBuffer} (sourceCts : Nat) :
      Reachable buffer → Reachable (buffer.discardBefore sourceCts)
  | setCapacityBytes {buffer : EncodedPacketBuffer} (capacityBytes : Nat) :
      Reachable buffer → Reachable (buffer.setCapacityBytes capacityBytes).2

theorem EncodedPacketBuffer.Reachable.keyed {buffer : EncodedPacketBuffer}
    (h : buffer.Reachable) : buffer.Keyed := by
  induction h with
  | create capacityBytes => exact keyed_empty capacityBytes
  | @push buffer packet _ ih =>
      by_cases hretained : (buffer.push packet).1 = .retained
      · exact ih.push (Prod.ext hretained rfl)
      · rw [push_of_ne_retained hretained]
        exact ih
  | clear _ _ => simp [Keyed]
  | discardBefore sourceCts _ ih => exact ih.discardBefore sourceCts
  | @setCapacityBytes buffer capacityBytes _ ih =>
      unfold EncodedPacketBuffer.setCapacityBytes
      split_ifs
      · exact ih
      · exact ih

section Prefix

variable (ctsA ctsB : List Nat) (upperCts expectedCtsStep : Nat)

/-- `cts` is an initial segment of both lists, within the bound and on cadence. -/
structure CommonPrefix (cts : List Nat) : Prop where
  left : cts <+: ctsA
  right : cts <+: ctsB
  bounded : ∀ x ∈ cts, x ≤ upperCts
  cadence : expectedCtsStep ≠ 0 → cts.IsChain (OnCadence expectedCtsStep)

structure LongestPrefix (cts : List Nat) : Prop where
  common : CommonPrefix ctsA ctsB upperCts expectedCtsStep cts
  longest : ∀ other, CommonPrefix ctsA ctsB upperCts expectedCtsStep other →
    other.length ≤ cts.length

variable {ctsA ctsB upperCts expectedCtsStep} {cts : List Nat}

/-- What the loop admits is what a common prefix allows. -/
theorem admissible_mayFollow_iff (hascending : cts.Pairwise (· < ·)) :
    Lockstep.Admissible (mayFollow upperCts expectedCtsStep) none cts ↔
      (∀ x ∈ cts, x ≤ upperCts) ∧
        (expectedCtsStep ≠ 0 → cts.IsChain (OnCadence expectedCtsStep)) := by
  constructor
  · intro h
    constructor
    · intro x hx
      obtain ⟨before, hfollow⟩ := h.mem hx
      simp only [mayFollow, Bool.and_eq_true, decide_eq_true_eq] at hfollow
      exact hfollow.1
    · intro hstep
      apply (isChain_onCadence_iff hstep hascending).mp
      apply h.isChain.imp
      intro x y hfollow
      simp only [mayFollow, Bool.and_eq_true, Bool.not_eq_true'] at hfollow
      exact hfollow.2
  · rintro ⟨hbounded, hcadence⟩
    apply Lockstep.admissible_of_isChain
    · intro x hx
      simp [mayFollow, breaksCadence, hbounded x (List.mem_of_head? hx)]
    · by_cases hstep : expectedCtsStep = 0
      · apply hascending.isChain.imp_of_mem_imp
        intro x y _ hy _
        simp [mayFollow, breaksCadence, hstep, hbounded y hy]
      · apply ((isChain_onCadence_iff hstep hascending).mpr (hcadence hstep)).imp_of_mem_imp
        intro x y _ hy hon
        simp [mayFollow, hbounded y hy, hon]

theorem CommonPrefix.isPrefix_run (hA : ctsA.Pairwise (· < ·))
    (h : CommonPrefix ctsA ctsB upperCts expectedCtsStep cts) :
    cts <+: Lockstep.run (mayFollow upperCts expectedCtsStep) none ctsA ctsB :=
  Lockstep.isPrefix_run
    ((admissible_mayFollow_iff (hA.sublist h.left.sublist)).mpr ⟨h.bounded, h.cadence⟩)
    h.left h.right

/-- The run of the loop is the longest common prefix. -/
theorem longestPrefix_iff_run (hA : ctsA.Pairwise (· < ·)) :
    LongestPrefix ctsA ctsB upperCts expectedCtsStep cts ↔
      cts = Lockstep.run (mayFollow upperCts expectedCtsStep) none ctsA ctsB := by
  have hleft := Lockstep.run_isPrefix_left (mayFollow upperCts expectedCtsStep) none ctsA ctsB
  have hright := Lockstep.run_isPrefix_right (mayFollow upperCts expectedCtsStep) none ctsA ctsB
  obtain ⟨hbounded, hcadence⟩ := (admissible_mayFollow_iff (hA.sublist hleft.sublist)).mp
    (Lockstep.run_admissible (mayFollow upperCts expectedCtsStep) none ctsA ctsB)
  constructor
  · intro h
    exact (h.common.isPrefix_run hA).eq_of_length_le
      (h.longest _ ⟨hleft, hright, hbounded, hcadence⟩)
  · rintro rfl
    exact ⟨⟨hleft, hright, hbounded, hcadence⟩, fun other h => (h.isPrefix_run hA).length_le⟩

end Prefix

section Selection

variable {a b : EncodedPacketBuffer} {startCts upperCts expectedCtsStep endCts : Nat}

/-- Up to a selected end both buffers hold the same source CTS. -/
theorem contains_eq_of_selected (ha : a.Keyed) (hb : b.Keyed)
    (h : selectCommonPrefixEnd a b startCts upperCts expectedCtsStep = some endCts) {cts : Nat}
    (hstart : startCts ≤ cts) (hend : cts ≤ endCts) : a.contains cts = b.contains cts := by
  have hsame := (selectCommonPrefixEnd_eq_some ha hb h).2.2.1
  have hmem (buffer : EncodedPacketBuffer) (hbuffer : buffer.Keyed) :
      buffer.contains cts = true ↔ cts ∈ (buffer.ctsFrom startCts).filter (· ≤ endCts) := by
    rw [hbuffer.contains_iff, List.mem_filter, EncodedPacketBuffer.mem_ctsFrom]
    simp [hstart, hend]
  rw [Bool.eq_iff_iff, hmem a ha, hmem b hb, hsame]

/-- A larger bound does not take a selected end back. -/
theorem selectCommonPrefixEnd_mono (ha : a.Keyed) (hb : b.Keyed) {upperCts' : Nat}
    (hle : upperCts ≤ upperCts')
    (h : selectCommonPrefixEnd a b startCts upperCts expectedCtsStep = some endCts) :
    ∃ endCts', selectCommonPrefixEnd a b startCts upperCts' expectedCtsStep = some endCts' ∧
      endCts ≤ endCts' := by
  rw [selectCommonPrefixEnd_eq_run ha hb] at h ⊢
  have hA := ha.ctsFrom_ascending startCts
  have hshorter := ((longestPrefix_iff_run hA).mpr
    (Eq.refl (Lockstep.run (mayFollow upperCts expectedCtsStep) none (a.ctsFrom startCts)
      (b.ctsFrom startCts)))).common
  have hlonger : CommonPrefix (a.ctsFrom startCts) (b.ctsFrom startCts) upperCts'
      expectedCtsStep (Lockstep.run (mayFollow upperCts expectedCtsStep) none
        (a.ctsFrom startCts) (b.ctsFrom startCts)) :=
    ⟨hshorter.left, hshorter.right, fun x hx => (hshorter.bounded x hx).trans hle,
      hshorter.cadence⟩
  have hinitial := hlonger.isPrefix_run hA
  have hmem := hinitial.subset (List.mem_of_getLast? h)
  obtain ⟨endCts', hend⟩ := Option.ne_none_iff_exists'.mp
    (fun hnone => List.ne_nil_of_mem hmem (List.getLast?_eq_none_iff.mp hnone))
  have hascending := hA.sublist (Lockstep.run_isPrefix_left
    (mayFollow upperCts' expectedCtsStep) none (a.ctsFrom startCts) (b.ctsFrom startCts)).sublist
  exact ⟨endCts', hend, AscendingList.le_getLast? hascending hmem hend⟩

/-- `SelectCommonPrefixEnd` selects the last element of the longest common prefix; up to
it the buffers hold the same source CTS, it is selected again with itself as the bound,
and a larger bound selects no smaller end. -/
theorem select_common_prefix_end (ha : a.Reachable) (hb : b.Reachable)
    (startCts upperCts expectedCtsStep : Nat) :
    (∃ cts, LongestPrefix (a.ctsFrom startCts) (b.ctsFrom startCts) upperCts
      expectedCtsStep cts) ∧
    (∀ cts, LongestPrefix (a.ctsFrom startCts) (b.ctsFrom startCts) upperCts
        expectedCtsStep cts →
      selectCommonPrefixEnd a b startCts upperCts expectedCtsStep = cts.getLast?) ∧
    ∀ endCts, selectCommonPrefixEnd a b startCts upperCts expectedCtsStep = some endCts →
      (∀ cts, startCts ≤ cts → cts ≤ endCts → a.contains cts = b.contains cts) ∧
      selectCommonPrefixEnd a b startCts endCts expectedCtsStep = some endCts ∧
      ∀ upperCts', upperCts ≤ upperCts' → ∃ endCts',
        selectCommonPrefixEnd a b startCts upperCts' expectedCtsStep = some endCts' ∧
          endCts ≤ endCts' := by
  have hA := ha.keyed.ctsFrom_ascending startCts
  refine ⟨⟨_, (longestPrefix_iff_run hA).mpr rfl⟩, ?_, ?_⟩
  · intro cts hlongest
    rw [selectCommonPrefixEnd_eq_run ha.keyed hb.keyed, (longestPrefix_iff_run hA).mp hlongest]
  · intro endCts hselect
    refine ⟨fun cts hstart hend => ?_, ?_, fun upperCts' hle => ?_⟩
    · exact contains_eq_of_selected ha.keyed hb.keyed hselect hstart hend
    · obtain ⟨-, -, hsame, hlast, hchain⟩ :=
        selectCommonPrefixEnd_eq_some ha.keyed hb.keyed hselect
      exact (selectCommonPrefixEnd_self_iff ha.keyed hb.keyed).mpr ⟨hsame, hlast, hchain⟩
    · exact selectCommonPrefixEnd_mono ha.keyed hb.keyed hle hselect

/-- A buffer that has taken packets with these source CTS. -/
def bufferOf (cts : List (Fin 256)) : EncodedPacketBuffer :=
  cts.foldl (fun buffer sourceCts => (buffer.push
    { sourceCts := sourceCts.val, timebaseNum := 1, timebaseDen := 60, payload := [0],
      sourceCts_lt := byte_lt_uint64Size sourceCts }).2) { capacityBytes := 1024 }

theorem bufferOf_reachable (cts : List (Fin 256)) : (bufferOf cts).Reachable := by
  induction cts using List.reverseRecOn with
  | nil => exact .create 1024
  | append_singleton cts last ih =>
      rw [bufferOf, List.foldl_append]
      exact ih.push _

/-- A gap that both buffers share ends the prefix only if the cadence is checked. -/
theorem select_common_prefix_end_at_gap :
    selectCommonPrefixEnd (bufferOf [0, 20, 10, 40]) (bufferOf [0, 10, 20, 40]) 5 50 10 =
        some 20 ∧
      selectCommonPrefixEnd (bufferOf [0, 20, 10, 40]) (bufferOf [0, 10, 20, 40]) 5 20 10 =
        some 20 ∧
      ∃ endCts', selectCommonPrefixEnd (bufferOf [0, 20, 10, 40]) (bufferOf [0, 10, 20, 40])
        5 60 10 = some endCts' ∧ 20 ≤ endCts' := by
  obtain ⟨_, _, hselected⟩ := select_common_prefix_end (bufferOf_reachable [0, 20, 10, 40])
    (bufferOf_reachable [0, 10, 20, 40]) 5 50 10
  obtain ⟨_, hagain, hmono⟩ := hselected 20 (by decide)
  exact ⟨by decide, hagain, hmono 60 (by decide)⟩

example : selectCommonPrefixEnd (bufferOf [0, 20, 10, 40]) (bufferOf [0, 10, 20, 40]) 5 50 =
    some 40 := by decide

end Selection

end ObsSyncReplay
