import ObsSyncReplay.Capture.CaptureRuns

/-!
What an eviction leaves of the retained packets. The rounds of the first loop add up to one
cut through all streams, the least one that makes the rest fit; the second loop then takes
from each stream what is no longer preceded by a keyframe.
-/

namespace ObsSyncReplay

/-- The payload bytes of entries. -/
def entriesBytes (entries : List (Nat × CapturedEncodedPacket)) : Nat :=
  (entries.map (fun e => packetBytes e.2)).sum

@[simp] theorem entriesBytes_nil : entriesBytes [] = 0 := rfl

@[simp] theorem entriesBytes_cons (e : Nat × CapturedEncodedPacket)
    (rest : List (Nat × CapturedEncodedPacket)) :
    entriesBytes (e :: rest) = packetBytes e.2 + entriesBytes rest := by
  simp [entriesBytes]

@[simp] theorem entriesBytes_append (first second : List (Nat × CapturedEncodedPacket)) :
    entriesBytes (first ++ second) = entriesBytes first + entriesBytes second := by
  simp [entriesBytes]

theorem foldl_sub_packetBytes (entries : List (Nat × CapturedEncodedPacket)) (bytes : Nat) :
    entries.foldl (fun bytes e => bytes - packetBytes e.2) bytes =
      bytes - entriesBytes entries := by
  induction entries generalizing bytes with
  | nil => rfl
  | cons e rest ih =>
      rw [List.foldl_cons, ih, entriesBytes_cons]
      omega

/-! ### Erasing from the front twice -/

section Front

variable {α : Type} {p q : α → Bool}

theorem takeWhile_split (h : ∀ a, p a = true → q a = true) (l : List α) :
    l.takeWhile q = l.takeWhile p ++ (l.dropWhile p).takeWhile q := by
  induction l with
  | nil => rfl
  | cons a rest ih =>
      cases hp : p a with
      | true =>
          have hq := h a hp
          simp [hp, hq, ih]
      | false => simp [hp]

theorem dropWhile_dropWhile (h : ∀ a, p a = true → q a = true) (l : List α) :
    (l.dropWhile p).dropWhile q = l.dropWhile q := by
  induction l with
  | nil => rfl
  | cons a rest ih =>
      cases hp : p a with
      | true =>
          have hq := h a hp
          simp [hp, hq, ih]
      | false => simp [hp]

end Front

namespace StreamState

variable {stream : StreamState} {p q : Nat × CapturedEncodedPacket → Bool}

/-- The counter of a stream is right. -/
def Counted (stream : StreamState) : Prop :=
  stream.retainedBytes = entriesBytes stream.packets.entries

@[simp] theorem entries_eraseFrontWhile :
    (stream.eraseFrontWhile p).packets.entries = stream.packets.entries.dropWhile p := rfl

theorem retainedBytes_eraseFrontWhile :
    (stream.eraseFrontWhile p).retainedBytes =
      stream.retainedBytes - entriesBytes (stream.packets.entries.takeWhile p) :=
  foldl_sub_packetBytes _ _

theorem Counted.eraseFrontWhile (h : stream.Counted) (p : Nat × CapturedEncodedPacket → Bool) :
    (stream.eraseFrontWhile p).Counted := by
  have hsplit := congrArg entriesBytes
    (List.takeWhile_append_dropWhile (p := p) (l := stream.packets.entries))
  have hcounted : stream.retainedBytes = entriesBytes stream.packets.entries := h
  rw [entriesBytes_append] at hsplit
  unfold Counted
  rw [retainedBytes_eraseFrontWhile, entries_eraseFrontWhile]
  omega

/-- Erasing more of the front leaves nothing to see of having erased some before. -/
theorem eraseFrontWhile_eraseFrontWhile (h : ∀ e, p e = true → q e = true) :
    (stream.eraseFrontWhile p).eraseFrontWhile q = stream.eraseFrontWhile q := by
  have hpackets : (stream.packets.eraseWhile p).eraseWhile q = stream.packets.eraseWhile q :=
    OrderedMap.ext_entries (dropWhile_dropWhile h stream.packets.entries)
  unfold eraseFrontWhile
  dsimp only
  rw [hpackets, OrderedMap.entries_eraseWhile, takeWhile_split h stream.packets.entries,
    List.foldl_append]

end StreamState

def packetCount (streams : List StreamState) : Nat :=
  (streams.map (fun stream => stream.packets.size)).sum

def totalBytes (streams : List StreamState) : Nat :=
  (streams.map (fun stream => entriesBytes stream.packets.entries)).sum

/-- The bytes that remain if everything up to `cts` is dropped from every stream. -/
def bytesAbove (streams : List StreamState) (cts : Nat) : Nat :=
  (streams.map (fun stream =>
    entriesBytes (stream.packets.entries.filter (fun e => cts < e.1)))).sum

def Retained (streams : List StreamState) (cts : Nat) : Prop :=
  ∃ stream ∈ streams, cts ∈ stream.packets.keys

section Streams

variable {streams : List StreamState} {p q : Nat × CapturedEncodedPacket → Bool}

theorem retainedBytes_of_counted (h : ∀ stream ∈ streams, stream.Counted) :
    retainedBytes streams = totalBytes streams :=
  congrArg List.sum (List.map_congr_left h)

theorem eraseFronts_eraseFronts (h : ∀ e, p e = true → q e = true) (evicted : Nat) :
    eraseFronts q (eraseFronts p streams evicted).1 (eraseFronts p streams evicted).2 =
      eraseFronts q streams evicted := by
  unfold eraseFronts
  dsimp only
  refine Prod.ext ?_ ?_
  · rw [List.map_map]
    apply List.map_congr_left
    exact fun stream _ => StreamState.eraseFrontWhile_eraseFrontWhile h
  · dsimp only
    rw [List.map_map, Nat.add_assoc, ← List.sum_map_add]
    congr 2
    apply List.map_congr_left
    intro stream _
    rw [takeWhile_split h stream.packets.entries, List.length_append]
    rfl

/-- What is erased is counted. -/
theorem packetCount_eraseFronts (streams : List StreamState) (evicted : Nat) :
    (eraseFronts p streams evicted).2 + packetCount (eraseFronts p streams evicted).1 =
      evicted + packetCount streams := by
  unfold eraseFronts packetCount
  dsimp only
  rw [List.map_map, Nat.add_assoc, ← List.sum_map_add]
  congr 2
  apply List.map_congr_left
  intro stream _
  have hlength := congrArg List.length
    (List.takeWhile_append_dropWhile (p := p) (l := stream.packets.entries))
  rwa [List.length_append] at hlength

theorem eraseFronts_false (streams : List StreamState) (evicted : Nat) :
    eraseFronts (fun _ => false) streams evicted = (streams, evicted) := by
  have hsame (stream : StreamState) : stream.eraseFrontWhile (fun _ => false) = stream := by
    have hpackets : stream.packets.eraseWhile (fun _ => false) = stream.packets :=
      OrderedMap.ext_entries (by cases h : stream.packets.entries <;> simp [h])
    unfold StreamState.eraseFrontWhile
    rw [hpackets]
    cases stream.packets.entries <;> simp
  unfold eraseFronts
  simp only [hsame, List.map_id']
  refine Prod.ext rfl ?_
  have hnone (stream : StreamState) :
      (stream.packets.entries.takeWhile (fun _ => false)).length = 0 := by
    cases stream.packets.entries <;> rfl
  simp [hnone]

/-- The oldest packets of the streams that have any. -/
def heads (streams : List StreamState) : List Nat :=
  streams.filterMap (fun stream => stream.packets.first?.map Prod.fst)

theorem oldestCts_eq (streams : List StreamState) : oldestCts streams = (heads streams).min? := by
  have hround (streams : List StreamState) (oldest : Option Nat) :
      streams.foldl (fun oldest stream => stream.packets.first?.elim oldest
          (fun e => some (oldest.elim e.1 (min · e.1)))) oldest =
        oldest.elim (heads streams).min? (fun cts => some ((heads streams).foldl min cts)) := by
    induction streams generalizing oldest with
    | nil => cases oldest <;> rfl
    | cons stream rest ih =>
        rw [List.foldl_cons, ih]
        cases hfirst : stream.packets.first? with
        | none =>
            have hheads : heads (stream :: rest) = heads rest := by simp [heads, hfirst]
            rw [hheads, Option.elim_none]
        | some e =>
            have hheads : heads (stream :: rest) = e.1 :: heads rest := by simp [heads, hfirst]
            rw [hheads]
            cases oldest with
            | none => rfl
            | some cts => rfl
  rw [← Option.elim_none (heads streams).min? (fun cts => some ((heads streams).foldl min cts)),
    ← hround streams none, oldestCts]
  congr 1
  funext oldest stream
  cases stream.packets.first? <;> rfl

theorem mem_heads {cts : Nat} :
    cts ∈ heads streams ↔ ∃ stream ∈ streams, stream.packets.keys.head? = some cts := by
  simp [heads, OrderedMap.first?, OrderedMap.keys, List.mem_filterMap]

theorem oldestCts_isLeast {oldest : Nat} (h : oldestCts streams = some oldest) :
    IsLeast {cts | Retained streams cts} oldest := by
  rw [oldestCts_eq, List.min?_eq_some_iff] at h
  obtain ⟨stream, hstream, hhead⟩ := mem_heads.mp h.1
  refine ⟨⟨stream, hstream, List.mem_of_mem_head? hhead⟩, ?_⟩
  rintro cts ⟨other, hother, hcts⟩
  have hascending := other.packets.keys_ascending
  cases hkeys : other.packets.keys with
  | nil => simp [hkeys] at hcts
  | cons first rest =>
      have hfirst := h.2 first (mem_heads.mpr ⟨other, hother, by simp [hkeys]⟩)
      rw [hkeys] at hcts hascending
      rcases List.mem_cons.mp hcts with rfl | hrest
      · exact hfirst
      · exact hfirst.trans (List.rel_of_pairwise_cons hascending hrest).le

theorem totalBytes_of_empty (h : ∀ stream ∈ streams, stream.packets.entries = []) :
    totalBytes streams = 0 := by
  apply List.sum_eq_zero
  intro bytes hbytes
  obtain ⟨stream, hstream, rfl⟩ := List.mem_map.mp hbytes
  rw [h stream hstream, entriesBytes_nil]

theorem totalBytes_of_oldestCts_none (h : oldestCts streams = none) : totalBytes streams = 0 := by
  rw [oldestCts_eq, List.min?_eq_none_iff] at h
  apply totalBytes_of_empty
  intro stream hstream
  rw [← List.head?_eq_none_iff]
  have hfirst := List.filterMap_eq_nil_iff.mp h stream hstream
  simpa [OrderedMap.first?] using hfirst

theorem totalBytes_of_packetCount_zero (h : packetCount streams = 0) : totalBytes streams = 0 := by
  apply totalBytes_of_empty
  intro stream hstream
  have hsize := List.sum_eq_zero_iff.mp h _ (List.mem_map_of_mem hstream)
  exact List.length_eq_zero_iff.mp hsize

/-- The streams after a round that drops everything up to `cts`. -/
theorem entries_dropped (stream : StreamState) (cts : Nat) :
    (stream.eraseFrontWhile (fun e => e.1 ≤ cts)).packets.entries =
      stream.packets.entries.filter (fun e => cts < e.1) :=
  OrderedMap.dropWhile_le_eq_filter cts _ stream.packets.ascending

variable {cts : Nat}

theorem totalBytes_dropped (streams : List StreamState) (cts evicted : Nat) :
    totalBytes (eraseFronts (fun e => e.1 ≤ cts) streams evicted).1 = bytesAbove streams cts := by
  unfold totalBytes bytesAbove eraseFronts
  dsimp only
  rw [List.map_map]
  congr 1
  apply List.map_congr_left
  exact fun stream _ => congrArg entriesBytes (entries_dropped stream cts)

theorem bytesAbove_dropped {later : Nat} (h : cts ≤ later) (evicted : Nat) :
    bytesAbove (eraseFronts (fun e => e.1 ≤ cts) streams evicted).1 later =
      bytesAbove streams later := by
  unfold bytesAbove eraseFronts
  dsimp only
  rw [List.map_map]
  congr 1
  apply List.map_congr_left
  intro stream _
  simp only [Function.comp_apply, entries_dropped, List.filter_filter]
  congr 1
  apply List.filter_congr
  intro e _
  rw [← Bool.decide_and, decide_eq_decide]
  omega

theorem retained_dropped {later evicted : Nat} :
    Retained (eraseFronts (fun e => e.1 ≤ cts) streams evicted).1 later ↔
      Retained streams later ∧ cts < later := by
  have hkeys (stream : StreamState) :
      later ∈ (stream.eraseFrontWhile (fun e => e.1 ≤ cts)).packets.keys ↔
        later ∈ stream.packets.keys ∧ cts < later := by
    rw [OrderedMap.mem_keys, OrderedMap.mem_keys, entries_dropped]
    simp
  constructor
  · rintro ⟨dropped, hdropped, hlater⟩
    obtain ⟨stream, hstream, rfl⟩ := List.mem_map.mp hdropped
    obtain ⟨hmem, hlt⟩ := (hkeys stream).mp hlater
    exact ⟨⟨stream, hstream, hmem⟩, hlt⟩
  · rintro ⟨⟨stream, hstream, hmem⟩, hlt⟩
    exact ⟨_, List.mem_map_of_mem hstream, (hkeys stream).mpr ⟨hmem, hlt⟩⟩

theorem packetCount_dropped (h : Retained streams cts) (evicted : Nat) :
    packetCount (eraseFronts (fun e => e.1 ≤ cts) streams evicted).1 < packetCount streams := by
  obtain ⟨stream, hstream, hcts⟩ := h
  obtain ⟨captured, hentry⟩ := OrderedMap.mem_keys.mp hcts
  have hsize (stream : StreamState) :
      (stream.eraseFrontWhile (fun e => e.1 ≤ cts)).packets.size =
        (stream.packets.entries.filter (fun e => cts < e.1)).length :=
    congrArg List.length (entries_dropped stream cts)
  unfold packetCount eraseFronts
  dsimp only
  rw [List.map_map]
  apply List.sum_lt_sum
  · intro other _
    rw [Function.comp_apply, hsize]
    exact List.length_filter_le _ _
  · refine ⟨stream, hstream, ?_⟩
    rw [Function.comp_apply, hsize]
    apply List.length_filter_lt_length_iff_exists.mpr
    exact ⟨(cts, captured), hentry, by simp⟩

/-- Nothing has to go, or everything up to `cts` in all streams: the least CTS for which the
rest fits. -/
def IsCut (streams : List StreamState) (capacityBytes : Nat) : Option Nat → Prop
  | none => totalBytes streams ≤ capacityBytes
  | some cts => capacityBytes < totalBytes streams ∧
      IsLeast {cts | Retained streams cts ∧ bytesAbove streams cts ≤ capacityBytes} cts

/-- What the cut takes. -/
def upTo (cut : Option Nat) (e : Nat × CapturedEncodedPacket) : Bool :=
  cut.any (fun cts => e.1 ≤ cts)

theorem IsCut.unique {capacityBytes : Nat} {cut cut' : Option Nat}
    (h : IsCut streams capacityBytes cut) (h' : IsCut streams capacityBytes cut') : cut = cut' := by
  cases cut with
  | none =>
      cases cut' with
      | none => rfl
      | some cts' => exact absurd h (not_le.mpr h'.1)
  | some cts =>
      cases cut' with
      | none => exact absurd h' (not_le.mpr h.1)
      | some cts' => exact congrArg some (h.2.unique h'.2)

/-- A round before the cut of what it leaves makes up the cut of all. -/
theorem IsCut.of_round {capacityBytes evicted : Nat} {cut : Option Nat}
    (hover : capacityBytes < totalBytes streams)
    (holdest : IsLeast {cts | Retained streams cts} cts)
    (h : IsCut (eraseFronts (fun e => e.1 ≤ cts) streams evicted).1 capacityBytes cut) :
    IsCut streams capacityBytes (some (cut.getD cts)) ∧ cts ≤ cut.getD cts := by
  cases cut with
  | none =>
      have hfits : bytesAbove streams cts ≤ capacityBytes := by
        rwa [IsCut, totalBytes_dropped] at h
      refine ⟨⟨hover, ⟨holdest.1, hfits⟩, ?_⟩, le_rfl⟩
      exact fun later hlater => holdest.2 hlater.1
  | some later =>
      obtain ⟨hstill, ⟨hretained, hfits⟩, hleast⟩ := h
      rw [totalBytes_dropped] at hstill
      obtain ⟨hlater, hlt⟩ := retained_dropped.mp hretained
      rw [bytesAbove_dropped hlt.le] at hfits
      refine ⟨⟨hover, ⟨hlater, hfits⟩, ?_⟩, hlt.le⟩
      rintro other ⟨hother, hothers⟩
      rcases (holdest.2 hother).eq_or_lt with rfl | hafter
      · exact absurd hothers (not_le.mpr hstill)
      · apply hleast
        exact ⟨retained_dropped.mpr ⟨hother, hafter⟩, by rwa [bytesAbove_dropped hafter.le]⟩

theorem eraseFronts_upTo_none (streams : List StreamState) (evicted : Nat) :
    eraseFronts (upTo none) streams evicted = (streams, evicted) :=
  eraseFronts_false streams evicted

theorem eraseFronts_upTo_round {cut : Option Nat} (h : cts ≤ cut.getD cts) (evicted : Nat) :
    eraseFronts (upTo cut) (eraseFronts (fun e => e.1 ≤ cts) streams evicted).1
        (eraseFronts (fun e => e.1 ≤ cts) streams evicted).2 =
      eraseFronts (upTo (some (cut.getD cts))) streams evicted := by
  cases cut with
  | none => exact eraseFronts_upTo_none _ _
  | some later =>
      apply eraseFronts_eraseFronts
      intro e he
      have hbefore : e.1 ≤ cts := by simpa using he
      simpa [upTo] using hbefore.trans h

theorem counted_eraseFronts (h : ∀ stream ∈ streams, stream.Counted) (evicted : Nat) :
    ∀ stream ∈ (eraseFronts p streams evicted).1, stream.Counted :=
  eraseFronts_forall (fun _ p hcounted => hcounted.eraseFrontWhile p) evicted h

/-- With a round of fuel for every packet the first loop stops at the cut. -/
theorem evictOldest_eq_cut (capacityBytes evicted : Nat) {fuel : Nat}
    (hcounted : ∀ stream ∈ streams, stream.Counted) (hfuel : packetCount streams ≤ fuel) :
    ∃ cut, IsCut streams capacityBytes cut ∧
      evictOldest capacityBytes fuel streams evicted = eraseFronts (upTo cut) streams evicted := by
  induction fuel generalizing streams evicted with
  | zero =>
      refine ⟨none, ?_, (eraseFronts_upTo_none streams evicted).symm⟩
      rw [IsCut, totalBytes_of_packetCount_zero (Nat.le_zero.mp hfuel)]
      exact Nat.zero_le _
  | succ fuel ih =>
      rw [evictOldest, retainedBytes_of_counted hcounted]
      split_ifs with hfits
      · exact ⟨none, hfits, (eraseFronts_upTo_none streams evicted).symm⟩
      · cases holdest : oldestCts streams with
        | none =>
            have hzero := totalBytes_of_oldestCts_none holdest
            omega
        | some oldest =>
            have hleast := oldestCts_isLeast holdest
            have hless := packetCount_dropped hleast.1 evicted
            obtain ⟨cut, hcut, hrest⟩ := ih _ (counted_eraseFronts hcounted evicted)
              (Nat.lt_succ_iff.mp (hless.trans_le hfuel))
            obtain ⟨hwhole, hlater⟩ := hcut.of_round (not_le.mp hfits) hleast
            refine ⟨_, hwhole, ?_⟩
            dsimp only
            rw [hrest, eraseFronts_upTo_round hlater]

/-- The entries of a stream above the cut. -/
def above (cut : Option Nat) (stream : StreamState) : List (Nat × CapturedEncodedPacket) :=
  stream.packets.entries.filter (fun e => !upTo cut e)

/-- Of these, the entries from the first keyframe on. -/
def trimmed (cut : Option Nat) (stream : StreamState) : List (Nat × CapturedEncodedPacket) :=
  (above cut stream).dropWhile (fun e => !e.2.packet.keyframe)

theorem entries_eraseFrontWhile_upTo (cut : Option Nat) (stream : StreamState) :
    (stream.eraseFrontWhile (upTo cut)).packets.entries = above cut stream := by
  cases cut with
  | none =>
      have hnone : above none stream = stream.packets.entries := by simp [above, upTo]
      rw [hnone]
      cases hentries : stream.packets.entries <;> simp [upTo, hentries]
  | some cts =>
      rw [above]
      apply (entries_dropped stream cts).trans
      apply List.filter_congr
      intro e _
      rw [upTo, Option.any_some, ← decide_not, decide_eq_decide, not_le]

theorem above_suffix (cut : Option Nat) (stream : StreamState) :
    above cut stream <:+ stream.packets.entries := by
  rw [← entries_eraseFrontWhile_upTo]
  exact List.dropWhile_suffix _

theorem trimmed_suffix (cut : Option Nat) (stream : StreamState) :
    trimmed cut stream <:+ stream.packets.entries :=
  (List.dropWhile_suffix _).trans (above_suffix cut stream)

/-- In an ascending list nothing that follows an entry which is kept is dropped. -/
theorem mem_dropWhile_of_le {l : List (Nat × CapturedEncodedPacket)}
    {kept e : Nat × CapturedEncodedPacket} (hascending : l.Pairwise (fun x y => x.1 < y.1))
    (hkept : kept ∈ l) (hp : p kept = false) (he : e ∈ l) (hle : kept.1 ≤ e.1) :
    e ∈ l.dropWhile p := by
  induction l with
  | nil => cases he
  | cons first rest ih =>
      obtain ⟨hfirst, hrest⟩ := List.pairwise_cons.mp hascending
      cases hdrop : p first with
      | false => simpa [hdrop] using he
      | true =>
          have hlater : kept ∈ rest := by
            rcases List.mem_cons.mp hkept with rfl | hmem
            · simp [hp] at hdrop
            · exact hmem
          have hmem : e ∈ rest := by
            rcases List.mem_cons.mp he with rfl | hmem
            · exact absurd (hfirst kept hlater) (not_lt.mpr hle)
            · exact hmem
          rw [List.dropWhile_cons_of_pos hdrop]
          exact ih hrest hlater hmem

/-- A keyframe above the cut stays, with all packets after it. -/
theorem mem_trimmed_of_keyframe {cut : Option Nat} {stream : StreamState} {keyframe : Nat}
    {captured : CapturedEncodedPacket} {e : Nat × CapturedEncodedPacket}
    (habove : ∀ cts ∈ cut, cts < keyframe) (hfind : stream.packets.find? keyframe = some captured)
    (hkeyframe : captured.packet.keyframe = true) (he : e ∈ stream.packets.entries)
    (hle : keyframe ≤ e.1) : e ∈ trimmed cut stream := by
  have hmem : ∀ entry ∈ stream.packets.entries, keyframe ≤ entry.1 → entry ∈ above cut stream := by
    intro entry hentry hafter
    apply List.mem_filter.mpr
    refine ⟨hentry, ?_⟩
    cases hcut : cut with
    | none => rfl
    | some cts =>
        have hlt := habove cts hcut
        simp only [upTo, Option.any_some, Bool.not_eq_true', decide_eq_false_iff_not]
        omega
  have hascending := stream.packets.ascending.sublist (above_suffix cut stream).sublist
  have hentry := OrderedMap.find?_eq_some.mp hfind
  apply mem_dropWhile_of_le hascending (hmem _ hentry le_rfl) (by simp [hkeyframe])
    (hmem e he hle) hle

/-- What an eviction does with its cut. The first loop has fuel enough, so it ends as it
would with any more of it. -/
structure CutsAt (streams : List StreamState) (capacityBytes evicted : Nat) (cut : Option Nat) :
    Prop where
  isCut : IsCut streams capacityBytes cut
  terminates : ∀ fuel, packetCount streams ≤ fuel →
    evictOldest capacityBytes fuel streams evicted =
      evictOldest capacityBytes (packetCount streams) streams evicted
  fits : retainedBytes (evictOldest capacityBytes (packetCount streams) streams evicted).1 ≤
    capacityBytes
  fitting : totalBytes streams ≤ capacityBytes →
    evictOldest capacityBytes (packetCount streams) streams evicted = (streams, evicted)
  capacity : (evictOldest capacityBytes (packetCount streams) streams evicted).1.map
    (fun stream => stream.packets.entries) = streams.map (above cut)
  trims : (evictToCapacity streams capacityBytes evicted).1.map
    (fun stream => stream.packets.entries) = streams.map (trimmed cut)
  suffix : ∀ stream ∈ streams, trimmed cut stream <:+ stream.packets.entries
  keyframes : ∀ keyframe, (∀ cts ∈ cut, cts < keyframe) →
    (∀ stream ∈ streams, ∃ captured, stream.packets.find? keyframe = some captured ∧
      captured.packet.keyframe = true) →
    ∀ stream ∈ streams, ∀ e ∈ stream.packets.entries, keyframe ≤ e.1 → e ∈ trimmed cut stream
  counted : ∀ stream ∈ (evictToCapacity streams capacityBytes evicted).1, stream.Counted
  evicted : (evictToCapacity streams capacityBytes evicted).2 +
      packetCount (evictToCapacity streams capacityBytes evicted).1 =
    evicted + packetCount streams

theorem evictToCapacity_eq (streams : List StreamState) (capacityBytes evicted : Nat) :
    evictToCapacity streams capacityBytes evicted =
      eraseFronts (fun e => !e.2.packet.keyframe)
        (evictOldest capacityBytes (packetCount streams) streams evicted).1
        (evictOldest capacityBytes (packetCount streams) streams evicted).2 := rfl

theorem entries_eraseFronts (evicted : Nat) :
    (eraseFronts p streams evicted).1.map (fun stream => stream.packets.entries) =
      streams.map (fun stream => stream.packets.entries.dropWhile p) := by
  unfold eraseFronts
  dsimp only
  rw [List.map_map]
  rfl

theorem totalBytes_eraseFronts_upTo {capacityBytes : Nat} {cut : Option Nat}
    (h : IsCut streams capacityBytes cut) (evicted : Nat) :
    totalBytes (eraseFronts (upTo cut) streams evicted).1 ≤ capacityBytes := by
  cases cut with
  | none =>
      rw [eraseFronts_upTo_none]
      exact h
  | some cts => exact (totalBytes_dropped streams cts evicted).trans_le h.2.1.2

/-- Whatever the streams retain, an eviction cuts all of them at one CTS, the least one that
makes the rest fit, and takes from the rest what no keyframe precedes. -/
theorem evictToCapacity_cuts (hcounted : ∀ stream ∈ streams, stream.Counted)
    (capacityBytes evicted : Nat) :
    ∃ cut, CutsAt streams capacityBytes evicted cut := by
  obtain ⟨cut, hcut, hloop⟩ := evictOldest_eq_cut capacityBytes evicted hcounted le_rfl
  have hresult := evictToCapacity_eq streams capacityBytes evicted
  rw [hloop] at hresult
  have hcut_counted := counted_eraseFronts (p := upTo cut) hcounted evicted
  refine ⟨cut, ⟨hcut, ?_, ?_, ?_, ?_, ?_, ?_, ?_, ?_, ?_⟩⟩
  · intro fuel hfuel
    obtain ⟨cut', hcut', hloop'⟩ := evictOldest_eq_cut capacityBytes evicted hcounted hfuel
    rw [hloop, hloop', hcut.unique hcut']
  · rw [hloop, retainedBytes_of_counted hcut_counted]
    exact totalBytes_eraseFronts_upTo hcut evicted
  · intro hfits
    have hnone : cut = none := hcut.unique hfits
    rw [hloop, hnone, eraseFronts_upTo_none]
  · rw [hloop, entries_eraseFronts]
    apply List.map_congr_left
    exact fun stream _ => entries_eraseFrontWhile_upTo cut stream
  · rw [hresult, entries_eraseFronts]
    unfold eraseFronts
    dsimp only
    rw [List.map_map]
    apply List.map_congr_left
    intro stream _
    rw [Function.comp_apply, entries_eraseFrontWhile_upTo]
    rfl
  · exact fun stream _ => trimmed_suffix cut stream
  · intro keyframe habove hcommon stream hstream e he hle
    obtain ⟨captured, hfind, hkeyframe⟩ := hcommon stream hstream
    exact mem_trimmed_of_keyframe habove hfind hkeyframe he hle
  · rw [hresult]
    exact counted_eraseFronts hcut_counted _
  · rw [hresult, packetCount_eraseFronts, packetCount_eraseFronts]

end Streams

/-- A ring of packets of one byte, each with its CTS and whether it is a keyframe. -/
def ringOf (packets : List (Fin 256 × Bool)) : StreamState :=
  packets.foldl (fun stream (cts, keyframe) => stream.retain { packet := {
    payload := [0]
    sourceCts := cts.val
    sourceCts_lt := byte_lt_uint64Size cts
    keyframe := keyframe } }) {}

/-- Two streams whose packets are not at the same CTS. -/
def unalignedRings : List StreamState :=
  [ringOf [(100, true), (110, false), (120, true)], ringOf [(105, true), (115, false), (120, true)]]

/-- Of six packets the first in each stream is cut off, and with it the keyframe that the next
one needs. -/
theorem evictToCapacity_cuts_sample :
    (evictToCapacity unalignedRings 4 0).1.map (fun stream => stream.packets.keys) =
        [[120], [120]] ∧
      ∃ cut, CutsAt unalignedRings 4 0 cut := by
  refine ⟨by decide, evictToCapacity_cuts ?_ 4 0⟩
  unfold unalignedRings
  rw [List.forall_mem_cons, List.forall_mem_singleton]
  exact ⟨rfl, rfl⟩

end ObsSyncReplay
