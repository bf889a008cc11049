import TrafficMonitor.Capture.Registry
import TrafficMonitor.Proofs.Filter.Reading
import TrafficMonitor.Proofs.Text.Decimal

/-! The table of open captures. Each operation is described by what can be looked up after it:
`put` changes what is found under one identifier, `drop` leaves nothing there, and `register`
adds a capture under an identifier that ends in a number above all that were given out. -/
namespace TrafficMonitor.Capture.Registry
variable {r r' : Registry} {id : String} {c : Channel} {config : Config} {clock : Int}

/-! ### Looking captures up -/

theorem find?_of_not_mem (h : id ∉ r.ids) : r.channels.find? (·.1 = id) = none :=
  List.find?_eq_none.mpr fun entry hentry hid =>
    h (List.mem_map.mpr ⟨entry, hentry, of_decide_eq_true hid⟩)

theorem channel_of_not_mem (h : id ∉ r.ids) : r.channel id = .error (.unknown id) := by
  rw [channel, find?_of_not_mem h]

theorem exists_channel (h : id ∈ r.ids) : ∃ c, r.channel id = .ok c := by
  obtain ⟨entry, hentry, hid⟩ := List.mem_map.mp h
  cases hfound : r.channels.find? (·.1 = id) with
  | none => exact absurd (decide_eq_true hid) (List.find?_eq_none.mp hfound entry hentry)
  | some found => exact ⟨found.2, by rw [channel, hfound]⟩

theorem mem_ids_of_channel (h : r.channel id = .ok c) : id ∈ r.ids := by
  apply Classical.byContradiction
  intro hnone
  rw [channel_of_not_mem hnone] at h
  cases h

/-- The entry of a capture, if it is open. -/
theorem found_of_channel (h : r.channel id = .ok c) :
    r.channels.find? (·.1 = id) = some (id, c) := by
  rw [channel] at h
  split at h
  · rename_i found d hfound
    cases h
    have hid : found = id := by simpa using List.find?_some hfound
    rw [hfound, hid]
  · cases h

/-! ### Changing and closing captures -/

@[simp] theorem ids_put (id : String) (c : Channel) (r : Registry) : (r.put id c).ids = r.ids := by
  rw [ids, put, List.map_map]
  refine List.map_congr_left fun (other, d) _ => ?_
  by_cases h : other = id <;> simp [h]

@[simp] theorem issued_put (id : String) (c : Channel) (r : Registry) :
    (r.put id c).issued = r.issued := rfl

theorem modify_eq_ok {change : Channel → Channel} (h : r.modify id change = .ok r') :
    ∃ c, r' = r.put id c := by
  rw [modify] at h
  cases hc : r.channel id with
  | error e =>
    rw [hc] at h
    cases h
  | ok c =>
    rw [hc] at h
    cases h
    exact ⟨_, rfl⟩

theorem take_eq_ok {count : Int} {packets : List RawPacket}
    (h : r.take id count = .ok (packets, r')) : ∃ c, r' = r.put id c := by
  rw [take] at h
  cases hc : r.channel id with
  | error e =>
    rw [hc] at h
    cases h
  | ok c =>
    rw [hc] at h
    cases h
    exact ⟨_, rfl⟩

theorem channel_put (h : id ∈ r.ids) (c : Channel) (other : String) :
    (r.put id c).channel other = if other = id then .ok c else r.channel other := by
  have hfind : (r.put id c).channels.find? (·.1 = other) = (r.channels.find? (·.1 = other)).map
      fun entry => if entry.1 = id then (id, c) else entry := by
    rw [put, List.find?_map]
    congr 2
    funext entry
    by_cases h : entry.1 = id <;> simp [h]
  split
  · subst other
    obtain ⟨d, hd⟩ := exists_channel h
    rw [channel, hfind, found_of_channel hd]
    simp
  · rename_i hother
    by_cases hopen : other ∈ r.ids
    · obtain ⟨d, hd⟩ := exists_channel hopen
      rw [hd, channel, hfind, found_of_channel hd]
      simp [hother]
    · rw [channel_of_not_mem hopen, channel_of_not_mem (by rwa [ids_put])]

@[simp] theorem ids_drop (id : String) (r : Registry) :
    (r.drop id).ids = r.ids.filter (· ≠ id) := by
  rw [ids, ids, drop, List.filter_map]
  rfl

@[simp] theorem issued_drop (id : String) (r : Registry) : (r.drop id).issued = r.issued := rfl

/-- The youngest capture is taken out. -/
theorem ids_drop_last {front : List String} (h : r.ids = front ++ [id]) (hunique : r.ids.Nodup) :
    (r.drop id).ids = front := by
  rw [h, List.nodup_append] at hunique
  have hfront : ∀ other ∈ front, decide (other ≠ id) = true := fun other hother =>
    decide_eq_true (hunique.2.2 other hother id (List.mem_singleton_self id))
  rw [ids_drop, h, List.filter_append, List.filter_eq_self.mpr hfront]
  simp

theorem channel_drop (id : String) (r : Registry) (other : String) :
    (r.drop id).channel other = if other = id then .error (.unknown id) else r.channel other := by
  split
  · subst other
    exact channel_of_not_mem (by simp)
  · rename_i hother
    rw [channel, channel, drop, List.find?_filter]
    congr 2
    funext entry
    by_cases hentry : entry.1 = other
    · simp [hentry, hother]
    · simp [hentry]

theorem close_eq (h : r.channel id = .ok c) (clock : Int) :
    r.close id clock = (stamp clock).map fun now =>
      (⟨id, r.producer, c.config, now, c.statistics now⟩, r.drop id) := by
  rw [close, h]
  cases stamp clock <;> rfl

/-! ### Opening captures -/

/-- Opens a capture under the next identifier, or fails for the time alone. -/
theorem register_eq_ok (h : r.register config clock = .ok (id, r')) :
    ∃ now, stamp clock = .ok now ∧ id = r.nextId clock ∧
      r' = { r with
        issued := r.issued + 1
        channels := r.channels ++
          [(id, { config, counters := r.producer.counters, openedAt := now })] } := by
  rw [register] at h
  cases hnow : stamp clock with
  | error e =>
    rw [hnow] at h
    cases h
  | ok now =>
    rw [hnow] at h
    cases h
    exact ⟨now, rfl, rfl, rfl⟩

theorem ids_register (h : r.register config clock = .ok (id, r')) : r'.ids = r.ids ++ [id] := by
  obtain ⟨now, -, -, rfl⟩ := register_eq_ok h
  simp [ids]

theorem channel_register (h : r.register config clock = .ok (id, r')) (hfresh : id ∉ r.ids) :
    ∃ now, stamp clock = .ok now ∧ ∀ other, r'.channel other =
      if other = id then .ok { config, counters := r.producer.counters, openedAt := now }
      else r.channel other := by
  have hids := ids_register h
  obtain ⟨now, hnow, -, rfl⟩ := register_eq_ok h
  refine ⟨now, hnow, fun other => ?_⟩
  by_cases hopen : other ∈ r.ids
  · obtain ⟨d, hd⟩ := exists_channel hopen
    have hother : other ≠ id := fun heq => hfresh (heq ▸ hopen)
    rw [if_neg hother, hd, channel, List.find?_append, found_of_channel hd]
    rfl
  · split
    · subst other
      rw [channel, List.find?_append, find?_of_not_mem hfresh]
      simp
    · rename_i hother
      rw [channel_of_not_mem hopen, channel_of_not_mem]
      rw [hids, List.mem_append, List.mem_singleton]
      exact fun hmem => hmem.elim hopen hother

/-! ### Identifiers -/

/-- The text is an identifier whose number was given out. -/
def Numbered (r : Registry) (id : String) : Prop :=
  ∃ (front : String) (n : Nat), n ≤ r.issued ∧ id = front ++ "_" ++ toString n

/-- What stands behind the last underscore is the number. -/
theorem number_eq {front front' : String} {m n : Nat}
    (h : front ++ "_" ++ toString m = front' ++ "_" ++ toString n) : m = n := by
  have hback : ∀ (front : String) (n : Nat),
      (front ++ "_" ++ toString n).toList.reverse.takeWhile (· ≠ '_') =
        (Nat.toDigits 10 n).reverse := by
    intro front n
    have hdigits : ∀ c ∈ (Nat.toDigits 10 n).reverse, decide (c ≠ '_') = true := by
      intro c hc
      have hdigit := Text.isDigit_of_mem_toDigits (List.mem_reverse.mp hc)
      refine decide_eq_true fun hunderscore => ?_
      rw [hunderscore] at hdigit
      exact absurd hdigit (by decide)
    have htext : (front ++ "_" ++ toString n).toList.reverse =
        (Nat.toDigits 10 n).reverse ++ '_' :: front.toList.reverse := by
      simp [Nat.repr]
    rw [htext, List.takeWhile_append_of_pos hdigits]
    simp
  have hdigits : Nat.toDigits 10 m = Nat.toDigits 10 n := by
    rw [← List.reverse_inj, ← hback front m, h, hback]
  rw [← Nat.ofDigitChars_toDigits (b := 10) (n := m) (by decide) (by decide), hdigits,
    Nat.ofDigitChars_toDigits (by decide) (by decide)]

theorem nextId_eq (clock : Int) (r : Registry) :
    r.nextId clock =
      s!"{r.producer.name}_{wholeSeconds clock}" ++ "_" ++ toString (r.issued + 1) :=
  rfl

theorem not_numbered_nextId (clock : Int) (r : Registry) : ¬r.Numbered (r.nextId clock) := by
  rintro ⟨front, n, hn, heq⟩
  rw [nextId_eq] at heq
  have := number_eq heq
  omega

theorem Numbered.mono (h : r.Numbered id) (hle : r.issued ≤ r'.issued) : r'.Numbered id := by
  obtain ⟨front, n, hn, heq⟩ := h
  exact ⟨front, n, Nat.le_trans hn hle, heq⟩

theorem numbered_register (h : r.register config clock = .ok (id, r')) : r'.Numbered id := by
  obtain ⟨now, -, rfl, rfl⟩ := register_eq_ok h
  exact ⟨_, r.issued + 1, Nat.le_refl _, nextId_eq clock r⟩

theorem issued_le_register (h : r.register config clock = .ok (id, r')) :
    r.issued ≤ r'.issued := by
  obtain ⟨now, -, -, rfl⟩ := register_eq_ok h
  exact Nat.le_succ _

theorem not_numbered_register (h : r.register config clock = .ok (id, r')) : ¬r.Numbered id := by
  obtain ⟨now, -, rfl, -⟩ := register_eq_ok h
  exact not_numbered_nextId clock r

/-- No open capture has the identifier of a new one. -/
theorem fresh_register (hids : ∀ id ∈ r.ids, r.Numbered id)
    (h : r.register config clock = .ok (id, r')) : id ∉ r.ids := fun hopen =>
  not_numbered_register h (hids id hopen)

end TrafficMonitor.Capture.Registry
