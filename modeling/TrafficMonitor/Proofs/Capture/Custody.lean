import TrafficMonitor.Proofs.Capture.Requests

/-! What becomes of captured packets. A `History` is any number of requests to any number of
captures. The packets that an open capture has handed out, and behind them those in its queue, are
the packets that it accepted (`Custody`), and every request keeps to the rules of `Event.Lawful`.
`packets_in_custody` says so of all histories. -/
namespace TrafficMonitor.Capture

/-- The captures of a producer, and all that was asked of them. -/
structure History where
  registry : Registry
  events : List Event := []

def History.ask (h : History) (q : Request) : History :=
  { registry := (h.registry.perform q).2, events := h.events ++ [h.registry.event q] }

/-- Everything that is asked of a producer, from the beginning. -/
def History.of (producer : Producer) (requests : List Request) : History :=
  requests.foldl ask { registry := { producer } }

namespace Event

/-- The rules of a single request. -/
structure Lawful (e : Event) : Prop where
  /-- A request that looks up a capture which is not open is refused. -/
  refuses : ∀ id, e.request.sought? = some id → id ∉ e.before.ids →
    e.answer = .refused (.unknown id)
  /-- What is refused changes nothing. -/
  keeps : ∀ cause, e.answer = .refused cause → e.after = e.before
  /-- Only the capture that a request is about, or that it opens, is changed by it. -/
  isolates : ∀ id, e.request.subject? ≠ some id → id ∉ e.opened →
    e.after.channel id = e.before.channel id
  /-- A new capture was not open before. It is empty and has counted nothing. -/
  opens : ∀ config clock now, e.request = .register config clock → stamp clock = .ok now →
    ∃ id c, e.opened = [id] ∧ id ∉ e.before.ids ∧ e.after.channel id = .ok c ∧
      c.config = config ∧ c.counters = e.before.producer.counters ∧ c.queue = []
  /-- A packet is dropped exactly if the queue has a limit and has reached it. -/
  drops : ∀ id p c, e.request = .offer id p → e.before.channel id = .ok c →
    e.offered id = [p] ∧
    (e.dropped id = [p] ↔ 0 < c.config.bufferSize ∧ c.queue.length = c.config.bufferSize)
  /-- A failure of the producer is counted. -/
  counts : ∀ id c, e.request = .fail id → e.before.channel id = .ok c → e.fails id = true
  /-- The oldest packets are handed out, as many as are asked for and there are. -/
  takes : ∀ id count c, e.request = .take id count → e.before.channel id = .ok c →
    ∃ n : Nat, n = min (max count 0) c.queue.length ∧ e.answer = .packets (c.queue.take n) ∧
      (c.queue.take n).length = n
  /-- Statistics tell the counters and the depth, and change nothing. -/
  tells : ∀ id clock now c, e.request = .statistics id clock → stamp clock = .ok now →
    e.before.channel id = .ok c →
    ∃ s, e.answer = .statistics s ∧ s.counters = c.counters ∧ s.depth = c.queue.length ∧
      e.after = e.before
  /-- A capture that is closed is open no more. Its summary tells the last counters. -/
  closes : ∀ id clock now c, e.request = .close id clock → stamp clock = .ok now →
    e.before.channel id = .ok c →
    ∃ s, e.answer = .closed s ∧ s.statistics.counters = c.counters ∧
      s.statistics.depth = c.queue.length ∧ id ∉ e.after.ids
  /-- A capture stays what it was opened for. -/
  remains : ∀ id c d, e.before.channel id = .ok c → e.after.channel id = .ok d →
    d.config = c.config

end Event

/-- An open capture and everything that has happened: packets are kept in order, none is lost
and none is there twice, and the counters tell what has happened. -/
structure Custody (id : String) (c : Channel) (events : List Event) : Prop where
  inOrder : events.flatMap (·.handedOut id) ++ c.queue = events.flatMap (·.accepted id)
  packets : c.counters.packets = (events.flatMap (·.accepted id)).length
  bytes : c.counters.bytes = Number.total ((events.flatMap (·.accepted id)).map (·.data.length))
  drops : c.counters.drops = (events.flatMap (·.dropped id)).length
  errors : c.counters.errors = events.countP (·.fails id)
  bounded : 0 < c.config.bufferSize → c.queue.length ≤ c.config.bufferSize

/-! ### Single requests -/

namespace Event
variable {r : Registry} {q : Request} {id : String} {c : Channel} {p : RawPacket}

/-- Every request keeps to the rules, as long as no queue is beyond its limit. -/
theorem lawful (hids : ∀ id ∈ r.ids, r.Numbered id)
    (hbounded : ∀ id c, r.channel id = .ok c → 0 < c.config.bufferSize →
      c.queue.length ≤ c.config.bufferSize) : (r.event q).Lawful where
  refuses id (hsought : q.sought? = some id) (hclosed : id ∉ r.ids) := by
    rw [Registry.event, Registry.perform_unknown (Request.subject_of_sought hsought) hclosed]
  keeps cause h := Registry.perform_refused h
  isolates id hsubject hopened := Registry.channel_perform_other hids hsubject hopened
  opens config clock now hq hnow := by
    obtain rfl : q = .register config clock := hq
    rcases Registry.perform_register config clock r with
      ⟨cause, hcause, -⟩ | ⟨_, id, r', -, hregister, hperform⟩
    · rw [hnow] at hcause
      cases hcause
    · obtain ⟨hfresh, c, hc, hnew⟩ := channel_opened hids hregister
      refine ⟨id, c, ?_, hfresh, ?_, hnew⟩
      · rw [opened, Registry.event, hperform]
      · rw [Registry.event, hperform, hc]
  drops id p c hq (hc : r.channel id = .ok c) := by
    obtain rfl : q = .offer id p := hq
    refine ⟨offered_offer hc, ?_⟩
    rw [dropped_offer hc, Channel.isFull, Bool.and_eq_true, decide_eq_true_iff, decide_eq_true_iff]
    have hbound := hbounded id c hc
    constructor
    · rintro ⟨hpositive, hreached⟩
      have := hbound hpositive
      exact ⟨hpositive, by omega⟩
    · rintro ⟨hpositive, hreached⟩
      exact ⟨hpositive, by omega⟩
  counts id c hq (hc : r.channel id = .ok c) := by
    obtain rfl : q = .fail id := hq
    simp [fails, Registry.event, Registry.perform_fail hc]
  takes id count c hq (hc : r.channel id = .ok c) := by
    obtain rfl : q = .take id count := hq
    refine ⟨min count.toNat c.queue.length, by omega, ?_, ?_⟩
    · rw [Registry.event, Registry.perform_take hc]
      exact congrArg Answer.packets List.take_eq_take_min
    · rw [List.length_take]
      omega
  tells id clock now c hq hnow (hc : r.channel id = .ok c) := by
    obtain rfl : q = .statistics id clock := hq
    rcases Registry.perform_statistics hc clock with ⟨cause, hcause, -⟩ | ⟨_, -, hperform⟩
    · rw [hnow] at hcause
      cases hcause
    · exact ⟨_, by rw [Registry.event, hperform], rfl, rfl, by rw [Registry.event, hperform]⟩
  closes id clock now c hq hnow (hc : r.channel id = .ok c) := by
    obtain rfl : q = .close id clock := hq
    rcases Registry.perform_close hc clock with ⟨cause, hcause, -⟩ | ⟨_, -, hperform⟩
    · rw [hnow] at hcause
      cases hcause
    · exact ⟨_, by rw [Registry.event, hperform], rfl, rfl, by simp [Registry.event, hperform]⟩
  remains id c d (hc : r.channel id = .ok c) (hd : (r.perform q).2.channel id = .ok d) := by
    rcases channel_after hids hc hd with
      ⟨rfl, -⟩ | ⟨p, -, rfl⟩ | ⟨-, rfl⟩ | ⟨count, -, rfl⟩
    · rfl
    · rw [Channel.offer]
      split <;> rfl
    · rfl
    · rfl

end Event

namespace Custody
variable {r : Registry} {id : String} {c : Channel} {es : List Event}

/-! ### Keeping the account -/

/-- Nothing has happened to a new capture. -/
theorem of_quiet {producer : Producer} (hquiet : ∀ e ∈ es, e.Quiet id)
    (hcounters : c.counters = producer.counters) (hqueue : c.queue = []) : Custody id c es := by
  have haccepted : es.flatMap (·.accepted id) = [] :=
    List.flatMap_eq_nil_iff.mpr fun e he => (hquiet e he).accepted
  have hdropped : es.flatMap (·.dropped id) = [] :=
    List.flatMap_eq_nil_iff.mpr fun e he => (hquiet e he).dropped
  have hhandedOut : es.flatMap (·.handedOut id) = [] :=
    List.flatMap_eq_nil_iff.mpr fun e he => (hquiet e he).handedOut
  have hfails : es.countP (·.fails id) = 0 :=
    List.countP_eq_zero.mpr fun e he => by simp [(hquiet e he).fails]
  have hzero : producer.counters.packets = 0 ∧ producer.counters.bytes = 0 ∧
      producer.counters.drops = 0 ∧ producer.counters.errors = 0 := by
    cases producer <;> decide
  obtain ⟨hpackets, hbytes, hdrops, herrors⟩ := hzero
  constructor
  case inOrder => rw [haccepted, hhandedOut, hqueue, List.append_nil]
  case packets => rw [haccepted, hcounters, hpackets, List.length_nil]
  case bytes => rw [haccepted, hcounters, hbytes, List.map_nil, Number.total_nil]
  case drops => rw [hdropped, hcounters, hdrops, List.length_nil]
  case errors => rw [hfails, hcounters, herrors]
  case bounded =>
    intro hpositive
    rw [hqueue]
    exact Int.le_of_lt hpositive

/-- An event that changes the capture by what it accepts, drops, hands out and counts. -/
theorem step (h : Custody id c es) {e : Event} {d : Channel}
    (inOrder : e.handedOut id ++ d.queue = c.queue ++ e.accepted id)
    (packets : d.counters.packets = c.counters.packets + (e.accepted id).length)
    (bytes : d.counters.bytes =
      c.counters.bytes + Number.total ((e.accepted id).map (·.data.length)))
    (drops : d.counters.drops = c.counters.drops + (e.dropped id).length)
    (errors : d.counters.errors = c.counters.errors + (e.fails id).toNat)
    (bounded : 0 < d.config.bufferSize → d.queue.length ≤ d.config.bufferSize) :
    Custody id d (es ++ [e]) where
  inOrder := by
    rw [List.flatMap_append, List.flatMap_append, List.flatMap_singleton, List.flatMap_singleton,
      List.append_assoc, inOrder, ← List.append_assoc, h.inOrder]
  packets := by
    rw [packets, h.packets, List.flatMap_append, List.flatMap_singleton, List.length_append]
  bytes := by
    rw [bytes, h.bytes, List.flatMap_append, List.flatMap_singleton, List.map_append,
      Number.total_append]
  drops := by
    rw [drops, h.drops, List.flatMap_append, List.flatMap_singleton, List.length_append]
  errors := by
    rw [errors, h.errors, List.countP_append, List.countP_singleton]
    cases e.fails id <;> rfl
  bounded := bounded

theorem quiet (h : Custody id c es) {e : Event} (hquiet : e.Quiet id) :
    Custody id c (es ++ [e]) := by
  apply h.step
  case inOrder => simp [hquiet.accepted, hquiet.handedOut]
  case packets | bytes => simp [hquiet.accepted]
  case drops => simp [hquiet.dropped]
  case errors => simp [hquiet.fails]
  case bounded => exact h.bounded

theorem offer (h : Custody id c es) (hc : r.channel id = .ok c) (p : RawPacket) :
    Custody id (c.offer p) (es ++ [r.event (.offer id p)]) := by
  have hoffered := Event.offered_offer (p := p) hc
  have hhandedOut : (r.event (.offer id p)).handedOut id = [] := rfl
  have hgrows := Event.grows_offer (p := p) hc
  cases hfull : c.isFull with
  | true =>
    have hstays : ¬(r.event (.offer id p)).Grows id := by simp [hgrows, hfull]
    have haccepted : (r.event (.offer id p)).accepted id = [] := if_neg hstays
    have hdropped : (r.event (.offer id p)).dropped id = [p] := by
      rw [Event.dropped, if_neg hstays, hoffered]
    rw [Channel.offer, if_pos hfull]
    apply h.step
    case inOrder => simp [haccepted, hhandedOut]
    case packets | bytes => simp [haccepted]
    case drops => simp [hdropped]
    case errors => rfl
    case bounded => exact h.bounded
  | false =>
    have haccepted : (r.event (.offer id p)).accepted id = [p] := by
      rw [Event.accepted, if_pos (hgrows.mpr hfull), hoffered]
    have hdropped : (r.event (.offer id p)).dropped id = [] := if_pos (hgrows.mpr hfull)
    rw [Channel.offer, if_neg (by simp [hfull])]
    apply h.step
    case inOrder => simp [haccepted, hhandedOut]
    case packets | bytes => simp [haccepted]
    case drops => simp [hdropped]
    case errors => rfl
    case bounded =>
      intro hpositive
      change 0 < c.config.bufferSize at hpositive
      have hroom : c.queue.length < c.config.bufferSize := by
        simpa [Channel.isFull, hpositive] using hfull
      simpa using Int.add_one_le_of_lt hroom

theorem fail (h : Custody id c es) (hc : r.channel id = .ok c) :
    Custody id c.fail (es ++ [r.event (.fail id)]) := by
  have hfails : (r.event (.fail id)).fails id = true := by
    simp [Event.fails, Registry.event, Registry.perform_fail hc]
  have hoffered : (r.event (.fail id)).offered id = [] := rfl
  have hhandedOut : (r.event (.fail id)).handedOut id = [] := rfl
  apply h.step
  case inOrder => simp [Event.accepted, hoffered, hhandedOut, Channel.fail]
  case packets | bytes => simp [Event.accepted, hoffered, Channel.fail]
  case drops => simp [Event.dropped, hoffered, Channel.fail]
  case errors => simp [hfails, Channel.fail]
  case bounded => exact h.bounded

theorem take (h : Custody id c es) (hc : r.channel id = .ok c) (count : Int) :
    Custody id (c.take count).2 (es ++ [r.event (.take id count)]) := by
  have hhandedOut : (r.event (.take id count)).handedOut id = c.queue.take count.toNat := by
    simp [Event.handedOut, Registry.event, Registry.perform_take hc]
  have hoffered : (r.event (.take id count)).offered id = [] := rfl
  apply h.step
  case inOrder => simp [Event.accepted, hoffered, hhandedOut, Channel.take]
  case packets | bytes => simp [Event.accepted, hoffered, Channel.take]
  case drops => simp [Event.dropped, hoffered, Channel.take]
  case errors => rfl
  case bounded =>
    intro hpositive
    have hbounded := h.bounded hpositive
    have hshorter : (c.queue.drop count.toNat).length ≤ c.queue.length := by
      rw [List.length_drop]
      omega
    exact Int.le_trans (Int.ofNat_le.mpr hshorter) hbounded

/-- The account of a capture that is open before and after a request. -/
theorem event (h : Custody id c es) (hids : ∀ id ∈ r.ids, r.Numbered id) {q : Request} {d : Channel}
    (hc : r.channel id = .ok c) (hd : (r.perform q).2.channel id = .ok d) :
    Custody id d (es ++ [r.event q]) := by
  rcases Event.channel_after hids hc hd with
    ⟨rfl, hquiet⟩ | ⟨p, rfl, rfl⟩ | ⟨rfl, rfl⟩ | ⟨count, rfl, rfl⟩
  · exact h.quiet hquiet
  · exact h.offer hc p
  · exact h.fail hc
  · exact h.take hc count

end Custody

/-! ### Histories -/

namespace History

/-- The identifiers that were given out, oldest first. -/
def given (h : History) : List String := h.events.flatMap Event.opened

/-- What holds at every point of a history. -/
structure Sound (h : History) : Prop where
  unique : h.given.Nodup
  numbered : ∀ id ∈ h.given, h.registry.Numbered id
  known : ∀ id ∈ h.registry.ids, id ∈ h.given
  /-- Nothing has happened to a capture that was never opened. -/
  quiet : ∀ id, id ∉ h.given → ∀ e ∈ h.events, e.Quiet id
  custody : ∀ id c, h.registry.channel id = .ok c → Custody id c h.events
  lawful : ∀ e ∈ h.events, e.Lawful

theorem sound_new (producer : Producer) : Sound { registry := { producer } } where
  unique := List.nodup_nil
  numbered _ hid := absurd hid List.not_mem_nil
  known _ hid := absurd hid List.not_mem_nil
  quiet _ _ _ he := absurd he List.not_mem_nil
  custody _ _ hc := absurd (Registry.mem_ids_of_channel hc) List.not_mem_nil
  lawful _ he := absurd he List.not_mem_nil

theorem Sound.ask {h : History} (hs : h.Sound) (q : Request) : (h.ask q).Sound := by
  have hids : ∀ id ∈ h.registry.ids, h.registry.Numbered id := fun id hid =>
    hs.numbered id (hs.known id hid)
  have hgiven : (h.ask q).given = h.given ++ (h.registry.event q).opened := by
    simp [given, History.ask]
  have hopened : ∀ id ∈ (h.registry.event q).opened,
      id ∉ h.given ∧ (h.registry.perform q).2.Numbered id := by
    intro id hid
    obtain ⟨config, clock, r', -, hregister, hperform⟩ :=
      Registry.perform_opened (Event.mem_opened.mp hid)
    refine ⟨fun hold => Registry.not_numbered_register hregister (hs.numbered id hold), ?_⟩
    rw [hperform]
    exact Registry.numbered_register hregister
  have hquiet : ∀ id, id ∉ h.given → (h.registry.event q).Quiet id := fun id hid =>
    Event.quiet_of_not_mem fun hopen => hid (hs.known id hopen)
  constructor
  case unique =>
    rw [hgiven, List.nodup_append]
    refine ⟨hs.unique, ?_, ?_⟩
    · rw [Event.opened]
      split <;> simp
    · rintro id hold other hnew rfl
      exact (hopened id hnew).1 hold
  case numbered =>
    intro id hid
    rw [hgiven, List.mem_append] at hid
    rcases hid with hold | hnew
    · exact (hs.numbered id hold).mono (Registry.issued_le_perform q h.registry)
    · exact (hopened id hnew).2
  case known =>
    intro id hid
    rw [hgiven, List.mem_append]
    exact (Registry.mem_ids_perform hids hid).imp_left (hs.known id)
  case quiet =>
    intro id hid e he
    rw [hgiven, List.mem_append, not_or] at hid
    rcases List.mem_append.mp he with hold | hnew
    · exact hs.quiet id hid.1 e hold
    · rw [List.mem_singleton.mp hnew]
      exact hquiet id hid.1
  case custody =>
    intro id d hd
    by_cases hopen : id ∈ h.registry.ids
    · obtain ⟨c, hc⟩ := Registry.exists_channel hopen
      exact (hs.custody id c hc).event hids hc hd
    · -- The capture is new.
      have hnew : id ∈ (h.registry.event q).opened :=
        (Registry.mem_ids_perform hids (Registry.mem_ids_of_channel hd)).resolve_left hopen
      obtain ⟨config, clock, r', -, hregister, hperform⟩ :=
        Registry.perform_opened (Event.mem_opened.mp hnew)
      obtain ⟨-, c, hc, -, hcounters, hqueue⟩ := Event.channel_opened hids hregister
      obtain rfl : d = c := by
        change (h.registry.perform q).2.channel id = .ok d at hd
        rw [hperform, hc] at hd
        exact (Except.ok.inj hd).symm
      refine Custody.of_quiet (fun e he => ?_) hcounters hqueue
      have hnever := (hopened id hnew).1
      rcases List.mem_append.mp he with hold | hlast
      · exact hs.quiet id hnever e hold
      · rw [List.mem_singleton.mp hlast]
        exact hquiet id hnever
  case lawful =>
    intro e he
    rcases List.mem_append.mp he with hold | hlast
    · exact hs.lawful e hold
    · rw [List.mem_singleton.mp hlast]
      exact Event.lawful hids fun id c hc => (hs.custody id c hc).bounded

theorem sound_of (producer : Producer) (requests : List Request) :
    (of producer requests).Sound := by
  have hrun : ∀ (requests : List Request) (h : History), h.Sound →
      (requests.foldl ask h).Sound := by
    intro requests
    induction requests with
    | nil => exact fun h hs => hs
    | cons q requests ih => exact fun h hs => ih _ (hs.ask q)
  exact hrun requests _ (sound_new producer)

end History

/-- **Custody of packets.** Whatever is asked of the captures of a producer, in any order: no
identifier is given out twice; what an open capture has handed out, followed by what waits in its
queue, is what it has accepted, and its counters say how much that is and how much was dropped; a
queue stays within its limit; and every request keeps to its rules, changing no capture but its
own. -/
theorem packets_in_custody (producer : Producer) (requests : List Request) :
    let h := History.of producer requests
    h.given.Nodup ∧ (∀ id c, h.registry.channel id = .ok c → Custody id c h.events) ∧
    ∀ e ∈ h.events, e.Lawful := by
  have hs := History.sound_of producer requests
  exact ⟨hs.unique, hs.custody, hs.lawful⟩

end TrafficMonitor.Capture
