import TrafficMonitor.Proofs.Capture.Table

/-! Requests to the captures of a producer. A `Request` is one step of a producer or a consumer on
any capture, and an `Event` is a request with its answer. A request that is refused changes
nothing; one that is about a capture can put another channel in its place or take it out
(`perform_subject`), and changes no other (`channel_perform_other`). -/
namespace TrafficMonitor.Capture

/-! ### Requests -/

/-- What is asked of the captures of a producer. -/
inductive Request where
  | register (config : Config) (clock : Int)
  /-- The producer has a packet. -/
  | offer (id : String) (packet : RawPacket)
  /-- The producer has failed. -/
  | fail (id : String)
  | take (id : String) (count : Int)
  | statistics (id : String) (clock : Int)
  | close (id : String) (clock : Int)

inductive Answer where
  | opened (id : String)
  | noted
  | packets (packets : List RawPacket)
  | statistics (statistics : Statistics)
  | closed (summary : Summary)
  | refused (cause : RegistryError)

/-- The capture that a request is about, unless it opens one. -/
def Request.subject? : Request → Option String
  | register .. => none
  | offer id _ | fail id | take id _ | statistics id _ | close id _ => some id

/-- The capture that a request looks up by its identifier. A producer looks none up: it holds on to
its capture. -/
def Request.sought? : Request → Option String
  | take id _ | statistics id _ | close id _ => some id
  | register .. | offer .. | fail .. => none

theorem Request.subject_of_sought {q : Request} {id : String} (h : q.sought? = some id) :
    q.subject? = some id := by
  cases q with
  | register _ _ | offer _ _ | fail _ => cases h
  | take _ _ | statistics _ _ | close _ _ => exact h

/-- What was asked and answered, with the captures before and after it. -/
structure Event where
  before : Registry
  request : Request
  answer : Answer
  after : Registry

namespace Registry

/-- Answers a request. If it is refused nothing changes. -/
def respond (r : Registry) (answer : α → Answer) :
    Except RegistryError (α × Registry) → Answer × Registry
  | .ok (a, after) => (answer a, after)
  | .error e => (.refused e, r)

def perform (r : Registry) : Request → Answer × Registry
  | .register config clock => r.respond .opened (r.register config clock)
  | .offer id p => r.respond (fun () => .noted) ((r.modify id (·.offer p)).map ((), ·))
  | .fail id => r.respond (fun () => .noted) ((r.modify id Channel.fail).map ((), ·))
  | .take id count => r.respond .packets (r.take id count)
  | .statistics id clock => r.respond .statistics ((r.statistics id clock).map (·, r))
  | .close id clock => r.respond .closed (r.close id clock)

/-- A request as an event. -/
def event (r : Registry) (q : Request) : Event := ⟨r, q, (r.perform q).1, (r.perform q).2⟩

/-- The number of packets that wait in the queue of a capture, if it is open. -/
def depth (id : String) (r : Registry) : Nat :=
  match r.channel id with
  | .ok c => c.queue.length
  | .error _ => 0

end Registry

/-! ### What events do to a capture -/

namespace Event

/-- The capture that was opened. -/
def opened (e : Event) : List String :=
  match e.answer with
  | .opened id => [id]
  | _ => []

/-- The packet that the producer had for an open capture. -/
def offered (id : String) (e : Event) : List RawPacket :=
  match e.request, e.answer with
  | .offer other p, .noted => if other = id then [p] else []
  | _, _ => []

/-- The queue of the capture has grown. -/
def Grows (id : String) (e : Event) : Prop := e.before.depth id < e.after.depth id

instance (id : String) (e : Event) : Decidable (e.Grows id) := Nat.decLt _ _

/-- The packet that was queued. -/
def accepted (id : String) (e : Event) : List RawPacket :=
  if e.Grows id then e.offered id else []

/-- The packet that was offered but not queued. -/
def dropped (id : String) (e : Event) : List RawPacket :=
  if e.Grows id then [] else e.offered id

/-- The packets that a consumer was given. -/
def handedOut (id : String) (e : Event) : List RawPacket :=
  match e.request, e.answer with
  | .take other _, .packets ps => if other = id then ps else []
  | _, _ => []

/-- A failure of the producer was counted. -/
def fails (id : String) (e : Event) : Bool :=
  match e.request, e.answer with
  | .fail other, .noted => other = id
  | _, _ => false

/-- Nothing was offered to the capture or taken from it, and no failure was counted. -/
structure Quiet (id : String) (e : Event) : Prop where
  offered : e.offered id = []
  handedOut : e.handedOut id = []
  fails : e.fails id = false

end Event

/-! ### Requests one by one -/

namespace Registry
variable {r : Registry} {q : Request} {id : String} {c : Channel}

theorem perform_unknown (hsubject : q.subject? = some id) (h : id ∉ r.ids) :
    r.perform q = (.refused (.unknown id), r) := by
  have hchannel := channel_of_not_mem h
  cases q with
  | register config clock => cases hsubject
  | offer other p | fail other =>
    cases hsubject
    rw [perform, modify, hchannel]
    rfl
  | take other count =>
    cases hsubject
    rw [perform, take, hchannel]
    rfl
  | statistics other clock =>
    cases hsubject
    rw [perform, statistics, hchannel]
    rfl
  | close other clock =>
    cases hsubject
    rw [perform, close, hchannel]
    rfl

theorem perform_register (config : Config) (clock : Int) (r : Registry) :
    (∃ cause, stamp clock = .error cause ∧
      r.perform (.register config clock) = (.refused cause, r)) ∨
    ∃ now id r', stamp clock = .ok now ∧ r.register config clock = .ok (id, r') ∧
      r.perform (.register config clock) = (.opened id, r') := by
  rw [perform, register]
  cases stamp clock with
  | error cause => exact Or.inl ⟨cause, rfl, rfl⟩
  | ok now => exact Or.inr ⟨now, _, _, rfl, rfl, rfl⟩

theorem perform_offer (h : r.channel id = .ok c) (p : RawPacket) :
    r.perform (.offer id p) = (.noted, r.put id (c.offer p)) := by
  rw [perform, modify, h]
  rfl

theorem perform_fail (h : r.channel id = .ok c) :
    r.perform (.fail id) = (.noted, r.put id c.fail) := by
  rw [perform, modify, h]
  rfl

theorem perform_take (h : r.channel id = .ok c) (count : Int) :
    r.perform (.take id count) =
      (.packets (c.queue.take count.toNat), r.put id (c.take count).2) := by
  rw [perform, take, h]
  rfl

theorem perform_statistics (h : r.channel id = .ok c) (clock : Int) :
    (∃ cause, stamp clock = .error cause ∧
      r.perform (.statistics id clock) = (.refused cause, r)) ∨
    ∃ now, stamp clock = .ok now ∧
      r.perform (.statistics id clock) = (.statistics (c.statistics now), r) := by
  rw [perform, statistics, h]
  cases stamp clock with
  | error cause => exact Or.inl ⟨cause, rfl, rfl⟩
  | ok now => exact Or.inr ⟨now, rfl, rfl⟩

theorem perform_close (h : r.channel id = .ok c) (clock : Int) :
    (∃ cause, stamp clock = .error cause ∧ r.perform (.close id clock) = (.refused cause, r)) ∨
    ∃ now, stamp clock = .ok now ∧ r.perform (.close id clock) =
      (.closed ⟨id, r.producer, c.config, now, c.statistics now⟩, r.drop id) := by
  rw [perform, close_eq h]
  cases stamp clock with
  | error cause => exact Or.inl ⟨cause, rfl, rfl⟩
  | ok now => exact Or.inr ⟨now, rfl, rfl⟩

/-- A request is refused with nothing changed, or answered in its own way. -/
theorem respond_cases (r : Registry) (answer : α → Answer)
    (x : Except RegistryError (α × Registry)) :
    (∃ a after, x = .ok (a, after) ∧ r.respond answer x = (answer a, after)) ∨
    ∃ cause, r.respond answer x = (.refused cause, r) := by
  cases x with
  | error cause => exact Or.inr ⟨cause, rfl⟩
  | ok a => exact Or.inl ⟨a.1, a.2, rfl, rfl⟩

theorem perform_refused {cause : RegistryError} (h : (r.perform q).1 = .refused cause) :
    (r.perform q).2 = r := by
  cases q <;>
  · rw [perform] at h ⊢
    rcases respond_cases r _ _ with ⟨a, after, -, hrespond⟩ | ⟨cause, hrespond⟩
    · rw [hrespond] at h
      cases h
    · rw [hrespond]

/-- Only a request to open a capture opens one. -/
theorem perform_opened (h : (r.perform q).1 = .opened id) :
    ∃ config clock r', q = .register config clock ∧ r.register config clock = .ok (id, r') ∧
      r.perform q = (.opened id, r') := by
  cases q with
  | register config clock =>
    rw [perform] at h ⊢
    rcases respond_cases r .opened (r.register config clock) with
      ⟨a, after, hregister, hrespond⟩ | ⟨cause, hrespond⟩
    · rw [hrespond] at h ⊢
      cases h
      exact ⟨config, clock, after, rfl, hregister, rfl⟩
    · rw [hrespond] at h
      cases h
  | offer | fail | take | statistics | close =>
    rw [perform] at h
    rcases respond_cases r _ _ with ⟨a, after, -, hrespond⟩ | ⟨cause, hrespond⟩ <;>
    · rw [hrespond] at h
      cases h

/-- A request about a capture puts another channel in its place, takes it out, or leaves all
captures as they are. -/
theorem perform_subject (h : q.subject? = some id) :
    (r.perform q).2 = r ∨ (∃ c, id ∈ r.ids ∧ (r.perform q).2 = r.put id c) ∨
      (r.perform q).2 = r.drop id := by
  by_cases hopen : id ∈ r.ids
  · obtain ⟨c, hc⟩ := exists_channel hopen
    cases q with
    | register config clock => cases h
    | offer _ p =>
      cases h
      exact Or.inr (Or.inl ⟨_, hopen, by rw [perform_offer hc]⟩)
    | fail _ =>
      cases h
      exact Or.inr (Or.inl ⟨_, hopen, by rw [perform_fail hc]⟩)
    | take _ count =>
      cases h
      exact Or.inr (Or.inl ⟨_, hopen, by rw [perform_take hc]⟩)
    | statistics _ clock =>
      cases h
      rcases perform_statistics hc clock with ⟨cause, -, hperform⟩ | ⟨now, -, hperform⟩ <;>
        exact Or.inl (by rw [hperform])
    | close _ clock =>
      cases h
      rcases perform_close hc clock with ⟨cause, -, hperform⟩ | ⟨now, -, hperform⟩
      · exact Or.inl (by rw [hperform])
      · exact Or.inr (Or.inr (by rw [hperform]))
  · exact Or.inl (by rw [perform_unknown h hopen])

theorem issued_le_perform (q : Request) (r : Registry) : r.issued ≤ (r.perform q).2.issued := by
  cases hs : q.subject? with
  | none =>
    cases q with
    | register config clock =>
      rcases perform_register config clock r with
        ⟨cause, -, hperform⟩ | ⟨now, id, r', -, hregister, hperform⟩
      · exact Nat.le_of_eq (by rw [hperform])
      · rw [hperform]
        exact issued_le_register hregister
    | offer | fail | take | statistics | close => cases hs
  | some id =>
    have hsame : (r.perform q).2.issued = r.issued := by
      rcases perform_subject (r := r) hs with h | ⟨c, -, h⟩ | h <;> simp [h]
    exact Nat.le_of_eq hsame.symm

theorem channel_perform_other (hids : ∀ id ∈ r.ids, r.Numbered id)
    (hsubject : q.subject? ≠ some id) (hopened : id ∉ (r.event q).opened) :
    (r.perform q).2.channel id = r.channel id := by
  cases hs : q.subject? with
  | none =>
    cases q with
    | register config clock =>
      rcases perform_register config clock r with
        ⟨cause, -, hperform⟩ | ⟨now, new, r', -, hregister, hperform⟩
      · rw [hperform]
      · obtain ⟨_, -, hchannel⟩ := channel_register hregister (fresh_register hids hregister)
        have hother : id ≠ new := by simpa [event, Event.opened, hperform] using hopened
        rw [hperform, hchannel, if_neg hother]
    | offer | fail | take | statistics | close => cases hs
  | some other =>
    have hother : id ≠ other := fun h => hsubject (by rw [hs, h])
    rcases perform_subject (r := r) hs with h | ⟨c, hopen, h⟩ | h
    · rw [h]
    · rw [h, channel_put hopen, if_neg hother]
    · rw [h, channel_drop, if_neg hother]

/-- No request adds a capture but one that opens it. -/
theorem mem_ids_perform (hids : ∀ id ∈ r.ids, r.Numbered id) (h : id ∈ (r.perform q).2.ids) :
    id ∈ r.ids ∨ id ∈ (r.event q).opened := by
  by_cases hsubject : q.subject? = some id
  · rcases perform_subject (r := r) hsubject with heq | ⟨c, hopen, heq⟩ | heq
    · exact Or.inl (heq ▸ h)
    · exact Or.inl hopen
    · rw [heq] at h
      simp at h
  · by_cases hopened : id ∈ (r.event q).opened
    · exact Or.inr hopened
    · obtain ⟨c, hc⟩ := exists_channel h
      rw [channel_perform_other hids hsubject hopened] at hc
      exact Or.inl (mem_ids_of_channel hc)

theorem depth_of_channel (h : r.channel id = .ok c) : r.depth id = c.queue.length := by
  rw [depth, h]

end Registry

namespace Event
variable {r : Registry} {q : Request} {id : String} {c : Channel} {p : RawPacket}

/-! ### Events and captures they do not concern -/

theorem quiet_of_subject (h : q.subject? ≠ some id) : (r.event q).Quiet id := by
  cases q with
  | register config clock => exact ⟨rfl, rfl, rfl⟩
  | statistics other clock | close other clock => exact ⟨rfl, rfl, rfl⟩
  | offer other p =>
    have hother : other ≠ id := fun heq => h (heq ▸ rfl)
    refine ⟨?_, rfl, rfl⟩
    simp only [offered, Registry.event]
    split <;> simp_all
  | fail other =>
    have hother : other ≠ id := fun heq => h (heq ▸ rfl)
    refine ⟨rfl, rfl, ?_⟩
    simp only [fails, Registry.event]
    split <;> simp_all
  | take other count =>
    have hother : other ≠ id := fun heq => h (heq ▸ rfl)
    refine ⟨rfl, ?_, rfl⟩
    simp only [handedOut, Registry.event]
    split <;> simp_all

theorem quiet_of_refused {e : Event} {cause : RegistryError} (h : e.answer = .refused cause) :
    e.Quiet id :=
  ⟨by simp [offered, h], by simp [handedOut, h], by simp [fails, h]⟩

theorem quiet_of_not_mem (h : id ∉ r.ids) : (r.event q).Quiet id := by
  by_cases hsubject : q.subject? = some id
  · have hrefused : (r.event q).answer = .refused (.unknown id) := by
      rw [Registry.event, Registry.perform_unknown hsubject h]
    exact quiet_of_refused hrefused
  · exact quiet_of_subject hsubject

theorem Quiet.accepted {e : Event} (h : e.Quiet id) : e.accepted id = [] := by
  rw [Event.accepted, h.offered, ite_self]

theorem Quiet.dropped {e : Event} (h : e.Quiet id) : e.dropped id = [] := by
  rw [Event.dropped, h.offered, ite_self]

theorem mem_opened {e : Event} : id ∈ e.opened ↔ e.answer = .opened id := by
  rw [opened]
  split
  · rename_i other hanswer
    simp [hanswer, eq_comm]
  · rename_i hother
    exact iff_of_false List.not_mem_nil (hother id)

/-- What a request leaves of an open capture: the capture as it was, or with one packet more, one
failure more, or some packets less. -/
theorem channel_after (hids : ∀ id ∈ r.ids, r.Numbered id) {d : Channel}
    (hc : r.channel id = .ok c) (hd : (r.perform q).2.channel id = .ok d) :
    (d = c ∧ (r.event q).Quiet id) ∨ (∃ p, q = .offer id p ∧ d = c.offer p) ∨
      (q = .fail id ∧ d = c.fail) ∨ ∃ count, q = .take id count ∧ d = (c.take count).2 := by
  have hopen := Registry.mem_ids_of_channel hc
  have hput : ∀ c', (r.put id c').channel id = .ok c' := fun c' => by
    rw [Registry.channel_put hopen, if_pos rfl]
  by_cases hsubject : q.subject? = some id
  · cases q with
    | register config clock => cases hsubject
    | offer _ p =>
      cases hsubject
      rw [Registry.perform_offer hc, hput] at hd
      cases hd
      exact Or.inr (Or.inl ⟨p, rfl, rfl⟩)
    | fail _ =>
      cases hsubject
      rw [Registry.perform_fail hc, hput] at hd
      cases hd
      exact Or.inr (Or.inr (Or.inl ⟨rfl, rfl⟩))
    | take _ count =>
      cases hsubject
      rw [Registry.perform_take hc, hput] at hd
      cases hd
      exact Or.inr (Or.inr (Or.inr ⟨count, rfl, rfl⟩))
    | statistics _ clock =>
      cases hsubject
      refine Or.inl ⟨?_, rfl, rfl, rfl⟩
      rcases Registry.perform_statistics hc clock with ⟨_, -, hperform⟩ | ⟨_, -, hperform⟩ <;>
      · rw [hperform, hc] at hd
        cases hd
        rfl
    | close _ clock =>
      cases hsubject
      refine Or.inl ⟨?_, rfl, rfl, rfl⟩
      rcases Registry.perform_close hc clock with ⟨_, -, hperform⟩ | ⟨_, -, hperform⟩
      · rw [hperform, hc] at hd
        cases hd
        rfl
      · rw [hperform, Registry.channel_drop, if_pos rfl] at hd
        cases hd
  · have hopened : id ∉ (r.event q).opened := by
      intro hid
      obtain ⟨config, clock, r', -, hregister, -⟩ := Registry.perform_opened (mem_opened.mp hid)
      exact Registry.fresh_register hids hregister hopen
    rw [Registry.channel_perform_other hids hsubject hopened, hc] at hd
    cases hd
    exact Or.inl ⟨rfl, quiet_of_subject hsubject⟩

/-- The capture that was opened is new, empty and has counted nothing. -/
theorem channel_opened (hids : ∀ id ∈ r.ids, r.Numbered id) {config : Config} {clock : Int}
    {r' : Registry} (h : r.register config clock = .ok (id, r')) :
    id ∉ r.ids ∧ ∃ c, r'.channel id = .ok c ∧ c.config = config ∧
      c.counters = r.producer.counters ∧ c.queue = [] := by
  have hfresh := Registry.fresh_register hids h
  obtain ⟨now, -, hchannel⟩ := Registry.channel_register h hfresh
  exact ⟨hfresh, _, by rw [hchannel, if_pos rfl], rfl, rfl, rfl⟩

/-! ### Offers -/

theorem offered_offer (h : r.channel id = .ok c) : (r.event (.offer id p)).offered id = [p] := by
  simp [offered, Registry.event, Registry.perform_offer h]

theorem grows_offer (h : r.channel id = .ok c) :
    (r.event (.offer id p)).Grows id ↔ c.isFull = false := by
  have hopen := Registry.mem_ids_of_channel h
  have hafter : (r.put id (c.offer p)).channel id = .ok (c.offer p) := by
    rw [Registry.channel_put hopen, if_pos rfl]
  rw [Grows, Registry.event, Registry.perform_offer h, Registry.depth_of_channel h,
    Registry.depth_of_channel hafter, Channel.offer]
  cases c.isFull <;> simp

theorem dropped_offer (h : r.channel id = .ok c) :
    (r.event (.offer id p)).dropped id = [p] ↔ c.isFull = true := by
  rw [dropped, offered_offer h]
  by_cases hgrows : (r.event (.offer id p)).Grows id
  · have hroom := (grows_offer h).mp hgrows
    simp [hgrows, hroom]
  · have hfull : c.isFull = true := by simpa [grows_offer h] using hgrows
    simp [hgrows, hfull]

end Event

end TrafficMonitor.Capture
