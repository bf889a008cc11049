import TrafficMonitor.Capture.Live
import TrafficMonitor.Proofs.Capture.Table

/-! A live source and the table of open captures. A stop lets go of the capture before it is
closed, and is not taken back if closing fails. So the table holds the captures whose stop has
failed, and behind them the one that runs (`open_eq_leaked`): source and table agree for as long
as no stop has failed. -/
namespace TrafficMonitor.Capture
open Time

/-! ### Calls -/

/-- What happens to a source. -/
inductive Call where
  /-- A start at a time, and the failure of the sniffer if it does not start. -/
  | start (clock : Int) (fault : Option String)
  | poll (zone : Zone)
  /-- A stop at a time, and the failure of the sniffer if it does not stop. -/
  | stop (clock : Int) (fault : Option String)
  /-- The sniffer of a capture sees a frame. -/
  | sniff (id : String) (frame : SniffedFrame)

namespace Live

/-- A source that was never started, with no capture open. -/
def fresh (config : Config) (batch : Int) : Live :=
  { registry := { producer := .sniffed }, config, batch }

/-- The state that was reached, and the failure if there was one. -/
def outcome : Except LiveError α × Live → Attempt LiveError Live
  | (.ok _, l) => .done l
  | (.error e, l) => .stopped l e

def serve (l : Live) : Call → Attempt LiveError Live
  | .start clock fault => l.start clock fault
  | .poll zone => outcome (l.poll zone)
  | .stop clock fault => outcome (l.stop clock fault)
  | .sniff id frame =>
    match l.registry.modify id (·.sniff frame) with
    | .ok registry => .done { l with registry }
    | .error _ => .done l

/-- The source after calls, whether they failed or not. -/
def run (l : Live) (calls : List Call) : Live := calls.foldl (fun l call => (l.serve call).state) l

/-- The capture that the source has let go of in a call that failed. -/
def leak (l : Live) : Call → List String
  | .stop clock fault =>
    match (l.stop clock fault).1 with
    | .error _ => l.running.toList
    | .ok _ => []
  | _ => []

/-- The captures whose stop has failed, oldest first. -/
def leaked (l : Live) : List Call → List String
  | [] => []
  | call :: rest => l.leak call ++ (l.serve call).state.leaked rest

/-- The table holds the capture that runs, and no other. -/
def Agrees (l : Live) : Prop := l.registry.ids = l.running.toList

instance (l : Live) : Decidable l.Agrees := inferInstanceAs (Decidable (_ = _))

/-! ### What the table holds -/

/-- The table holds what was leaked, and behind it the capture that runs. -/
structure Holds (l : Live) (leaked : List String) : Prop where
  ids : l.registry.ids = leaked ++ l.running.toList
  unique : l.registry.ids.Nodup
  numbered : ∀ id ∈ l.registry.ids, l.registry.Numbered id

section
variable {l : Live} {leaked : List String}

theorem holds_fresh (config : Config) (batch : Int) : (fresh config batch).Holds [] :=
  ⟨rfl, List.nodup_nil, fun _ hid => absurd hid List.not_mem_nil⟩

/-- Channels can change as long as captures are neither opened nor closed. -/
theorem Holds.of_ids (h : l.Holds leaked) {r : Registry} (hids : r.ids = l.registry.ids)
    (hissued : r.issued = l.registry.issued) : Holds { l with registry := r } leaked where
  ids := hids.trans h.ids
  unique := hids ▸ h.unique
  numbered id hid := (h.numbered id (hids ▸ hid)).mono (Nat.le_of_eq hissued.symm)

theorem Holds.start (h : l.Holds leaked) (clock : Int) (fault : Option String) :
    (l.start clock fault).state.Holds leaked := by
  obtain ⟨registry, config, batch, _ | id⟩ := l
  case some => exact h
  have hids : registry.ids = leaked := by simpa using h.ids
  unfold Live.start
  cases hregister : registry.register config clock with
  | error e => exact h
  | ok opened =>
    obtain ⟨id, r⟩ := opened
    have hopened : r.ids = leaked ++ [id] := by rw [Registry.ids_register hregister, hids]
    have hfresh : id ∉ leaked := hids ▸ Registry.fresh_register h.numbered hregister
    have hunique : r.ids.Nodup := by
      rw [hopened, List.nodup_append]
      refine ⟨hids ▸ h.unique, by simp, fun other hother new hnew heq => ?_⟩
      rw [List.mem_singleton.mp hnew] at heq
      exact hfresh (heq ▸ hother)
    have hnumbered : ∀ other ∈ r.ids, r.Numbered other := by
      intro other hother
      rw [hopened, ← hids, List.mem_append, List.mem_singleton] at hother
      rcases hother with hold | rfl
      · exact (h.numbered other hold).mono (Registry.issued_le_register hregister)
      · exact Registry.numbered_register hregister
    cases fault with
    | none => exact ⟨hopened, hunique, hnumbered⟩
    | some message =>
      have hdropped : (r.drop id).ids = leaked := Registry.ids_drop_last hopened hunique
      refine ⟨?_, ?_, fun other hother => ?_⟩
      · change (r.drop id).ids = leaked ++ []
        rw [hdropped, List.append_nil]
      · exact hdropped.trans hids.symm ▸ h.unique
      · exact hnumbered other (hopened ▸ List.mem_append_left _ (hdropped ▸ hother))

theorem Holds.poll (h : l.Holds leaked) (zone : Zone) : (l.poll zone).2.Holds leaked := by
  obtain ⟨registry, config, batch, _ | id⟩ := l
  case none => exact h
  unfold Live.poll
  dsimp only
  cases htake : registry.take id batch with
  | error e => exact h
  | ok taken =>
    obtain ⟨c, hput⟩ := Registry.take_eq_ok htake
    exact h.of_ids (hput ▸ Registry.ids_put id c registry) (hput ▸ rfl)

theorem Holds.sniff (h : l.Holds leaked) (id : String) (frame : SniffedFrame) :
    (l.serve (.sniff id frame)).state.Holds leaked := by
  unfold serve
  dsimp only
  cases hmodify : l.registry.modify id (·.sniff frame) with
  | error e => exact h
  | ok r =>
    obtain ⟨c, rfl⟩ := Registry.modify_eq_ok hmodify
    exact h.of_ids (Registry.ids_put id c l.registry) rfl

/-- A stop that fails lets go of the capture, and one that does not closes it. It fails if the
sniffer does or the time cannot be told. -/
theorem stop_cases {id : String} (hrunning : l.running = some id) (hopen : id ∈ l.registry.ids)
    (clock : Int) (fault : Option String) :
    ((fault ≠ none ∨ ∃ e, stamp clock = .error e) ∧
      ∃ e, l.stop clock fault = (.error e, { l with running := none })) ∨
    ((fault = none ∧ ∃ now, stamp clock = .ok now) ∧ ∃ summary, l.stop clock fault =
      (.ok (some summary), { l with running := none, registry := l.registry.drop id })) := by
  unfold Live.stop
  rw [hrunning]
  dsimp only
  cases fault with
  | some message => exact Or.inl ⟨Or.inl nofun, _, rfl⟩
  | none =>
    obtain ⟨c, hc⟩ := Registry.exists_channel hopen
    rw [Registry.close_eq hc]
    cases hnow : stamp clock with
    | error e => exact Or.inl ⟨Or.inr ⟨e, rfl⟩, _, rfl⟩
    | ok now => exact Or.inr ⟨⟨rfl, now, rfl⟩, _, rfl⟩

theorem Holds.stop (h : l.Holds leaked) (clock : Int) (fault : Option String) :
    (l.stop clock fault).2.Holds (leaked ++ l.leak (.stop clock fault)) := by
  cases hrunning : l.running with
  | none =>
    have hstop : l.stop clock fault = (.ok none, l) := by
      unfold Live.stop
      rw [hrunning]
    rw [leak, hstop, List.append_nil]
    exact h
  | some id =>
    have hids : l.registry.ids = leaked ++ [id] := by rw [h.ids, hrunning, Option.toList_some]
    have hopen : id ∈ l.registry.ids := hids ▸ List.mem_append_right _ (List.mem_singleton_self id)
    rcases stop_cases hrunning hopen clock fault with ⟨-, e, hstop⟩ | ⟨-, summary, hstop⟩
    · rw [leak, hstop, hrunning]
      refine ⟨?_, h.unique, h.numbered⟩
      rw [hids, Option.toList_none, List.append_nil, Option.toList_some]
    · rw [leak, hstop]
      have hdropped : (l.registry.drop id).ids = leaked := Registry.ids_drop_last hids h.unique
      have hkept : ∀ other ∈ leaked, other ∈ l.registry.ids := fun other hother =>
        hids ▸ List.mem_append_left _ hother
      refine ⟨?_, ?_, fun other hother => ?_⟩
      · rw [hdropped, Option.toList_none, List.append_nil, List.append_nil]
      · rw [Registry.ids_drop]
        exact h.unique.filter _
      · exact h.numbered other (hkept other (hdropped ▸ hother))

/-- Failures of reading and writing leave the same state behind. -/
theorem state_outcome (x : Except LiveError α × Live) : (outcome x).state = x.2 := by
  obtain ⟨_ | _, l⟩ := x <;> rfl

theorem Holds.serve (h : l.Holds leaked) (call : Call) :
    (l.serve call).state.Holds (leaked ++ l.leak call) := by
  cases call with
  | start clock fault =>
    rw [show l.leak (.start clock fault) = [] from rfl, List.append_nil]
    exact h.start clock fault
  | poll zone =>
    rw [show l.leak (.poll zone) = [] from rfl, List.append_nil, Live.serve, state_outcome]
    exact h.poll zone
  | stop clock fault =>
    rw [Live.serve, state_outcome]
    exact h.stop clock fault
  | sniff id frame =>
    rw [show l.leak (.sniff id frame) = [] from rfl, List.append_nil]
    exact h.sniff id frame

theorem Holds.run (h : l.Holds leaked) (calls : List Call) :
    (l.run calls).Holds (leaked ++ l.leaked calls) := by
  induction calls generalizing l leaked with
  | nil =>
    rw [show l.leaked [] = [] from rfl, List.append_nil]
    exact h
  | cons call rest ih =>
    have hrest := ih (h.serve call)
    rw [List.append_assoc] at hrest
    exact hrest

/-- **Leaked captures.** Whatever is called on a source and whatever its sniffers see, the table
holds the captures whose stop has failed and behind them the one that runs, each of them once. So
the two agree exactly if no stop of a running capture has failed. Such a stop fails if the sniffer
does, or if the time cannot be told. -/
theorem open_eq_leaked (config : Config) (batch : Int) (calls : List Call) :
    let l := (fresh config batch).run calls
    let leaked := (fresh config batch).leaked calls
    l.registry.ids = leaked ++ l.running.toList ∧ l.registry.ids.Nodup ∧
    (l.Agrees ↔ leaked = []) ∧
    ∀ id clock fault, l.running = some id →
      (l.leak (.stop clock fault) = [id] ↔ fault ≠ none ∨ ∃ e, stamp clock = .error e) := by
  intro l leaked
  have h : l.Holds leaked := (holds_fresh config batch).run calls
  refine ⟨h.ids, h.unique, ?_, fun id clock fault hrunning => ?_⟩
  · simp [Agrees, h.ids]
  · have hopen : id ∈ l.registry.ids := by simp [h.ids, hrunning]
    rcases stop_cases hrunning hopen clock fault with
      ⟨hcause, e, hstop⟩ | ⟨⟨rfl, now, hnow⟩, summary, hstop⟩
    · rw [leak, hstop, hrunning]
      exact iff_of_true rfl hcause
    · rw [leak, hstop]
      simp [hnow]

end

/-- A sniffer that cannot be stopped leaves its capture open, though the source has let go of it,
and so does a time that cannot be told. A sniffer that cannot be started leaves nothing. -/
theorem stop_leaves_open :
    let source := fresh { interface := "eth0" } 100
    let failing : Option String := some "Unsupported (offline or unsupported socket)"
    let opened := source.run [.start 0 none]
    let stopped := source.run [.start 0 none, .stop 1000000 failing]
    let beyond := source.run [.start 0 none, .stop (Int.pow 2 1024) none]
    opened.running = some "scapy_0_1" ∧ opened.Agrees ∧
    (stopped.running = none ∧ stopped.registry.ids = ["scapy_0_1"] ∧ ¬stopped.Agrees) ∧
    (beyond.running = none ∧ beyond.registry.ids = ["scapy_0_1"] ∧ ¬beyond.Agrees) ∧
    (source.run [.start 0 failing]).Agrees := by
  decide +kernel

end Live

end TrafficMonitor.Capture
