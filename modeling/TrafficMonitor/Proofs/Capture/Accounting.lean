import TrafficMonitor.Attempt
import TrafficMonitor.Capture.Generator

/-! Every step of a producer is counted once. What a generator or a sniffer does in a step is
guarded: it finds a packet, or other traffic, or something goes wrong on the way (`Sighting.find?`,
`Generator.find?`), and in each case exactly one counter of the channel grows, by one
(`Channel.count_settle`). Packets that are taken out in between change no counter, so at any time
the counters add up to the steps so far. `Line.counted_once` says so of all runs.

Behind its packet the generator waits, and that is not guarded: where the pause is refused, the step
has been counted like any other but does not end, and the loop stops there
(`Generator.run_eq_none_iff`). -/
namespace TrafficMonitor.Capture
open Time Packet

/-! ### What is found -/

/-- What the guarded part of a step comes to. -/
inductive Finding where
  | packet (p : RawPacket)
  /-- Traffic that is not IPv4. -/
  | other

/-- What a sniffer is handed. Each of its parts can fail to be read. -/
structure Sighting where
  isIpv4 : Option Bool
  time : Option EpochSeconds
  data : Option Bytes

namespace Sighting

def frame : Sighting → SniffedFrame
  | ⟨some true, some time, some data⟩ => .ipv4 ⟨time, data⟩
  | ⟨some false, _, _⟩ => .other
  | _ => .unreadable

/-- Reads one part after another, up to the first that fails. -/
def find? (s : Sighting) : Option Finding := do
  if ← s.isIpv4 then
    let time ← (← s.time).toFloat?
    return .packet ⟨.real time, ← s.data⟩
  else return .other

end Sighting

/-- Tells the time and makes the next packet, unless one of them fails. -/
def Generator.find? (draws : List Draw) (clock : Int) (g : Generator) : Option Finding := do
  let now ← (stamp clock).toOption
  return .packet ⟨.real now, ← (g.next draws).1⟩

/-! ### Counters -/

/-- The counters of what a producer does. -/
inductive Tally where
  | packets
  | drops
  | errors
  | others
deriving DecidableEq

namespace Counters

def count (s : Counters) : Tally → Nat
  | .packets => s.packets
  | .drops => s.drops
  | .errors => s.errors
  | .others => s.others.getD 0

/-- How much was counted altogether. -/
def total (s : Counters) : Nat := s.packets + s.drops + s.errors + s.others.getD 0

end Counters

namespace Channel
variable {c : Channel} {found : Option Finding}

/-- Acts on what was found. Where something went wrong an error is counted. -/
def settle (found : Option Finding) (c : Channel) : Channel :=
  match found with
  | some (.packet p) => c.offer p
  | some .other => c.pass
  | none => c.fail

/-- The counter for what was found. -/
def tally (found : Option Finding) (c : Channel) : Tally :=
  match found with
  | some (.packet _) => if c.isFull then .drops else .packets
  | some .other => .others
  | none => .errors

/-- **What is found is counted once.** Its counter grows by one and no other grows. -/
theorem count_settle (hother : found = some .other → c.counters.others.isSome = true) (t : Tally) :
    (c.settle found).counters.count t =
      c.counters.count t + if c.tally found = t then 1 else 0 := by
  cases found with
  | none => cases t <;> rfl
  | some f =>
    cases f with
    | packet p =>
      cases hfull : c.isFull with
      | true =>
        simp only [settle, tally, offer, hfull, if_true]
        cases t <;> rfl
      | false =>
        simp only [settle, tally, offer, hfull, Bool.false_eq_true, if_false]
        cases t <;> rfl
    | other =>
      obtain ⟨n, hn⟩ := Option.isSome_iff_exists.mp (hother rfl)
      cases t with
      | packets | drops | errors => rfl
      | others => simp [settle, tally, pass, Counters.count, hn]

/-- Whether a channel counts other traffic stays as it is. -/
theorem isSome_others_settle :
    (c.settle found).counters.others.isSome = c.counters.others.isSome := by
  cases found with
  | none => rfl
  | some f =>
    cases f with
    | packet p =>
      simp only [settle, offer]
      split <;> rfl
    | other => simp [settle, pass]

/-- A sniffer's channel acts on what is found. -/
theorem sniff_frame (s : Sighting) (c : Channel) : c.sniff s.frame = c.settle s.find? :=
  match s with
  | ⟨none, _, _⟩ | ⟨some false, _, _⟩ | ⟨some true, none, _⟩ => rfl
  | ⟨some true, some time, none⟩ => by simp [Sighting.find?, settle, Sighting.frame, sniff]
  | ⟨some true, some time, some data⟩ => by
    cases hx : time.toFloat? <;> simp [Sighting.find?, hx, settle, Sighting.frame, sniff]

end Channel

/-- A generator's channel acts on what is found. -/
theorem Generator.channel_produce (draws : List Draw) (clock : Int) (g : Generator) (c : Channel) :
    (g.produce draws clock c).2 = c.settle (g.find? draws clock) := by
  unfold produce find?
  cases stamp clock with
  | error e => rfl
  | ok now =>
    cases g.next draws with
    | mk packet g' => cases packet <;> rfl

/-! ### Steps -/

/-- What can happen at an open capture: the generator goes once through its loop, a sniffer is
handed a frame, or packets are taken out. -/
inductive Step : Producer → Type where
  | generate (draws : List Draw) (clock : Int) : Step .generated
  | sniff (sighting : Sighting) : Step .sniffed
  | take {producer : Producer} (count : Int) : Step producer

/-- An open capture with the generator that feeds it, if it is not a sniffer that does. -/
structure Line where
  generator : Generator
  channel : Channel

/-- The generator is kept from waiting. -/
structure PauseRefused where
  pause : Float

/-- The generator goes once through its loop, where the system refuses some pauses. -/
def Line.turn (refused : Float → Bool) (draws : List Draw) (clock : Int) (l : Line) :
    Attempt PauseRefused Line :=
  let fed := l.generator.produce draws clock l.channel
  let next : Line := ⟨fed.1, fed.2⟩
  if refused next.generator.pause then .stopped next ⟨next.generator.pause⟩ else .done next

namespace Step
variable {producer : Producer}

/-- Whether it is a step of the producer. -/
def produces : Step producer → Bool
  | generate .. | sniff _ => true
  | take _ => false

/-- Whether the generator has to wait at the end. -/
def waits : Step producer → Bool
  | generate .. => true
  | sniff _ | take _ => false

/-- Takes a step. -/
def perform (refused : Float → Bool) (l : Line) : Step producer → Attempt PauseRefused Line
  | generate draws clock => l.turn refused draws clock
  | sniff sighting => .done { l with channel := l.channel.sniff sighting.frame }
  | take count => .done { l with channel := (l.channel.take count).2 }

/-- The counter that a step of the producer belongs to. -/
def tally? (l : Line) : Step producer → Option Tally
  | generate draws clock => some (l.channel.tally (l.generator.find? draws clock))
  | sniff sighting => some (l.channel.tally sighting.find?)
  | take _ => none

/-- How a step is accounted for. -/
structure Accounted (refused : Float → Bool) (l : Line) (s : Step producer) : Prop where
  /-- Its counter grows by one and no other grows. -/
  counts : ∀ t, (s.perform refused l).state.channel.counters.count t =
    l.channel.counters.count t + if s.tally? l = some t then 1 else 0
  /-- Every step of the producer has a counter, and taking packets out has none. -/
  belongs : (s.tally? l).isSome = s.produces
  /-- Only a sniffer comes upon other traffic. -/
  others : s.tally? l = some .others → producer = .sniffed
  /-- The step ends, unless the generator is refused its pause. -/
  ends : (s.perform refused l).failure = none ↔ ¬(s.waits = true ∧ refused l.generator.pause = true)

end Step

/-- The channel counts other traffic exactly if it is a sniffer that feeds it. -/
def Line.Serves (producer : Producer) (l : Line) : Prop :=
  l.channel.counters.others.isSome = decide (producer = .sniffed)

namespace Generator

theorem find?_ne_other (draws : List Draw) (clock : Int) (g : Generator) :
    g.find? draws clock ≠ some .other := by
  unfold find?
  cases stamp clock with
  | error e => exact nofun
  | ok now => cases (g.next draws).1 <;> exact nofun

/-- The pause stays as it is. -/
theorem pause_produce (draws : List Draw) (clock : Int) (g : Generator) (c : Channel) :
    (g.produce draws clock c).1.pause = g.pause := by
  unfold produce next
  cases stamp clock with
  | error e => rfl
  | ok now => cases sample? (g.begun + 1) draws <;> rfl

end Generator

namespace Line
variable {refused : Float → Bool}

/-- What a turn leads to does not depend on the pauses that are refused. -/
theorem state_turn (draws : List Draw) (clock : Int) (l : Line) :
    (l.turn refused draws clock).state = ⟨(l.generator.produce draws clock l.channel).1,
      (l.generator.produce draws clock l.channel).2⟩ := by
  rw [turn]
  split <;> rfl

theorem failure_turn (draws : List Draw) (clock : Int) (l : Line) :
    (l.turn refused draws clock).failure = none ↔ ¬refused l.generator.pause = true := by
  rw [turn]
  simp only [Generator.pause_produce]
  split <;> simp_all [Attempt.stopped, Attempt.done]

end Line

namespace Step
variable {producer : Producer} {refused : Float → Bool} {l : Line}

theorem serves_perform (s : Step producer) (h : l.Serves producer) :
    (s.perform refused l).state.Serves producer := by
  cases s with
  | generate draws clock =>
    simp only [perform, Line.Serves, Line.state_turn, Generator.channel_produce,
      Channel.isSome_others_settle]
    exact h
  | sniff sighting =>
    show (l.channel.sniff sighting.frame).counters.others.isSome = _
    rw [Channel.sniff_frame]
    exact Channel.isSome_others_settle.trans h
  | take count => exact h

theorem pause_perform (s : Step producer) :
    (s.perform refused l).state.generator.pause = l.generator.pause := by
  cases s with
  | generate draws clock =>
    simp only [perform, Line.state_turn, Generator.pause_produce]
  | sniff sighting | take count => rfl

/-- **Every step is accounted for.** -/
theorem accounted (s : Step producer) (h : l.Serves producer) : s.Accounted refused l := by
  cases s with
  | generate draws clock =>
    have hfound := Generator.find?_ne_other draws clock l.generator
    constructor
    case counts =>
      intro t
      simp only [perform, Line.state_turn, Generator.channel_produce, tally?, Option.some.injEq]
      exact Channel.count_settle (fun hother => absurd hother hfound) t
    case belongs => rfl
    case others =>
      simp only [tally?, Channel.tally]
      intro hothers
      split at hothers
      · split at hothers <;> cases hothers
      · rename_i hother
        exact absurd hother hfound
      · cases hothers
    case ends =>
      simp only [perform, Line.failure_turn, waits, true_and]
  | sniff sighting =>
    constructor
    case counts =>
      intro t
      show (l.channel.sniff sighting.frame).counters.count t = _
      simp only [Channel.sniff_frame, tally?, Option.some.injEq]
      exact Channel.count_settle (fun _ => h) t
    case belongs => rfl
    case others => exact fun _ => rfl
    case ends => simp [perform, Attempt.done, waits]
  | take count =>
    constructor
    case counts => exact fun t => rfl
    case belongs => rfl
    case others => exact nofun
    case ends => simp [perform, Attempt.done, waits]

/-- A step of the producer adds one to what was counted altogether. -/
theorem Accounted.total_eq {s : Step producer} (h : s.Accounted refused l) :
    (s.perform refused l).state.channel.counters.total =
      l.channel.counters.total + s.produces.toNat := by
  have hpackets := h.counts .packets
  have hdrops := h.counts .drops
  have herrors := h.counts .errors
  have hothers := h.counts .others
  simp only [Counters.count] at hpackets hdrops herrors hothers
  simp only [Counters.total, hpackets, hdrops, herrors, hothers, ← h.belongs]
  cases s.tally? l with
  | none => rfl
  | some t => cases t <;> simp <;> omega

end Step

/-! ### Runs -/

namespace Line
variable {producer : Producer} {l : Line}

/-- Takes steps one after another. -/
def run (refused : Float → Bool) (steps : List (Step producer)) (l : Line) : Line :=
  steps.foldl (fun l s => (s.perform refused l).state) l

theorem run_cons (refused : Float → Bool) (s : Step producer) (steps : List (Step producer))
    (l : Line) : l.run refused (s :: steps) = (s.perform refused l).state.run refused steps := rfl

/-- What a run keeps, and what it counts. -/
theorem counted_run (refused : Float → Bool) (steps : List (Step producer))
    (h : l.Serves producer) :
    (l.run refused steps).Serves producer ∧
      (l.run refused steps).generator.pause = l.generator.pause ∧
      (l.run refused steps).channel.counters.total =
        l.channel.counters.total + steps.countP (·.produces) := by
  induction steps generalizing l with
  | nil => exact ⟨h, rfl, rfl⟩
  | cons s steps ih =>
    have hnext : (s.perform refused l).state.Serves producer := s.serves_perform h
    obtain ⟨hserves, hpause, htotal⟩ := ih hnext
    have hone : s.produces.toNat = if s.produces = true then 1 else 0 := by
      cases s.produces <;> rfl
    refine ⟨hserves, hpause.trans s.pause_perform, htotal.trans ?_⟩
    rw [(s.accounted h).total_eq, List.countP_cons, hone]
    omega

/-- **Every step of a producer is counted exactly once**, whatever is taken out in between. From the
opening of a capture on, of any configuration, the counters of packets, drops, errors and other
traffic add up to the steps that the producer has taken, and every further step makes the one that
it belongs to greater by one, and no other. Nothing that goes wrong with a packet keeps a step from
ending. All that does is a pause that the generator is refused when it has counted its packet. -/
theorem counted_once (refused : Float → Bool) (producer : Producer) (g : Generator)
    (config : Config) (openedAt : Float) (steps : List (Step producer)) :
    let start : Line := ⟨g, { config, counters := producer.counters, openedAt }⟩
    let l := start.run refused steps
    l.channel.counters.total = steps.countP (·.produces) ∧ l.generator.pause = g.pause ∧
      ∀ s : Step producer, s.Accounted refused l := by
  intro start l
  have hserves : start.Serves producer := by cases producer <;> rfl
  have hzero : start.channel.counters.total = 0 := by cases producer <;> rfl
  obtain ⟨hafter, hpause, htotal⟩ := counted_run refused steps hserves
  rw [hzero, Nat.zero_add] at htotal
  exact ⟨htotal, hpause, fun s => s.accounted hafter⟩

/-- The pause is refused, and the packet in front of it has been counted. -/
theorem unbounded_pause_refused :
    let draws : List Draw := [.whole 0, .fraction 0.5, .whole 3, .whole 0, .whole 50000, .whole 0]
    let longest : Float := 9223372036
    let g := Generator.ofRate 2.5e-310
    let c : Channel :=
      { config := { interface := "d" }, counters := Producer.generated.counters, openedAt := 0 }
    let attempt := (Step.generate draws 0).perform (longest < ·) ⟨g, c⟩
    attempt.failure.isSome = true ∧ attempt.state.channel.counters = { packets := 1, bytes := 43 } ∧
      g.run 0 c [draws] = none := by
  decide +kernel

end Line

/-! ### The generator's loop -/

namespace Generator

/-- The turns of a loop that wakes up at a time and again after every pause. -/
def turns (pause clock : Int) : List (List Draw) → List (Step .generated)
  | [] => []
  | draws :: rest => .generate draws clock :: turns pause (clock + pause) rest

theorem pauseMicros?_produce (draws : List Draw) (clock : Int) (g : Generator) (c : Channel) :
    (g.produce draws clock c).1.pauseMicros? = g.pauseMicros? := by
  rw [pauseMicros?, pause_produce, pauseMicros?]

theorem run_nil (clock : Int) (g : Generator) (c : Channel) :
    g.run clock c [] = some (g, clock, c) := by
  unfold run
  rfl

theorem run_cons (draws : List Draw) (rest : List (List Draw)) (clock : Int) (g : Generator)
    (c : Channel) :
    g.run clock c (draws :: rest) = g.pauseMicros?.bind fun pause =>
      (g.produce draws clock c).1.run (clock + pause) (g.produce draws clock c).2 rest := by
  rw [← pauseMicros?_produce draws clock g c]
  conv => lhs; unfold run
  cases g.produce draws clock c with
  | mk g c => rfl

/-- A loop that can pause takes one turn for each run of draws. -/
theorem run_eq_some {pause : Int} {g : Generator} (h : g.pauseMicros? = some pause)
    (refused : Float → Bool) (clock : Int) (c : Channel) (scripts : List (List Draw)) :
    ∃ clock', g.run clock c scripts =
      some ((Line.run refused (turns pause clock scripts) ⟨g, c⟩).generator, clock',
        (Line.run refused (turns pause clock scripts) ⟨g, c⟩).channel) := by
  induction scripts generalizing g clock c with
  | nil => exact ⟨clock, run_nil clock g c⟩
  | cons draws rest ih =>
    have hpause := (pauseMicros?_produce draws clock g c).trans h
    obtain ⟨clock', hrest⟩ := ih hpause (clock + pause) (g.produce draws clock c).2
    refine ⟨clock', ?_⟩
    rw [run_cons, h, Option.bind_some, hrest, turns, Line.run_cons, Step.perform, Line.state_turn]

/-- The loop comes to no end exactly if it has to pause and cannot. -/
theorem run_eq_none_iff (clock : Int) (g : Generator) (c : Channel) (scripts : List (List Draw)) :
    g.run clock c scripts = none ↔ scripts ≠ [] ∧ g.pauseMicros? = none := by
  cases hpause : g.pauseMicros? with
  | none =>
    cases scripts with
    | nil => simp [run_nil]
    | cons draws rest => simp [run_cons, hpause]
  | some pause =>
    obtain ⟨clock', hrun⟩ := run_eq_some hpause (fun _ => false) clock c scripts
    simp [hrun]

theorem countP_turns (pause clock : Int) (scripts : List (List Draw)) :
    (turns pause clock scripts).countP (·.produces) = scripts.length := by
  induction scripts generalizing clock with
  | nil => rfl
  | cons draws rest ih => rw [turns, List.countP_cons_of_pos rfl, ih, List.length_cons]

/-- A loop that has come to its end has counted one packet, drop or error for each run of draws. -/
theorem total_of_run {clock clock' : Int} {g g' : Generator} {c c' : Channel}
    {scripts : List (List Draw)} (hothers : c.counters.others = none)
    (h : g.run clock c scripts = some (g', clock', c')) :
    c'.counters.total = c.counters.total + scripts.length := by
  cases hpause : g.pauseMicros? with
  | none =>
    have hnil : scripts = [] := Classical.byContradiction fun hne =>
      absurd ((run_eq_none_iff clock g c scripts).mpr ⟨hne, hpause⟩) (by simp [h])
    subst hnil
    rw [run_nil] at h
    cases h
    rfl
  | some pause =>
    obtain ⟨_, hrun⟩ := run_eq_some hpause (fun _ => false) clock c scripts
    have hserves : Line.Serves .generated ⟨g, c⟩ := by simp [Line.Serves, hothers]
    obtain ⟨-, -, htotal⟩ :=
      Line.counted_run (fun _ => false) (turns pause clock scripts) hserves
    rw [countP_turns] at htotal
    rw [hrun] at h
    cases h
    exact htotal

end Generator

end TrafficMonitor.Capture
