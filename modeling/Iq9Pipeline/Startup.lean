import Iq9Pipeline.Foundation.Machine
import Mathlib.Tactic.ByContra

/-!
How the three processes start. `rule_process` subscribes to the scenes before it connects to
the consumer, which waits for that before it connects to the producer, which waits for that
before it subscribes to `frame_done` and plays. Each process has a phase for every call that
can block or fail; it ends where a call fails, and may end at any time.
-/

namespace Iq9Pipeline

open Foundation

inductive ProducerPhase
  | starting
  | waiting
  | accepted
  | greeted
  | connected
  | initialised
  | playing
  | ended
deriving DecidableEq, Repr

def ProducerPhase.listens : ProducerPhase → Bool
  | .starting | .ended => false
  | _ => true

def ProducerPhase.greets : ProducerPhase → Bool
  | .starting | .waiting | .ended => false
  | _ => true

inductive ConsumerPhase
  | starting
  /-- Waits for `rule_process` on the relay socket. -/
  | waiting
  | accepted
  | closed
  | connected
  | receiving
  | ended
deriving DecidableEq, Repr

namespace ConsumerPhase

def listens : ConsumerPhase → Bool
  | .waiting | .accepted => true
  | _ => false

def hasAccepted : ConsumerPhase → Bool
  | .accepted | .closed | .connected | .receiving => true
  | _ => false

def joins : ConsumerPhase → Bool
  | .connected | .receiving | .ended => true
  | _ => false

theorem not_listens_of_joins {phase : ConsumerPhase} (joins : phase.joins = true) :
    phase.listens = false := by
  cases phase <;> first | rfl | cases joins

end ConsumerPhase

inductive RulePhase
  | starting
  | publishing
  | subscribing
  | listening
  | relayConnected
  | relayStored
  | ready
  | ended
deriving DecidableEq, Repr

def RulePhase.hasAsked : RulePhase → Bool
  | .listening | .relayConnected | .relayStored | .ready => true
  | _ => false

inductive HandlerPhase
  | idle
  /-- Between the sources of a scene. -/
  | received
  /-- It has read that `relayFd` is negative. -/
  | unconnected
  | reconnecting
  | sending
deriving DecidableEq, Repr

/-- The thread of `rule_process` that has opened a relay connection. -/
inductive Owner
  | main
  | handler
deriving DecidableEq, Repr

structure Startup where
  producer : ProducerPhase
  consumer : ConsumerPhase
  rule : RulePhase
  handler : HandlerPhase
  relayFd : Option Owner
  relayQueue : List Owner
  /-- The relay connection that the consumer has accepted. -/
  accepted : Option Owner
  /-- The consumer has connected to the producer. -/
  joined : Bool
  initSent : Bool
  /-- Whether the broker has granted `rule_process` the scenes, once it has asked. -/
  scene : Option Bool
  frameDone : Bool
  inFlight : Nat
deriving DecidableEq, Repr

inductive ProducerAction
  | listen
  | acceptClient
  | sendInit
  | connect
  | subscribe
  | play
  | publish
deriving DecidableEq, Repr

inductive ConsumerAction
  | listen
  | accept
  | closeServer
  | connect
  | recvInit
deriving DecidableEq, Repr

inductive RuleAction
  | initPublisher
  | connectSubscriber
  | subscribe
  | connectUds
  | storeRelayFd
  | storeReady
deriving DecidableEq, Repr

inductive HandlerAction
  | arrive
  | readRelayFd
  | loadReady
  | connectUds
  | send
  | publishFrame
deriving DecidableEq, Repr

/-- A call of one of the processes, with whether the system lets it succeed. -/
inductive StartupAction
  | producer (action : ProducerAction) (succeeds : Bool)
  | consumer (action : ConsumerAction) (succeeds : Bool)
  | rule (action : RuleAction) (succeeds : Bool)
  | handler (action : HandlerAction) (succeeds : Bool)
  | endProducer
  | endConsumer
  | endRule
deriving DecidableEq, Repr

namespace Startup

def initial : Startup where
  producer := .starting
  consumer := .starting
  rule := .starting
  handler := .idle
  relayFd := none
  relayQueue := []
  accepted := none
  joined := false
  initSent := false
  scene := none
  frameDone := false
  inFlight := 0

def producerEnded (state : Startup) : Startup :=
  { state with producer := .ended, frameDone := false }

def consumerEnded (state : Startup) : Startup :=
  { state with consumer := .ended, relayQueue := [] }

def ruleEnded (state : Startup) : Startup :=
  { state with rule := .ended, handler := .idle, relayFd := none, inFlight := 0 }

def subscribed (state : Startup) : Bool :=
  state.scene = some true ∧ state.rule ≠ .ended

def stepProducer (state : Startup) (succeeds : Bool) : ProducerAction → Option Startup
  | .listen =>
      if state.producer = .starting then
        some (if succeeds then { state with producer := .waiting } else state.producerEnded)
      else none
  | .acceptClient =>
      if state.producer = .waiting ∧ (state.joined ∨ !succeeds) then
        some (if succeeds then { state with producer := .accepted } else state.producerEnded)
      else none
  | .sendInit =>
      if state.producer = .accepted then
        some (if succeeds ∧ state.consumer ≠ .ended then
          { state with producer := .greeted, initSent := true } else state.producerEnded)
      else none
  | .connect =>
      if state.producer = .greeted then
        some (if succeeds then { state with producer := .connected } else state.producerEnded)
      else none
  | .subscribe =>
      if state.producer = .connected then
        some (if succeeds then { state with producer := .initialised, frameDone := true }
          else state.producerEnded)
      else none
  | .play =>
      if state.producer = .initialised then
        some (if succeeds then { state with producer := .playing } else state.producerEnded)
      else none
  | .publish =>
      if state.producer = .playing then
        some (if state.subscribed then { state with inFlight := state.inFlight + 1 } else state)
      else none

def stepConsumer (state : Startup) (succeeds : Bool) : ConsumerAction → Option Startup
  | .listen =>
      if state.consumer = .starting then
        some (if succeeds then { state with consumer := .waiting } else state.consumerEnded)
      else none
  | .accept =>
      if state.consumer = .waiting then
        match succeeds, state.relayQueue with
        | false, _ => some state.consumerEnded
        | true, [] => none
        | true, owner :: rest =>
            some { state with consumer := .accepted, accepted := some owner, relayQueue := rest }
      else none
  | .closeServer =>
      if state.consumer = .accepted then
        some { state with consumer := .closed, relayQueue := [] }
      else none
  | .connect =>
      if state.consumer = .closed then
        some (if succeeds ∧ state.producer.listens then
          { state with consumer := .connected, joined := true } else state.consumerEnded)
      else none
  | .recvInit =>
      if state.consumer = .connected ∧ (state.initSent ∨ state.producer = .ended) then
        some (if succeeds ∧ state.initSent then { state with consumer := .receiving }
          else state.consumerEnded)
      else none

def stepRule (state : Startup) (succeeds : Bool) : RuleAction → Option Startup
  | .initPublisher =>
      if state.rule = .starting then
        some (if succeeds then { state with rule := .publishing } else state.ruleEnded)
      else none
  | .connectSubscriber =>
      if state.rule = .publishing then
        some (if succeeds then { state with rule := .subscribing } else state.ruleEnded)
      else none
  -- `initialize` does not look at what `subscribe` returns
  | .subscribe =>
      if state.rule = .subscribing then
        some { state with rule := .listening, scene := some succeeds }
      else none
  | .connectUds =>
      if state.rule = .listening then
        some (if succeeds ∧ state.consumer.listens then
          { state with rule := .relayConnected, relayQueue := state.relayQueue ++ [.main] }
          else state.ruleEnded)
      else none
  | .storeRelayFd =>
      if state.rule = .relayConnected then
        some { state with rule := .relayStored, relayFd := some .main }
      else none
  | .storeReady =>
      if state.rule = .relayStored then some { state with rule := .ready } else none

def stepHandler (state : Startup) (succeeds : Bool) : HandlerAction → Option Startup
  | .arrive =>
      if state.handler = .idle ∧ 0 < state.inFlight then
        some { state with handler := .received, inFlight := state.inFlight - 1 }
      else none
  | .readRelayFd =>
      if state.handler = .received then
        some { state with handler := if state.relayFd.isSome then .sending else .unconnected }
      else none
  | .loadReady =>
      if state.handler = .unconnected then
        some { state with handler := if state.rule = .ready then .reconnecting else .received }
      else none
  | .connectUds =>
      if state.handler = .reconnecting then
        some (if succeeds ∧ state.consumer.listens then
          { state with
            handler := .sending
            relayFd := some .handler
            relayQueue := state.relayQueue ++ [.handler] }
          else { state with handler := .received })
      else none
  | .send =>
      if state.handler = .sending then
        some (if succeeds then { state with handler := .received }
          else { state with handler := .received, relayFd := none })
      else none
  | .publishFrame =>
      if state.handler = .received then some { state with handler := .idle } else none

def step (state : Startup) : StartupAction → Option Startup
  | .producer action succeeds => state.stepProducer succeeds action
  | .consumer action succeeds => state.stepConsumer succeeds action
  | .rule action succeeds => state.stepRule succeeds action
  | .handler action succeeds => state.stepHandler succeeds action
  | .endProducer => some state.producerEnded
  | .endConsumer => some state.consumerEnded
  | .endRule => some state.ruleEnded

def machine : Machine Startup StartupAction where
  start state := state = initial
  step := step

structure Ordered (state : Startup) : Prop where
  mainOnly : ∀ owner ∈ state.relayQueue, owner = .main
  acceptedMain : ∀ owner ∈ state.accepted, owner = .main
  asked : state.relayQueue ≠ [] ∨ state.accepted.isSome → state.scene.isSome
  asks : state.rule.hasAsked = true → state.scene.isSome
  accepted : state.consumer.hasAccepted = true → state.accepted.isSome
  joined : state.joined = true → state.accepted.isSome ∧ state.consumer.joins = true
  greeted : state.producer.greets = true → state.joined = true
  frameDone : state.producer = .initialised ∨ state.producer = .playing → state.frameDone = true
  heard : state.handler ≠ .idle ∨ 0 < state.inFlight →
    state.joined = true ∧ (state.producer = .playing ∨ state.producer = .ended)
  relayFd : ∀ owner ∈ state.relayFd, owner = .main

theorem ordered_initial : initial.Ordered := by
  constructor <;> simp [initial, ProducerPhase.greets, ConsumerPhase.hasAccepted,
    RulePhase.hasAsked]

theorem Ordered.producerEnded {state : Startup} (ordered : state.Ordered) :
    state.producerEnded.Ordered :=
  { ordered with
    greeted := nofun
    frameDone := by simp [Startup.producerEnded]
    heard := fun waits => ⟨(ordered.heard waits).1, .inr rfl⟩ }

theorem Ordered.consumerEnded {state : Startup} (ordered : state.Ordered) :
    state.consumerEnded.Ordered :=
  { ordered with
    mainOnly := nofun
    asked := fun connected =>
      ordered.asked (.inr (connected.resolve_left fun present => present rfl))
    accepted := nofun
    joined := fun joins => ⟨(ordered.joined joins).1, rfl⟩ }

theorem Ordered.ruleEnded {state : Startup} (ordered : state.Ordered) :
    state.ruleEnded.Ordered :=
  { ordered with
    asks := nofun
    heard := by simp [Startup.ruleEnded]
    relayFd := nofun }

theorem Ordered.quiet {state : Startup} (ordered : state.Ordered)
    (starts : state.producer ≠ .playing ∧ state.producer ≠ .ended) :
    state.handler = .idle ∧ state.inFlight = 0 := by
  by_contra noisy
  have waits : state.handler ≠ .idle ∨ 0 < state.inFlight := by
    rcases Decidable.not_and_iff_not_or_not.mp noisy with handles | queued
    · exact .inl handles
    · exact .inr (Nat.pos_of_ne_zero queued)
  rcases (ordered.heard waits).2 with plays | ends
  · exact starts.1 plays
  · exact starts.2 ends

theorem Ordered.advance {state : Startup} (ordered : state.Ordered) {phase : ProducerPhase}
    {initSent frameDone : Bool} (starts : state.producer ≠ .playing ∧ state.producer ≠ .ended)
    (greeted : phase.greets = true → state.joined = true)
    (subscribed : phase = .initialised ∨ phase = .playing → frameDone = true) :
    { state with producer := phase, initSent := initSent, frameDone := frameDone }.Ordered :=
  { ordered with
    greeted := greeted
    frameDone := subscribed
    heard := by simp [ordered.quiet starts] }

theorem enabled {permitted : Prop} [Decidable permitted] {next final : Startup}
    (stepped : (if permitted then some next else none) = some final) :
    permitted ∧ next = final := by
  simpa using stepped

theorem attempt {performed : Prop} [Decidable performed] {moved failed : Startup}
    (ended : failed.Ordered) (moves : performed → moved.Ordered) :
    (if performed then moved else failed).Ordered := by
  split
  · exact moves ‹_›
  · exact ended

theorem Ordered.stepProducer {state next : Startup} {succeeds : Bool} {action : ProducerAction}
    (ordered : state.Ordered) (stepped : state.stepProducer succeeds action = some next) :
    next.Ordered := by
  have failed := ordered.producerEnded
  cases action with
  | listen =>
      obtain ⟨phase, rfl⟩ := enabled stepped
      exact attempt failed fun _ => ordered.advance (by simp [phase]) nofun (by simp)
  | acceptClient =>
      obtain ⟨⟨phase, waited⟩, rfl⟩ := enabled stepped
      refine attempt failed fun accepts => ordered.advance (by simp [phase]) ?_ (by simp)
      exact fun _ => by simpa [accepts] using waited
  | sendInit =>
      obtain ⟨phase, rfl⟩ := enabled stepped
      have joined := ordered.greeted (by simp [phase, ProducerPhase.greets])
      exact attempt failed fun _ => ordered.advance (by simp [phase]) (fun _ => joined) (by simp)
  | connect =>
      obtain ⟨phase, rfl⟩ := enabled stepped
      have joined := ordered.greeted (by simp [phase, ProducerPhase.greets])
      exact attempt failed fun _ => ordered.advance (by simp [phase]) (fun _ => joined) (by simp)
  | subscribe =>
      obtain ⟨phase, rfl⟩ := enabled stepped
      have joined := ordered.greeted (by simp [phase, ProducerPhase.greets])
      exact attempt failed fun _ =>
        ordered.advance (by simp [phase]) (fun _ => joined) (fun _ => rfl)
  | play =>
      obtain ⟨phase, rfl⟩ := enabled stepped
      have joined := ordered.greeted (by simp [phase, ProducerPhase.greets])
      have subscribed := ordered.frameDone (.inl phase)
      exact attempt failed fun _ =>
        ordered.advance (by simp [phase]) (fun _ => joined) (fun _ => subscribed)
  | publish =>
      obtain ⟨phase, rfl⟩ := enabled stepped
      have joined := ordered.greeted (by simp [phase, ProducerPhase.greets])
      exact attempt ordered fun _ => { ordered with heard := fun _ => ⟨joined, .inl phase⟩ }

theorem Ordered.not_joined {state : Startup} (ordered : state.Ordered)
    (before : state.consumer.joins = false) : state.joined = false := by
  by_contra joined
  have joins := (ordered.joined (by simpa using joined)).2
  rw [before] at joins
  cases joins

theorem Ordered.stepConsumer {state next : Startup} {succeeds : Bool} {action : ConsumerAction}
    (ordered : state.Ordered) (stepped : state.stepConsumer succeeds action = some next) :
    next.Ordered := by
  have failed := ordered.consumerEnded
  cases action with
  | listen =>
      obtain ⟨phase, rfl⟩ := enabled stepped
      have apart := ordered.not_joined (by rw [phase]; rfl)
      exact attempt failed fun _ =>
        { ordered with accepted := nofun, joined := by simp [apart] }
  | accept =>
      simp only [Startup.stepConsumer, Option.ite_none_right_eq_some] at stepped
      obtain ⟨phase, taken⟩ := stepped
      have apart := ordered.not_joined (by rw [phase]; rfl)
      split at taken
      · obtain rfl := Option.some.inj taken
        exact failed
      · cases taken
      · rename_i owner rest queued
        obtain rfl := Option.some.inj taken
        have asked := ordered.asked (.inl (by simp [queued]))
        have main := ordered.mainOnly owner (by simp [queued])
        exact { ordered with
          mainOnly := fun later listed => ordered.mainOnly later (by simp [queued, listed])
          acceptedMain := by simp [main]
          asked := fun _ => asked
          accepted := fun _ => rfl
          joined := by simp [apart] }
  | closeServer =>
      obtain ⟨phase, rfl⟩ := enabled stepped
      have apart := ordered.not_joined (by rw [phase]; rfl)
      have accepted := ordered.accepted (by rw [phase]; rfl)
      exact { ordered with
        mainOnly := nofun
        asked := fun _ => ordered.asked (.inr accepted)
        accepted := fun _ => accepted
        joined := by simp [apart] }
  | connect =>
      obtain ⟨phase, rfl⟩ := enabled stepped
      have accepted := ordered.accepted (by rw [phase]; rfl)
      exact attempt failed fun _ => { ordered with
        accepted := fun _ => accepted
        joined := fun _ => ⟨accepted, rfl⟩
        greeted := fun _ => rfl
        heard := fun waits => ⟨rfl, (ordered.heard waits).2⟩ }
  | recvInit =>
      obtain ⟨⟨phase, _⟩, rfl⟩ := enabled stepped
      have accepted := ordered.accepted (by rw [phase]; rfl)
      exact attempt failed fun _ => { ordered with
        accepted := fun _ => accepted
        joined := fun _ => ⟨accepted, rfl⟩ }

theorem Ordered.stepRule {state next : Startup} {succeeds : Bool} {action : RuleAction}
    (ordered : state.Ordered) (stepped : state.stepRule succeeds action = some next) :
    next.Ordered := by
  have failed := ordered.ruleEnded
  cases action with
  | initPublisher | connectSubscriber =>
      obtain ⟨phase, rfl⟩ := enabled stepped
      exact attempt failed fun _ => { ordered with asks := nofun }
  | subscribe =>
      obtain ⟨phase, rfl⟩ := enabled stepped
      exact { ordered with asked := fun _ => rfl, asks := fun _ => rfl }
  | connectUds =>
      obtain ⟨phase, rfl⟩ := enabled stepped
      have asked := ordered.asks (by rw [phase]; rfl)
      refine attempt failed fun _ =>
        { ordered with mainOnly := ?_, asked := fun _ => asked, asks := fun _ => asked }
      intro owner listed
      rcases List.mem_append.mp listed with before | last
      · exact ordered.mainOnly owner before
      · exact List.mem_singleton.mp last
  | storeRelayFd =>
      obtain ⟨phase, rfl⟩ := enabled stepped
      have asked := ordered.asks (by rw [phase]; rfl)
      exact { ordered with asks := fun _ => asked, relayFd := by simp }
  | storeReady =>
      obtain ⟨phase, rfl⟩ := enabled stepped
      have asked := ordered.asks (by rw [phase]; rfl)
      exact { ordered with asks := fun _ => asked }

theorem Ordered.refuses {state : Startup} (ordered : state.Ordered)
    (handles : state.handler ≠ .idle) : state.consumer.listens = false :=
  ConsumerPhase.not_listens_of_joins (ordered.joined (ordered.heard (.inl handles)).1).2

theorem Ordered.stepHandler {state next : Startup} {succeeds : Bool} {action : HandlerAction}
    (ordered : state.Ordered) (stepped : state.stepHandler succeeds action = some next) :
    next.Ordered := by
  cases action with
  | arrive =>
      obtain ⟨⟨_, queued⟩, rfl⟩ := enabled stepped
      exact { ordered with heard := fun _ => ordered.heard (.inr queued) }
  | readRelayFd | loadReady =>
      obtain ⟨phase, rfl⟩ := enabled stepped
      have heard := ordered.heard (.inl (by simp [phase]))
      exact { ordered with heard := fun _ => heard }
  | connectUds =>
      obtain ⟨phase, rfl⟩ := enabled stepped
      have heard := ordered.heard (.inl (by simp [phase]))
      have refuses := ordered.refuses (by simp [phase])
      rw [refuses, if_neg (by simp)]
      exact { ordered with heard := fun _ => heard }
  | send =>
      obtain ⟨phase, rfl⟩ := enabled stepped
      have heard := ordered.heard (.inl (by simp [phase]))
      split
      · exact { ordered with heard := fun _ => heard }
      · exact { ordered with heard := fun _ => heard, relayFd := nofun }
  | publishFrame =>
      obtain ⟨phase, rfl⟩ := enabled stepped
      have heard := ordered.heard (.inl (by simp [phase]))
      exact { ordered with heard := fun _ => heard }

theorem Ordered.step {state next : Startup} {action : StartupAction} (ordered : state.Ordered)
    (stepped : state.step action = some next) : next.Ordered := by
  cases action with
  | producer action succeeds => exact ordered.stepProducer stepped
  | consumer action succeeds => exact ordered.stepConsumer stepped
  | rule action succeeds => exact ordered.stepRule stepped
  | handler action succeeds => exact ordered.stepHandler stepped
  | endProducer =>
      obtain rfl := Option.some.inj stepped
      exact ordered.producerEnded
  | endConsumer =>
      obtain rfl := Option.some.inj stepped
      exact ordered.consumerEnded
  | endRule =>
      obtain rfl := Option.some.inj stepped
      exact ordered.ruleEnded

theorem ordered_run {allowed : Startup → StartupAction → Prop} {state : Startup}
    (reachable : machine.ReachableUnder allowed state) : state.Ordered := by
  apply Machine.ReachableUnder.invariant Ordered _ _ reachable
  · rintro _ rfl
    exact ordered_initial
  · exact fun _ _ _ _ ordered _ stepped => ordered.step stepped

/-- No message of the pipeline meets a process that is not there yet. -/
structure Heard (state : Startup) : Prop where
  delivered : ∀ succeeds next, state.step (.producer .publish succeeds) = some next →
    state.rule ≠ .ended → state.scene ≠ some false → next.inFlight = state.inFlight + 1
  accepted : state.producer = .playing → state.accepted = some .main
  unstolen : state.accepted ≠ some .handler ∧ state.relayFd ≠ some .handler ∧
    .handler ∉ state.relayQueue
  answered : state.handler ≠ .idle → state.producer ≠ .ended → state.frameDone = true

/-- Whatever fails or ends when. -/
theorem heard {state : Startup} (reachable : machine.Reachable state) : state.Heard := by
  have ordered := ordered_run reachable
  have accepts : state.producer = .playing → state.accepted.isSome = true := fun plays =>
    (ordered.joined (ordered.greeted (by rw [plays]; rfl))).1
  constructor
  · intro succeeds next stepped runs unrefused
    obtain ⟨plays, rfl⟩ := enabled stepped
    obtain ⟨granted, asked⟩ := Option.isSome_iff_exists.mp (ordered.asked (.inr (accepts plays)))
    cases granted with
    | true => simp [subscribed, asked, runs]
    | false => exact absurd asked unrefused
  · intro plays
    obtain ⟨owner, present⟩ := Option.isSome_iff_exists.mp (accepts plays)
    obtain rfl := ordered.acceptedMain owner present
    exact present
  · refine ⟨fun stolen => ?_, fun stolen => ?_, fun stolen => ?_⟩
    · cases ordered.acceptedMain _ stolen
    · cases ordered.relayFd _ stolen
    · cases ordered.mainOnly _ stolen
  · intro handles runs
    exact ordered.frameDone (.inr ((ordered.heard (.inl handles)).2.resolve_right runs))

def calls : List StartupAction :=
  [.producer .listen true, .consumer .listen true, .rule .initPublisher true,
    .rule .connectSubscriber true, .rule .subscribe true, .rule .connectUds true,
    .consumer .accept true, .consumer .closeServer true, .consumer .connect true,
    .producer .acceptClient true, .producer .sendInit true, .producer .connect true,
    .producer .subscribe true, .producer .play true, .producer .publish true,
    .handler .arrive true, .handler .readRelayFd true]

theorem heard_scene : ∃ state : Startup,
    (state.handler = .unconnected ∧ state.consumer = .connected) ∧ state.Heard := by
  have begun : machine.ReachableUnder (fun _ _ => True) initial := .start rfl
  obtain ⟨state, _, reached, shows⟩ := begun.exists_run calls
    (fun state => state.handler = .unconnected ∧ state.consumer = .connected) (by decide)
  exact ⟨state, of_decide_eq_true shows, heard reached⟩

/-- Calls succeed, no process ends, and a process connects to one that listens. -/
def smooth (state : Startup) : StartupAction → Bool
  | .producer _ succeeds => succeeds
  | .consumer .connect succeeds => succeeds && state.producer.listens
  | .consumer _ succeeds => succeeds
  | .rule .connectUds succeeds => succeeds && state.consumer.listens
  | .rule _ succeeds => succeeds
  | .handler _ _ => true
  | .endProducer | .endConsumer | .endRule => false

structure Running (state : Startup) : Prop where
  producer : state.producer = .playing
  consumer : state.consumer = .receiving
  rule : state.rule = .ready

end Startup

namespace ProducerPhase

def remaining : ProducerPhase → Nat
  | .starting => 6
  | .waiting => 5
  | .accepted => 4
  | .greeted => 3
  | .connected => 2
  | .initialised => 1
  | .playing | .ended => 0

def hasSent : ProducerPhase → Bool
  | .greeted | .connected | .initialised | .playing => true
  | _ => false

end ProducerPhase

def ConsumerPhase.remaining : ConsumerPhase → Nat
  | .starting => 5
  | .waiting => 4
  | .accepted => 3
  | .closed => 2
  | .connected => 1
  | .receiving | .ended => 0

namespace RulePhase

def remaining : RulePhase → Nat
  | .starting => 6
  | .publishing => 5
  | .subscribing => 4
  | .listening => 3
  | .relayConnected => 2
  | .relayStored => 1
  | .ready | .ended => 0

def hasConnected : RulePhase → Bool
  | .relayConnected | .relayStored | .ready => true
  | _ => false

end RulePhase

namespace Startup

def remaining (state : Startup) : Nat :=
  state.producer.remaining + state.consumer.remaining + state.rule.remaining

structure Alive (state : Startup) : Prop where
  ordered : state.Ordered
  producer : state.producer ≠ .ended
  consumer : state.consumer ≠ .ended
  rule : state.rule ≠ .ended
  early : state.rule.hasConnected = false → state.relayQueue = [] ∧ state.accepted = none
  late : state.rule.hasConnected = true → state.consumer.hasAccepted = true ∨ state.relayQueue ≠ []
  joined : state.consumer.joins = true → state.joined = true
  sent : state.producer.hasSent = true → state.initSent = true

theorem alive_initial : initial.Alive :=
  ⟨ordered_initial, by decide, by decide, by decide, fun _ => ⟨rfl, rfl⟩, nofun, nofun, nofun⟩

theorem Alive.stepProducer {state next : Startup} {action : ProducerAction}
    (alive : state.Alive) (stepped : state.stepProducer true action = some next) :
    next.Alive ∧ next.remaining ≤ state.remaining := by
  have ordered := alive.ordered.stepProducer stepped
  cases action with
  | publish =>
      obtain ⟨phase, rfl⟩ := enabled stepped
      split at ordered
      · rename_i delivered
        rw [if_pos delivered]
        exact ⟨{ alive with ordered := ordered }, Nat.le_refl _⟩
      · rename_i undelivered
        rw [if_neg undelivered]
        exact ⟨alive, Nat.le_refl _⟩
  | sendInit =>
      obtain ⟨phase, rfl⟩ := enabled stepped
      rw [if_pos ⟨rfl, alive.consumer⟩] at ordered ⊢
      refine ⟨{ alive with ordered := ordered, producer := nofun, sent := fun _ => rfl }, ?_⟩
      simp [remaining, phase, ProducerPhase.remaining]
  | listen | acceptClient =>
      obtain ⟨enables, rfl⟩ := enabled stepped
      rw [if_pos rfl] at ordered ⊢
      refine ⟨{ alive with ordered := ordered, producer := nofun, sent := nofun }, ?_⟩
      simp [remaining, enables, ProducerPhase.remaining]
  | connect | subscribe | play =>
      obtain ⟨phase, rfl⟩ := enabled stepped
      have sent := alive.sent (by rw [phase]; rfl)
      rw [if_pos rfl] at ordered ⊢
      refine ⟨{ alive with ordered := ordered, producer := nofun, sent := fun _ => sent }, ?_⟩
      simp [remaining, phase, ProducerPhase.remaining]

theorem Alive.stepConsumer {state next : Startup} {action : ConsumerAction}
    (alive : state.Alive) (smooth : state.smooth (.consumer action true) = true)
    (stepped : state.stepConsumer true action = some next) :
    next.Alive ∧ next.remaining ≤ state.remaining := by
  have ordered := alive.ordered.stepConsumer stepped
  cases action with
  | listen =>
      obtain ⟨phase, rfl⟩ := enabled stepped
      rw [if_pos rfl] at ordered ⊢
      refine ⟨{ alive with
        ordered := ordered
        consumer := nofun
        late := fun connected => .inr ((alive.late connected).resolve_left (by simp [phase,
          ConsumerPhase.hasAccepted]))
        joined := nofun }, ?_⟩
      simp [remaining, phase, ConsumerPhase.remaining]
  | accept =>
      simp only [Startup.stepConsumer, Option.ite_none_right_eq_some] at stepped
      obtain ⟨phase, taken⟩ := stepped
      split at taken
      · contradiction
      · cases taken
      · rename_i owner rest queued
        obtain rfl := Option.some.inj taken
        refine ⟨{ alive with
          ordered := ordered
          consumer := nofun
          early := fun apart => absurd (alive.early apart).1 (by simp [queued])
          late := fun _ => .inl rfl
          joined := nofun }, ?_⟩
        simp [remaining, phase, ConsumerPhase.remaining]
  | closeServer =>
      obtain ⟨phase, rfl⟩ := enabled stepped
      refine ⟨{ alive with
        ordered := ordered
        consumer := nofun
        early := fun apart => ⟨rfl, (alive.early apart).2⟩
        late := fun _ => .inl rfl
        joined := nofun }, ?_⟩
      simp [remaining, phase, ConsumerPhase.remaining]
  | connect =>
      obtain ⟨phase, rfl⟩ := enabled stepped
      rw [if_pos ⟨rfl, smooth⟩] at ordered ⊢
      refine ⟨{ alive with
        ordered := ordered
        consumer := nofun
        late := fun _ => .inl rfl
        joined := fun _ => rfl }, ?_⟩
      simp [remaining, phase, ConsumerPhase.remaining]
  | recvInit =>
      obtain ⟨⟨phase, sent⟩, rfl⟩ := enabled stepped
      have received := sent.resolve_right alive.producer
      rw [if_pos ⟨rfl, received⟩] at ordered ⊢
      refine ⟨{ alive with
        ordered := ordered
        consumer := nofun
        late := fun _ => .inl rfl
        joined := fun _ => alive.joined (by rw [phase]; rfl) }, ?_⟩
      simp [remaining, phase, ConsumerPhase.remaining]

theorem Alive.stepRule {state next : Startup} {action : RuleAction}
    (alive : state.Alive) (smooth : state.smooth (.rule action true) = true)
    (stepped : state.stepRule true action = some next) :
    next.Alive ∧ next.remaining ≤ state.remaining := by
  have ordered := alive.ordered.stepRule stepped
  cases action with
  | initPublisher | connectSubscriber =>
      obtain ⟨phase, rfl⟩ := enabled stepped
      have early := alive.early (by rw [phase]; rfl)
      rw [if_pos rfl] at ordered ⊢
      refine ⟨{ alive with
        ordered := ordered
        rule := nofun
        early := fun _ => early
        late := nofun }, ?_⟩
      simp [remaining, phase, RulePhase.remaining]
  | subscribe =>
      obtain ⟨phase, rfl⟩ := enabled stepped
      have early := alive.early (by rw [phase]; rfl)
      refine ⟨{ alive with
        ordered := ordered
        rule := nofun
        early := fun _ => early
        late := nofun }, ?_⟩
      simp [remaining, phase, RulePhase.remaining]
  | connectUds =>
      obtain ⟨phase, rfl⟩ := enabled stepped
      rw [if_pos ⟨rfl, smooth⟩] at ordered ⊢
      refine ⟨{ alive with
        ordered := ordered
        rule := nofun
        early := nofun
        late := fun _ => .inr (by simp) }, ?_⟩
      simp [remaining, phase, RulePhase.remaining]
  | storeRelayFd | storeReady =>
      obtain ⟨phase, rfl⟩ := enabled stepped
      have late := alive.late (by rw [phase]; rfl)
      refine ⟨{ alive with
        ordered := ordered
        rule := nofun
        early := nofun
        late := fun _ => late }, ?_⟩
      simp [remaining, phase, RulePhase.remaining]

theorem Alive.stepHandler {state next : Startup} {succeeds : Bool} {action : HandlerAction}
    (alive : state.Alive) (stepped : state.stepHandler succeeds action = some next) :
    next.Alive ∧ next.remaining ≤ state.remaining := by
  have ordered := alive.ordered.stepHandler stepped
  cases action with
  | arrive | readRelayFd | loadReady | publishFrame =>
      obtain ⟨_, rfl⟩ := enabled stepped
      exact ⟨{ alive with ordered := ordered }, Nat.le_refl _⟩
  | connectUds =>
      obtain ⟨phase, rfl⟩ := enabled stepped
      have refuses := alive.ordered.refuses (by simp [phase])
      rw [if_neg (by simp [refuses])] at ordered ⊢
      exact ⟨{ alive with ordered := ordered }, Nat.le_refl _⟩
  | send =>
      obtain ⟨phase, rfl⟩ := enabled stepped
      split
      · exact ⟨{ alive with ordered := by simpa [*] using ordered }, Nat.le_refl _⟩
      · exact ⟨{ alive with ordered := by simpa [*] using ordered }, Nat.le_refl _⟩

theorem Alive.step {state next : Startup} {action : StartupAction} (alive : state.Alive)
    (smooth : state.smooth action = true) (stepped : state.step action = some next) :
    next.Alive ∧ next.remaining ≤ state.remaining := by
  cases action with
  | producer action succeeds =>
      obtain rfl : succeeds = true := smooth
      exact alive.stepProducer stepped
  | consumer action succeeds =>
      obtain rfl : succeeds = true := by cases action <;> simp_all [Startup.smooth]
      exact alive.stepConsumer smooth stepped
  | rule action succeeds =>
      obtain rfl : succeeds = true := by cases action <;> simp_all [Startup.smooth]
      exact alive.stepRule smooth stepped
  | handler action succeeds => exact alive.stepHandler stepped
  | endProducer | endConsumer | endRule => cases smooth

def Progress (state : Startup) : Prop :=
  ∃ action next, state.smooth action = true ∧ state.step action = some next ∧
    next.remaining < state.remaining

theorem Alive.producer_progress {state : Startup} (alive : state.Alive)
    (served : state.producer = .waiting → state.joined = true)
    (ahead : state.producer ≠ .playing) : state.Progress := by
  cases phase : state.producer with
  | starting =>
      refine ⟨.producer .listen true, { state with producer := .waiting }, rfl, ?_, ?_⟩
      · simp [Startup.step, Startup.stepProducer, phase]
      · simp [remaining, phase, ProducerPhase.remaining]
  | waiting =>
      refine ⟨.producer .acceptClient true, { state with producer := .accepted }, rfl, ?_, ?_⟩
      · simp [Startup.step, Startup.stepProducer, phase, served phase]
      · simp [remaining, phase, ProducerPhase.remaining]
  | accepted =>
      refine ⟨.producer .sendInit true, { state with producer := .greeted, initSent := true }, rfl,
        ?_, ?_⟩
      · simp [Startup.step, Startup.stepProducer, phase, alive.consumer]
      · simp [remaining, phase, ProducerPhase.remaining]
  | greeted =>
      refine ⟨.producer .connect true, { state with producer := .connected }, rfl, ?_, ?_⟩
      · simp [Startup.step, Startup.stepProducer, phase]
      · simp [remaining, phase, ProducerPhase.remaining]
  | connected =>
      refine ⟨.producer .subscribe true,
        { state with producer := .initialised, frameDone := true }, rfl, ?_, ?_⟩
      · simp [Startup.step, Startup.stepProducer, phase]
      · simp [remaining, phase, ProducerPhase.remaining]
  | initialised =>
      refine ⟨.producer .play true, { state with producer := .playing }, rfl, ?_, ?_⟩
      · simp [Startup.step, Startup.stepProducer, phase]
      · simp [remaining, phase, ProducerPhase.remaining]
  | playing => exact absurd phase ahead
  | ended => exact absurd phase alive.producer

theorem Alive.rule_progress {state : Startup} (alive : state.Alive)
    (served : state.rule = .listening → state.consumer.listens = true)
    (ahead : state.rule ≠ .ready) : state.Progress := by
  cases phase : state.rule with
  | starting =>
      refine ⟨.rule .initPublisher true, { state with rule := .publishing }, rfl, ?_, ?_⟩
      · simp [Startup.step, Startup.stepRule, phase]
      · simp [remaining, phase, RulePhase.remaining]
  | publishing =>
      refine ⟨.rule .connectSubscriber true, { state with rule := .subscribing }, rfl, ?_, ?_⟩
      · simp [Startup.step, Startup.stepRule, phase]
      · simp [remaining, phase, RulePhase.remaining]
  | subscribing =>
      refine ⟨.rule .subscribe true, { state with rule := .listening, scene := some true }, rfl,
        ?_, ?_⟩
      · simp [Startup.step, Startup.stepRule, phase]
      · simp [remaining, phase, RulePhase.remaining]
  | listening =>
      refine ⟨.rule .connectUds true,
        { state with rule := .relayConnected, relayQueue := state.relayQueue ++ [.main] }, ?_,
        ?_, ?_⟩
      · simp [smooth, served phase]
      · simp [Startup.step, Startup.stepRule, phase, served phase]
      · simp [remaining, phase, RulePhase.remaining]
  | relayConnected =>
      refine ⟨.rule .storeRelayFd true,
        { state with rule := .relayStored, relayFd := some .main }, rfl, ?_, ?_⟩
      · simp [Startup.step, Startup.stepRule, phase]
      · simp [remaining, phase, RulePhase.remaining]
  | relayStored =>
      refine ⟨.rule .storeReady true, { state with rule := .ready }, rfl, ?_, ?_⟩
      · simp [Startup.step, Startup.stepRule, phase]
      · simp [remaining, phase, RulePhase.remaining]
  | ready => exact absurd phase ahead
  | ended => exact absurd phase alive.rule

theorem Alive.consumer_progress {state : Startup} (alive : state.Alive)
    (queued : state.consumer = .waiting → state.relayQueue ≠ [])
    (listens : state.consumer = .closed → state.producer.listens = true)
    (sent : state.consumer = .connected → state.initSent = true)
    (ahead : state.consumer ≠ .receiving) : state.Progress := by
  cases phase : state.consumer with
  | starting =>
      refine ⟨.consumer .listen true, { state with consumer := .waiting }, rfl, ?_, ?_⟩
      · simp [Startup.step, Startup.stepConsumer, phase]
      · simp [remaining, phase, ConsumerPhase.remaining]
  | waiting =>
      obtain ⟨owner, rest, first⟩ := List.exists_cons_of_ne_nil (queued phase)
      refine ⟨.consumer .accept true, { state with
        consumer := .accepted
        accepted := some owner
        relayQueue := rest }, rfl, ?_, ?_⟩
      · simp [Startup.step, Startup.stepConsumer, phase, first]
      · simp [remaining, phase, ConsumerPhase.remaining]
  | accepted =>
      refine ⟨.consumer .closeServer true,
        { state with consumer := .closed, relayQueue := [] }, rfl, ?_, ?_⟩
      · simp [Startup.step, Startup.stepConsumer, phase]
      · simp [remaining, phase, ConsumerPhase.remaining]
  | closed =>
      refine ⟨.consumer .connect true, { state with consumer := .connected, joined := true }, ?_,
        ?_, ?_⟩
      · simp [smooth, listens phase]
      · simp [Startup.step, Startup.stepConsumer, phase, listens phase]
      · simp [remaining, phase, ConsumerPhase.remaining]
  | connected =>
      refine ⟨.consumer .recvInit true, { state with consumer := .receiving }, rfl, ?_, ?_⟩
      · simp [Startup.step, Startup.stepConsumer, phase, sent phase]
      · simp [remaining, phase, ConsumerPhase.remaining]
  | receiving => exact absurd phase ahead
  | ended => exact absurd phase alive.consumer

/-- Nobody waits for one that waits for him. -/
theorem Alive.progress {state : Startup} (alive : state.Alive) (starting : ¬state.Running) :
    state.Progress := by
  by_cases unbound : state.producer = .starting
  · exact alive.producer_progress (by simp [unbound]) (by simp [unbound])
  by_cases unopened : state.consumer = .starting
  · exact alive.consumer_progress (by simp [unopened]) (by simp [unopened]) (by simp [unopened])
      (by simp [unopened])
  by_cases ready : state.rule = .ready
  · have listens : state.producer.listens = true := by
      cases phase : state.producer with
      | starting => exact absurd phase unbound
      | ended => exact absurd phase alive.producer
      | _ => rfl
    have queued : state.consumer = .waiting → state.relayQueue ≠ [] := fun waits =>
      (alive.late (by rw [ready]; rfl)).resolve_left (by simp [waits, ConsumerPhase.hasAccepted])
    by_cases plays : state.producer = .playing
    · have sent := alive.sent (by rw [plays]; rfl)
      exact alive.consumer_progress queued (fun _ => listens) (fun _ => sent)
        fun receives => starting ⟨plays, receives, ready⟩
    · by_cases joins : state.consumer.joins = true
      · exact alive.producer_progress (fun _ => alive.joined joins) plays
      · exact alive.consumer_progress queued (fun _ => listens)
          (fun connected => absurd (by rw [connected]; rfl) joins)
          (fun receives => absurd (by rw [receives]; rfl) joins)
  · refine alive.rule_progress (fun listening => ?_) ready
    have accepted := (alive.early (by rw [listening]; rfl)).2
    cases phase : state.consumer with
    | starting => exact absurd phase unopened
    | ended => exact absurd phase alive.consumer
    | waiting => rfl
    | _ =>
        have opened := alive.ordered.accepted (by rw [phase]; rfl)
        simp [accepted] at opened

theorem alive_run {state : Startup}
    (reachable : machine.ReachableUnder (fun state action => state.smooth action = true) state) :
    state.Alive := by
  apply Machine.ReachableUnder.invariant Alive _ _ reachable
  · rintro _ rfl
    exact alive_initial
  · exact fun _ _ _ _ alive smooth stepped => (alive.step smooth stepped).1

/-- The start only ever moves on, and can always come to its end. -/
structure Converges (state : Startup) : Prop where
  onward : ∀ action next, state.smooth action = true → state.step action = some next →
    next.remaining ≤ state.remaining
  arrives : ∃ actions final, actions.length ≤ state.remaining ∧
    machine.run (fun state action => state.smooth action = true) state actions = some final ∧
    final.Running

/-- Where no call fails, the three never wait for each other in a circle, in whatever order
their calls came so far. -/
theorem startsUp {state : Startup}
    (reachable : machine.ReachableUnder (fun state action => state.smooth action = true) state) :
    state.Converges := by
  constructor
  · exact fun _ _ smooth stepped => ((alive_run reachable).step smooth stepped).2
  · have alive := alive_run reachable
    clear reachable
    generalize ahead : state.remaining = calls
    induction calls using Nat.strongRecOn generalizing state with
    | ind calls ih =>
        by_cases runs : state.Running
        · exact ⟨[], state, Nat.zero_le _, rfl, runs⟩
        · obtain ⟨action, next, smooth, stepped, fewer⟩ := alive.progress runs
          obtain ⟨actions, final, short, ran, running⟩ :=
            ih next.remaining (ahead ▸ fewer) (alive.step smooth stepped).1 rfl
          refine ⟨action :: actions, final, ?_, ?_, running⟩
          · rw [List.length_cons]
            omega
          · have moved : machine.step state action = some next := stepped
            simp only [Machine.run, smooth, if_true, moved, Option.bind_some]
            exact ran

theorem startsUp_scene : ∃ state : Startup,
    (state.handler = .unconnected ∧ state.remaining = 3) ∧ state.Converges := by
  have begun : machine.ReachableUnder (fun state action => state.smooth action = true) initial :=
    .start rfl
  obtain ⟨state, _, reached, shows⟩ := begun.exists_run calls
    (fun state => state.handler = .unconnected ∧ state.remaining = 3) (by decide)
  exact ⟨state, of_decide_eq_true shows, startsUp reached⟩

end Startup

end Iq9Pipeline
