import Handover.Proofs.Account
import Handover.Proofs.Custody
import Handover.Proofs.OneShot

/-! # Peers are for the record

A connection is looked up for the log only. Two platforms that tell different peers are asked the same calls, answer
them in the same way and have the same handles open, step by step, since their ledgers differ in nothing but the log, and
no call depends on that. The logs differ in one line for each consumer that has come in, directly behind the line that
says so. The rules below carry this from one call to a whole step.
-/
namespace Handover

open Account (peerEvent logPeer_eq)

def Record.accepted? : Record → Option Descriptor
  | .call (.accept _) _ (.issued conn) => some conn
  | _ => none

def History.accepted (records : List Record) : List Descriptor := records.filterMap Record.accepted?

/-- An event that says that a consumer has come in, or which one. -/
def Event.isArrival : Event → Bool
  | .moved _ .accepted | .connected _ _ | .peerUnknown _ _ => true
  | _ => false

/-- Two logs that differ only in what they tell about the given connections, each in the line behind the one that a
consumer has come in. -/
inductive SameButPeers (first second : Descriptor → Event) : List Descriptor → List Event → List Event → Prop where
  | nil : SameButPeers first second [] [] []
  | event {event : Event} {conns : List Descriptor} {events told : List Event} : event.isArrival = false →
      SameButPeers first second conns events told → SameButPeers first second conns (event :: events) (event :: told)
  | arrival {conn : Descriptor} {conns : List Descriptor} {events told : List Event} :
      SameButPeers first second conns events told →
      SameButPeers first second (conn :: conns) (.moved .listening .accepted :: first conn :: events)
        (.moved .listening .accepted :: second conn :: told)

theorem SameButPeers.append {first second : Descriptor → Event} {conns more : List Descriptor}
    {events later told rest : List Event} (h : SameButPeers first second conns events told)
    (hl : SameButPeers first second more later rest) :
    SameButPeers first second (conns ++ more) (events ++ later) (told ++ rest) := by
  induction h with
  | nil => exact hl
  | event he _ ih => exact .event he ih
  | arrival _ ih => exact .arrival ih

def Script.withPeers (script : Script) (peers : Descriptor → Except Errno Peer) : Script := { script with peer := peers }

def Ledger.withLog (l : Ledger) (log : List Event) : Ledger := { l with events := log }

section Ledgers

variable {script other : Script} {peers : Descriptor → Except Errno Peer} {most : Nat} {l l' l'' : Ledger}
  {log log' log'' : List Event}

/-- What has come from `l` to `l'`, and with the other peers from the log `log` to `log'`: the same records, with at most
so many consumers come in, and the same events but for their peers. -/
def Parted (script other : Script) (most : Nat) (l l' : Ledger) (log log' : List Event) : Prop :=
  ∃ block events told, l'.history = l.history ++ block ∧ l'.events = l.events ++ events ∧ log' = log ++ told ∧
    (History.accepted block).length ≤ most ∧
    SameButPeers (peerEvent script) (peerEvent other) (History.accepted block) events told

theorem Parted.of_history {block : List Record} (hh : l'.history = l.history ++ block)
    (ha : History.accepted block = []) (he : l'.events = l.events) : Parted script other most l l' log log := by
  refine ⟨block, [], [], hh, he.trans (List.append_nil _).symm, (List.append_nil _).symm, ?_, ?_⟩
  · simp [ha]
  · exact ha ▸ .nil

theorem Parted.refl : Parted script other most l l log log := .of_history (List.append_nil _).symm rfl rfl

theorem Parted.mono {more : Nat} (h : Parted script other most l l' log log') (hle : most ≤ more) :
    Parted script other more l l' log log' := by
  obtain ⟨block, events, told, hh, he, ht, hb, hs⟩ := h
  exact ⟨block, events, told, hh, he, ht, hb.trans hle, hs⟩

theorem Parted.trans {more : Nat} (h : Parted script other most l l' log log')
    (hm : Parted script other more l' l'' log' log'') : Parted script other (most + more) l l'' log log'' := by
  obtain ⟨block, events, told, hh, he, ht, hle, hs⟩ := h
  obtain ⟨block', events', told', hh', he', ht', hle', hs'⟩ := hm
  have ha : History.accepted (block ++ block') = History.accepted block ++ History.accepted block' :=
    List.filterMap_append
  refine ⟨block ++ block', events ++ events', told ++ told', ?_, ?_, ?_, ?_, ?_⟩
  · rw [hh', hh, List.append_assoc]
  · rw [he', he, List.append_assoc]
  · rw [ht', ht, List.append_assoc]
  · rw [ha, List.length_append]
    exact Nat.add_le_add hle hle'
  · rw [ha]
    exact hs.append hs'

theorem accepted_drops (handles : List Descriptor) : History.accepted (handles.map Record.release) = [] := by
  induction handles with
  | nil => rfl
  | cons handle handles ih => exact ih

theorem Parted.releaseAll (h : Parted script other most l l' log log') (handles : List Descriptor) :
    Parted script other most l (script.platform.releaseAll handles l') log log' := by
  have hr : Parted script other 0 l' (script.platform.releaseAll handles l') log' log' :=
    .of_history (Ledger.history_releaseAll l' handles) (accepted_drops handles) (Account.events_releaseAll l' handles)
  exact h.trans hr

theorem releaseAll_withLog (handles : List Descriptor) (l : Ledger) (log : List Event) :
    (script.withPeers peers).platform.releaseAll handles (l.withLog log) =
      (script.platform.releaseAll handles l).withLog log := by
  induction handles generalizing l with
  | nil => rfl
  | cons handle handles ih => exact ih (l.release handle)

end Ledgers

/-! ## Two actions side by side -/

def reached {α : Type} : EStateM.Result Error Ledger α → Ledger
  | .ok _ l | .error _ l => l

def relog {α : Type} (log : List Event) : EStateM.Result Error Ledger α → EStateM.Result Error Ledger α
  | .ok a l => .ok a (l.withLog log)
  | .error e l => .error e (l.withLog log)

/-- No call depends on the log or on the peers. -/
theorem perform_withPeers (script : Script) (peers : Descriptor → Except Errno Peer) (l : Ledger) (log : List Event)
    (call : Call) : (script.withPeers peers).platform.perform call (l.withLog log) =
      relog log (script.platform.perform call l) := by
  cases hf : script.fault l.history call with
  | some cause =>
    have hother : (script.withPeers peers).fault (l.withLog log).history call = some cause := hf
    exact (Script.perform_of_fault hother).trans (congrArg (relog log) (Script.perform_of_fault hf)).symm
  | none =>
    have hother : (script.withPeers peers).fault (l.withLog log).history call = none := hf
    refine (Script.perform_of_no_fault hother).trans
      (Eq.trans ?_ (congrArg (relog log) (Script.perform_of_no_fault hf)).symm)
    cases call <;> rfl

/-- An action for one script and one for the same script with other peers end alike, whatever the two logs are at first,
and on the way the logs part only over the peers of at most so many consumers. -/
def Abreast {α : Type} (script : Script) (peers : Descriptor → Except Errno Peer) (most : Nat)
    (action other : Action Ledger α) : Prop :=
  ∀ (l : Ledger) (log : List Event), ∃ log', other (l.withLog log) = relog log' (action l) ∧
    Parted script (script.withPeers peers) most l (reached (action l)) log log'

namespace Abreast

variable {script : Script} {peers : Descriptor → Except Errno Peer} {most : Nat} {α β : Type}

theorem pure {a : α} : Abreast script peers most (pure a : Action Ledger α) (Pure.pure a) :=
  fun _ log => ⟨log, rfl, .refl⟩

theorem bind {action other : Action Ledger α} {next nextOther : α → Action Ledger β}
    (ha : Abreast script peers 0 action other) (hn : ∀ a, Abreast script peers most (next a) (nextOther a)) :
    Abreast script peers most (action >>= next) (other >>= nextOther) := by
  intro l log
  obtain ⟨log', hother, hp⟩ := ha l log
  simp only [Bind.bind, EStateM.bind, hother]
  cases hr : action l with
  | ok a l' =>
    obtain ⟨log'', hnext, hq⟩ := hn a l' log'
    rw [hr] at hp
    exact ⟨log'', hnext, Nat.zero_add most ▸ hp.trans hq⟩
  | error e l' =>
    rw [hr] at hp
    exact ⟨log', rfl, hp.mono (Nat.zero_le most)⟩

theorem log {event : Event} (he : event.isArrival = false) :
    Abreast script peers most (script.platform.log event) ((script.withPeers peers).platform.log event) :=
  fun _ log => ⟨log ++ [event], rfl, [], [event], [event], (List.append_nil _).symm, rfl, rfl, Nat.zero_le most,
    .event he .nil⟩

theorem advance {state next : Transfer.State} (hn : next ≠ .accepted) :
    Abreast script peers most (script.platform.advance state next)
      ((script.withPeers peers).platform.advance state next) := by
  have he : (Event.moved state next).isArrival = false := by
    cases next <;> first | rfl | exact absurd rfl hn
  exact bind (log he) fun _ => pure

theorem ofExcept {outcome : Except Error α} :
    Abreast script peers most (Action.ofExcept outcome) (Action.ofExcept outcome) := by
  intro l log
  cases outcome with
  | ok a => exact ⟨log, rfl, .refl⟩
  | error e => exact ⟨log, rfl, .refl⟩

theorem holding {handles : List Descriptor} {action other : Action Ledger α} (h : Abreast script peers most action other) :
    Abreast script peers most (script.platform.holding handles action)
      ((script.withPeers peers).platform.holding handles other) := by
  intro l log
  obtain ⟨log', hother, hp⟩ := h l log
  simp only [Platform.holding, hother]
  cases hr : action l with
  | ok a l' =>
    rw [hr] at hp
    exact ⟨log', rfl, hp⟩
  | error e l' =>
    rw [hr] at hp
    exact ⟨log', congrArg _ (releaseAll_withLog handles l' log'), hp.releaseAll handles⟩

theorem perform {call : Call} (hc : call.acceptsOn? = none) :
    Abreast script peers most (script.platform.perform call) ((script.withPeers peers).platform.perform call) := by
  intro l log
  have hnone : ∀ live outcome, History.accepted [.call call live outcome] = [] := by
    intro live outcome
    cases call <;> first | rfl | simp [Call.acceptsOn?] at hc
  refine ⟨log, perform_withPeers script peers l log call, ?_⟩
  cases hf : script.fault l.history call with
  | some cause =>
    rw [Script.perform_of_fault hf]
    exact .of_history rfl (hnone _ _) rfl
  | none =>
    rw [Script.perform_of_no_fault hf]
    exact .of_history rfl (hnone _ _) rfl

/-- Where a consumer comes in the logs part, and only there. -/
theorem arrival {handles : List Descriptor} {listener : Descriptor} {next nextOther : Descriptor → Action Ledger β}
    (hn : ∀ conn, Abreast script peers 0 (next conn) (nextOther conn)) :
    Abreast script peers 1
      (script.platform.holding handles (script.platform.perform (.accept listener)) >>= fun conn =>
        script.platform.advance .listening .accepted >>= fun _ => script.platform.logPeer conn >>= fun _ => next conn)
      ((script.withPeers peers).platform.holding handles
          ((script.withPeers peers).platform.perform (.accept listener)) >>= fun conn =>
        (script.withPeers peers).platform.advance .listening .accepted >>= fun _ =>
          (script.withPeers peers).platform.logPeer conn >>= fun _ => nextOther conn) := by
  intro l log
  have hother := perform_withPeers script peers l log (.accept listener)
  cases hf : script.fault l.history (.accept listener) with
  | some cause =>
    rw [Script.perform_of_fault hf] at hother
    simp only [Bind.bind, EStateM.bind, Platform.holding, hother, Script.perform_of_fault hf, relog]
    have hrefused : Parted script (script.withPeers peers) 1 l
        (l.record (Script.refused l (.accept listener) cause)) log log := .of_history rfl rfl rfl
    exact ⟨log, congrArg _ (releaseAll_withLog handles _ log), hrefused.releaseAll handles⟩
  | none =>
    rw [Script.perform_of_no_fault hf] at hother
    have hmove : ∀ (s : Script) (l : Ledger), s.platform.advance .listening .accepted l =
        .ok .accepted (l.note (.moved .listening .accepted)) := fun s l => rfl
    simp only [Bind.bind, EStateM.bind, Platform.holding, hother, Script.perform_of_no_fault hf, relog, hmove, logPeer_eq]
    let met := (((l.record (script.granted l (.accept listener))).note (.moved .listening .accepted)).note
      (peerEvent script l.next))
    let told := log ++ [.moved .listening .accepted] ++ [peerEvent (script.withPeers peers) l.next]
    have hmet : Parted script (script.withPeers peers) 1 l met log told :=
      ⟨[script.granted l (.accept listener)], _, _, rfl, List.append_assoc .., List.append_assoc .., le_rfl,
        .arrival .nil⟩
    obtain ⟨log', hnext, hp⟩ := hn l.next met told
    exact ⟨log', hnext, hmet.trans hp⟩

end Abreast

/-! ## The operations of a handover -/

section Operations

open Abreast (bind log perform advance holding)

variable (script : Script) (peers : Descriptor → Except Errno Peer) {most : Nat}

theorem abreast_createDirectory (config : Config) : Abreast script peers most (script.platform.createDirectory config)
    ((script.withPeers peers).platform.createDirectory config) := by
  refine bind (log rfl) fun _ => ?_
  refine bind (perform rfl) fun path => ?_
  refine bind (perform rfl) fun handle => ?_
  exact bind (log rfl) fun _ => Abreast.pure

theorem abreast_listen (dir : PrivateDirectory) (name : String) :
    Abreast script peers most (script.platform.listen dir name) ((script.withPeers peers).platform.listen dir name) := by
  refine bind (perform rfl) fun handle => ?_
  exact bind (log rfl) fun _ => Abreast.pure

theorem abreast_announce (dir : PrivateDirectory) (data pass : Listener) :
    Abreast script peers most (script.platform.announce dir data pass)
      ((script.withPeers peers).platform.announce dir data pass) := by
  refine bind Abreast.ofExcept fun announcement => ?_
  refine bind (perform rfl) fun _ => ?_
  exact bind (log rfl) fun _ => Abreast.pure

theorem abreast_serveOnce (dir : PrivateDirectory) (data pass : Listener) :
    Abreast script peers 1 (script.platform.serveOnce dir data pass)
      ((script.withPeers peers).platform.serveOnce dir data pass) := by
  refine bind (log rfl) fun _ => ?_
  refine Abreast.arrival fun conn => ?_
  refine bind (holding (perform rfl)) fun _ => ?_
  refine bind (holding (perform rfl)) fun _ => ?_
  refine bind (advance (by decide)) fun _ => ?_
  refine bind (holding (perform rfl)) fun _ => ?_
  refine bind (advance (by decide)) fun _ => ?_
  refine bind (holding (perform rfl)) fun _ => ?_
  refine bind (holding (perform rfl)) fun _ => ?_
  refine bind (perform rfl) fun _ => ?_
  refine bind (advance (by decide)) fun _ => ?_
  exact bind (log rfl) fun _ => Abreast.pure

theorem abreast_establish (config : Config) : Abreast script peers most (script.platform.establish config)
    ((script.withPeers peers).platform.establish config) := by
  refine bind (abreast_createDirectory script peers config) fun dir => ?_
  refine bind (holding (abreast_listen script peers dir dataName)) fun data => ?_
  exact bind (holding (abreast_listen script peers dir passName)) fun pass => Abreast.pure

theorem abreast_run (config : Config) : Abreast script peers 1 (script.platform.run config)
    ((script.withPeers peers).platform.run config) := by
  refine bind (abreast_establish script peers config) fun session => ?_
  refine bind (holding (abreast_announce script peers session.directory session.data session.pass)) fun _ => ?_
  exact abreast_serveOnce script peers session.directory session.data session.pass

end Operations

/-! ## Two courses side by side -/

namespace Course

variable {script : Script} {peers : Descriptor → Except Errno Peer} {most : Nat} {α : Type}

def withLog (c : Course Ledger) (log : List Event) : Course Ledger := ⟨c.holdings, c.state.withLog log⟩

@[simp] theorem withLog_holdings (c : Course Ledger) (log : List Event) : (c.withLog log).holdings = c.holdings := rfl

/-- A step from `c` and one from `c` with the log `log` end alike, and the logs part only over the peer of one consumer. -/
def KeepsAbreast (script : Script) (peers : Descriptor → Except Errno Peer) (c : Course Ledger) (log : List Event)
    (first second : Except Error Reply × Course Ledger) : Prop :=
  ∃ log', second = (first.1, first.2.withLog log') ∧
    Parted script (script.withPeers peers) 1 c.state first.2.state log log'

theorem keepsAbreast_perform {c d : Course Ledger} {log : List Event} {action other : Action Ledger α}
    {keep : α → Holdings × Reply} (hd : Parted script (script.withPeers peers) 0 c.state d.state log log)
    (h : Abreast script peers 1 action other) :
    KeepsAbreast script peers c log (d.perform action keep) ((d.withLog log).perform other keep) := by
  obtain ⟨log', hother, hp⟩ := h d.state log
  have hs : (d.withLog log).state = d.state.withLog log := rfl
  simp only [KeepsAbreast, perform, hs, hother]
  cases hr : action d.state with
  | ok a l =>
    rw [hr] at hp
    exact ⟨log', rfl, hd.trans hp⟩
  | error e l =>
    rw [hr] at hp
    exact ⟨log', rfl, hd.trans hp⟩

theorem keepsAbreast_notHeld {c : Course Ledger} {log : List Event} :
    KeepsAbreast script peers c log c.notHeld (c.withLog log).notHeld :=
  ⟨log, rfl, .refl⟩

theorem releasing_withLog (c : Course Ledger) (log : List Event) (holdings : Holdings) (handles : List Descriptor) :
    releasing (script.withPeers peers).platform (c.withLog log) holdings handles =
      (releasing script.platform c holdings handles).withLog log :=
  congrArg (Course.mk holdings) (releaseAll_withLog handles c.state log)

theorem keepsAbreast_releasing {c : Course Ledger} {log : List Event} {holdings : Holdings} {handles : List Descriptor}
    {reply : Except Error Reply} : KeepsAbreast script peers c log (reply, releasing script.platform c holdings handles)
      (reply, releasing (script.withPeers peers).platform (c.withLog log) holdings handles) :=
  ⟨log, congrArg (Prod.mk reply) (releasing_withLog c log holdings handles), .releaseAll .refl handles⟩

theorem dropSession_withLog (c : Course Ledger) (log : List Event) (i : Nat) :
    (c.withLog log).dropSession (script.withPeers peers).platform i = (c.dropSession script.platform i).withLog log := by
  simp only [dropSession, withLog_holdings]
  cases c.holdings.session? i with
  | some session => exact releasing_withLog c log _ session.handles
  | none => rfl

theorem dropSession_parted (c : Course Ledger) (log : List Event) (i : Nat) :
    Parted script (script.withPeers peers) most c.state (c.dropSession script.platform i).state log log := by
  unfold dropSession
  split
  · exact .releaseAll .refl _
  · exact .refl

theorem step_keepsAbreast (script : Script) (peers : Descriptor → Except Errno Peer) (config : Config)
    (c : Course Ledger) (log : List Event) (next : Step) :
    KeepsAbreast script peers c log (c.step script.platform config next)
      ((c.withLog log).step (script.withPeers peers).platform config next) := by
  cases next with
  | run => exact keepsAbreast_perform .refl (abreast_run script peers config)
  | establishAt i =>
    simp only [step, dropSession_withLog]
    exact keepsAbreast_perform (dropSession_parted c log i) (abreast_establish script peers config)
  | publishAt i =>
    simp only [step, withLog_holdings]
    cases c.holdings.session? i with
    | some session => exact keepsAbreast_perform .refl (abreast_announce script peers _ _ _)
    | none => exact keepsAbreast_notHeld
  | serveAt i =>
    simp only [step, withLog_holdings]
    cases c.holdings.session? i with
    | some session => exact keepsAbreast_perform (d := ⟨_, c.state⟩) .refl (abreast_serveOnce script peers _ _ _)
    | none => exact keepsAbreast_notHeld
  | discardAt i =>
    simp only [step, dropSession_withLog]
    exact ⟨log, rfl, dropSession_parted c log i⟩
  | create => exact keepsAbreast_perform .refl (abreast_createDirectory script peers config)
  | listen i name =>
    simp only [step, withLog_holdings]
    cases c.holdings.directory? i with
    | some dir => exact keepsAbreast_perform .refl (abreast_listen script peers dir name)
    | none => exact keepsAbreast_notHeld
  | announce i j k =>
    simp only [step, withLog_holdings]
    cases c.holdings.triple? i j k with
    | some triple => exact keepsAbreast_perform .refl (abreast_announce script peers _ _ _)
    | none => exact keepsAbreast_notHeld
  | serveOnce i j k =>
    simp only [step, withLog_holdings]
    cases c.holdings.triple? i j k with
    | some triple => exact keepsAbreast_perform (d := ⟨_, c.state⟩) .refl (abreast_serveOnce script peers _ _ _)
    | none => exact keepsAbreast_notHeld
  | dropDirectory i =>
    simp only [step, withLog_holdings]
    cases c.holdings.directory? i with
    | some dir => exact keepsAbreast_releasing
    | none => exact keepsAbreast_notHeld
  | dropSocket i =>
    simp only [step, withLog_holdings]
    cases c.holdings.socket? i with
    | some listener => exact keepsAbreast_releasing
    | none => exact keepsAbreast_notHeld

theorem follow_withPeers (script : Script) (peers : Descriptor → Except Errno Peer) (moves : List (Config × Step)) :
    ∃ log, start.follow (script.withPeers peers).platform moves = (start.follow script.platform moves).withLog log ∧
      SameButPeers (peerEvent script) (peerEvent (script.withPeers peers))
        (History.accepted (start.follow script.platform moves).state.history)
        (start.follow script.platform moves).state.events log := by
  induction moves using List.reverseRecOn with
  | nil => exact ⟨[], rfl, .nil⟩
  | append_singleton moves move ih =>
    obtain ⟨log, hfollow, hlog⟩ := ih
    obtain ⟨log', hstep, block, events, told, hh, he, rfl, -, hs⟩ :=
      step_keepsAbreast script peers move.1 (start.follow script.platform moves) log move.2
    refine ⟨log ++ told, ?_, ?_⟩
    · rw [follow_snoc, follow_snoc, hfollow, hstep]
    · rw [follow_snoc, hh, he, History.accepted, List.filterMap_append]
      exact hlog.append hs

/-- What is known of the peers reaches nothing but the log. After any steps, whatever has failed in them, a platform that
tells other peers has been asked the same calls with the same answers and holds the same; its next step has the same
reply, is recorded in the same way and leaves the same handles open. The logs differ in one line for each consumer that
has come in, of whom there is at most one in a step, directly behind the line that says so; where one platform knows the
peer and the other does not, one line has the peer and the other the reason, at a level that is shown less often. -/
theorem peers_are_for_the_record (script : Script) (peers : Descriptor → Except Errno Peer)
    (moves : List (Config × Step)) (config : Config) (next : Step) :
    let other := script.withPeers peers
    let c := start.follow script.platform moves
    let d := start.follow other.platform moves
    let first := c.step script.platform config next
    let second := d.step other.platform config next
    (d.state.history = c.state.history ∧ d.state.live = c.state.live ∧ d.holdings = c.holdings ∧
      SameButPeers (peerEvent script) (peerEvent other) (History.accepted c.state.history) c.state.events d.state.events) ∧
      second.1 = first.1 ∧ second.2.holdings = first.2.holdings ∧ second.2.state.live = first.2.state.live ∧
      (∃ block events told, first.2.state.history = c.state.history ++ block ∧
        second.2.state.history = d.state.history ++ block ∧ first.2.state.events = c.state.events ++ events ∧
        second.2.state.events = d.state.events ++ told ∧ (History.accepted block).length ≤ 1 ∧
        SameButPeers (peerEvent script) (peerEvent other) (History.accepted block) events told) ∧
      ∀ conn peer cause, script.peer conn = .ok peer → peers conn = .error cause →
        peerEvent script conn = .connected conn peer ∧ (peerEvent script conn).level = .info ∧
          peerEvent other conn = .peerUnknown conn cause ∧ (peerEvent other conn).level = .debug := by
  intro other c d first second
  obtain ⟨log, hd, hlog⟩ := follow_withPeers script peers moves
  obtain ⟨log', hsecond, block, events, told, hh, he, rfl, hle, hs⟩ :=
    step_keepsAbreast script peers config c log next
  have hd : d = c.withLog log := hd
  have hsecond : second = (first.1, first.2.withLog (log ++ told)) := by
    change d.step other.platform config next = _
    rw [hd, hsecond]
  refine ⟨?_, ?_, ?_, ?_, ⟨block, events, told, hh, ?_, he, ?_, hle, hs⟩, fun conn peer cause hp hc => ?_⟩
  · rw [hd]
    exact ⟨rfl, rfl, rfl, hlog⟩
  · rw [hsecond]
  · rw [hsecond, withLog_holdings]
  · rw [hsecond]
    rfl
  · rw [hsecond, hd]
    exact hh
  · rw [hsecond, hd]
    rfl
  · have hfirst : peerEvent script conn = .connected conn peer := by rw [peerEvent, hp]
    have hother : peerEvent other conn = .peerUnknown conn cause := by
      have hpeers : other.peer conn = .error cause := hc
      rw [peerEvent, hpeers]
    exact ⟨hfirst, hfirst ▸ rfl, hother, hother ▸ rfl⟩

end Course

end Handover
