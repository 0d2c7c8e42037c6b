import Handover.Session

/-! # Holdings

What a caller of the library holds between two steps: sessions, directories and sockets, which are known by their
position and may be used up. A step on something that is not held does nothing; giving up a session that is not there is
no exception and is answered like any other.
-/
namespace Handover

structure Holdings where
  sessions : List (Option Session)
  directories : List (Option PrivateDirectory)
  sockets : List (Option Listener)
deriving DecidableEq, Repr

inductive Step where
  | run
  /-- Gives up the session in that place first. -/
  | establishAt (session : Nat)
  | publishAt (session : Nat)
  | serveAt (session : Nat)
  | discardAt (session : Nat)
  | create
  | listen (dir : Nat) (name : String)
  | announce (dir data pass : Nat)
  | serveOnce (dir data pass : Nat)
  | dropDirectory (dir : Nat)
  | dropSocket (sock : Nat)
deriving DecidableEq, Repr

/-! Whoever has one session at a time has it in the first place. -/

abbrev Step.establish : Step := .establishAt 0

abbrev Step.publish : Step := .publishAt 0

abbrev Step.serve : Step := .serveAt 0

abbrev Step.discard : Step := .discardAt 0

inductive Reply where
  | state (state : Transfer.State)
  | established (directory : Path)
  | announced (announcement : Announcement)
  | created (directory : PrivateDirectory)
  | listening (listener : Listener)
  | dropped
  | notHeld
deriving DecidableEq, Repr

namespace Holdings

def empty : Holdings := ⟨[], [], []⟩

def session? (h : Holdings) (i : Nat) : Option Session := (h.sessions[i]?).join

def directory? (h : Holdings) (i : Nat) : Option PrivateDirectory := (h.directories[i]?).join

def socket? (h : Holdings) (i : Nat) : Option Listener := (h.sockets[i]?).join

/-- A directory and two different sockets. -/
def triple? (h : Holdings) (dir data pass : Nat) : Option (PrivateDirectory × Listener × Listener) :=
  if data = pass then none
  else match h.directory? dir, h.socket? data, h.socket? pass with
    | some d, some a, some p => some (d, a, p)
    | _, _, _ => none

def takeSession (h : Holdings) (i : Nat) : Holdings := { h with sessions := h.sessions.set i none }

/-- There are as many places as are asked for. -/
def putSession (h : Holdings) (i : Nat) (s : Session) : Holdings :=
  { h with sessions := (h.sessions ++ List.replicate (i + 1 - h.sessions.length) none).set i (some s) }

def takeDirectory (h : Holdings) (i : Nat) : Holdings := { h with directories := h.directories.set i none }

def takeSocket (h : Holdings) (i : Nat) : Holdings := { h with sockets := h.sockets.set i none }

def handles (h : Holdings) : List Descriptor :=
  (h.sessions.filterMap id).flatMap Session.handles ++ (h.directories.filterMap id).map PrivateDirectory.handle ++
    (h.sockets.filterMap id).map Listener.handle

end Holdings

structure Course (σ : Type) where
  holdings : Holdings
  state : σ

namespace Course

variable {σ α : Type}

def perform (c : Course σ) (action : Action σ α) (keep : α → Holdings × Reply) : Except Error Reply × Course σ :=
  match action c.state with
  | .ok a s => (.ok (keep a).2, ⟨(keep a).1, s⟩)
  | .error e s => (.error e, ⟨c.holdings, s⟩)

def notHeld (c : Course σ) : Except Error Reply × Course σ := (.ok .notHeld, c)

def releasing (P : Platform σ) (c : Course σ) (holdings : Holdings) (handles : List Descriptor) : Course σ :=
  ⟨holdings, P.releaseAll handles c.state⟩

def dropSession (P : Platform σ) (c : Course σ) (i : Nat) : Course σ :=
  match c.holdings.session? i with
  | some session => releasing P c (c.holdings.takeSession i) session.handles
  | none => c

def step (P : Platform σ) (config : Config) (c : Course σ) : Step → Except Error Reply × Course σ
  | .run => c.perform (P.run config) fun state => (c.holdings, .state state)
  | .establishAt i =>
    let c := c.dropSession P i
    c.perform (P.establish config) fun session =>
      (c.holdings.putSession i session, .established session.directory.path)
  | .publishAt i => match c.holdings.session? i with
    | some session => c.perform (P.publish session) fun a => (c.holdings, .announced a)
    | none => c.notHeld
  | .serveAt i => match c.holdings.session? i with
    | some session =>
      let c := { c with holdings := c.holdings.takeSession i }
      c.perform (P.serve session) fun state => (c.holdings, .state state)
    | none => c.notHeld
  | .discardAt i => (.ok .dropped, c.dropSession P i)
  | .create => c.perform (P.createDirectory config) fun dir =>
      ({ c.holdings with directories := c.holdings.directories ++ [some dir] }, .created dir)
  | .listen i name => match c.holdings.directory? i with
    | some dir => c.perform (P.listen dir name) fun listener =>
        ({ c.holdings with sockets := c.holdings.sockets ++ [some listener] }, .listening listener)
    | none => c.notHeld
  | .announce i j k => match c.holdings.triple? i j k with
    | some (dir, data, pass) => c.perform (P.announce dir data pass) fun a => (c.holdings, .announced a)
    | none => c.notHeld
  | .serveOnce i j k => match c.holdings.triple? i j k with
    | some (dir, data, pass) =>
      let c := { c with holdings := ((c.holdings.takeDirectory i).takeSocket j).takeSocket k }
      c.perform (P.serveOnce dir data pass) fun state => (c.holdings, .state state)
    | none => c.notHeld
  | .dropDirectory i => match c.holdings.directory? i with
    | some dir => (.ok .dropped, releasing P c (c.holdings.takeDirectory i) [dir.handle])
    | none => c.notHeld
  | .dropSocket i => match c.holdings.socket? i with
    | some listener => (.ok .dropped, releasing P c (c.holdings.takeSocket i) [listener.handle])
    | none => c.notHeld

def steps (P : Platform σ) (config : Config) (c : Course σ) : List Step → List (Except Error Reply) × Course σ
  | [] => ([], c)
  | next :: rest =>
    let (reply, c) := c.step P config next
    let (replies, c) := c.steps P config rest
    (reply :: replies, c)

end Course

end Handover
