import Handover.Proofs.Extension
import Handover.Program

/-! # Ways of driving a handover

A handover can be run at once, or by its phases with the session held in between, or by its parts with a directory and
two sockets held in between. Whoever drives it stops at the first failure and drops what is held then. On every platform
that leads to where a run leads, since what a run releases when one of its actions fails is what has been gathered up to
that action.
-/
namespace Handover

variable {σ α β : Type} {P : Platform σ}

/-- One step after the other up to the first failure; the last reply counts. -/
def Course.drive (P : Platform σ) (config : Config) (c : Course σ) (next : Step) :
    List Step → Except Error Reply × Course σ
  | [] => c.step P config next
  | following :: rest =>
    match c.step P config next with
    | (.ok _, c) => c.drive P config following rest
    | (.error e, c) => (.error e, c)

/-- Driving has ended like the action that does the whole, once what is still held is released in some order. -/
def EndsLike (P : Platform σ) (driven : Except Error Reply × Course σ) : EStateM.Result Error σ Transfer.State → Prop
  | .ok state s => driven.1 = .ok (.state state) ∧ driven.2.holdings.handles = [] ∧ driven.2.state = s
  | .error e s => driven.1 = .error e ∧
      ∃ order, order.Perm driven.2.holdings.handles ∧ P.releaseAll order driven.2.state = s

section Driving

variable {config : Config} {c : Course σ} {next following : Step} {rest : List Step}

/-- A step that performs one action of the whole; if that fails, the whole releases what is held. -/
theorem endsLike_step {action : Action σ α} {keep : α → Holdings × Reply} {handles : List Descriptor}
    {whole : α → Action σ Transfer.State} (hs : c.step P config next = c.perform action keep)
    (hp : handles.Perm c.holdings.handles)
    (hrest : ∀ a s, EndsLike P ((Course.mk (keep a).1 s).drive P config following rest) (whole a s)) :
    EndsLike P (c.drive P config next (following :: rest)) ((P.holding handles action >>= whole) c.state) := by
  rw [Course.drive, hs, Course.perform]
  simp only [Bind.bind, EStateM.bind]
  cases hr : action c.state with
  | ok a s =>
    rw [P.holding_ok hr]
    exact hrest a s
  | error e s =>
    rw [P.holding_error hr]
    exact ⟨rfl, handles, hp, rfl⟩

theorem endsLike_last {action : Action σ Transfer.State} {holdings : Holdings}
    (hs : c.step P config next = (Course.mk holdings c.state).perform action fun state => (holdings, .state state))
    (hh : holdings.handles = []) : EndsLike P (c.drive P config next []) (action c.state) := by
  rw [Course.drive, hs, Course.perform]
  simp only
  cases action c.state with
  | ok state s => exact ⟨rfl, hh, rfl⟩
  | error e s => exact ⟨rfl, [], hh ▸ List.Perm.refl _, rfl⟩

theorem drive_run (config : Config) (s : σ) :
    EndsLike P ((Course.mk Holdings.empty s).drive P config .run []) (P.run config s) :=
  endsLike_last rfl rfl

theorem drive_phases (config : Config) (s : σ) :
    EndsLike P ((Course.mk Holdings.empty s).drive P config .establish [.publish, .serve]) (P.run config s) := by
  have hrun : P.run config = P.holding [] (P.establish config) >>= fun session =>
      P.holding session.handles (P.publish session) >>= fun _ => P.serve session := by
    rw [Platform.holding_nil]
    rfl
  rw [hrun]
  refine endsLike_step rfl (List.Perm.refl _) fun session s => ?_
  refine endsLike_step rfl ?_ fun announcement s => endsLike_last rfl rfl
  exact List.Perm.of_eq (List.append_nil session.handles).symm

theorem drive_parts (config : Config) (s : σ) :
    EndsLike P ((Course.mk Holdings.empty s).drive P config .create
      [.listen 0 dataName, .listen 0 passName, .announce 0 0 1, .serveOnce 0 0 1]) (P.run config s) := by
  have hrun : P.run config = P.holding [] (P.createDirectory config) >>= fun dir =>
      P.holding [dir.handle] (P.listen dir dataName) >>= fun data =>
      P.holding [data.handle, dir.handle] (P.listen dir passName) >>= fun pass =>
      P.holding [dir.handle, data.handle, pass.handle] (P.announce dir data pass) >>= fun _ =>
      P.serveOnce dir data pass := by
    simp only [Platform.holding_nil, Platform.run, Platform.establish, bind_assoc, pure_bind]
    rfl
  rw [hrun]
  refine endsLike_step rfl (List.Perm.refl _) fun dir s => ?_
  refine endsLike_step rfl (List.Perm.refl _) fun data s => ?_
  refine endsLike_step rfl (List.Perm.swap _ _ _) fun pass s => ?_
  exact endsLike_step rfl (List.Perm.refl _) fun announcement s => endsLike_last rfl rfl

end Driving

/-! ## The program -/

namespace Program

/-- A phase ends like an action: with the same value, or with a report of the same error. -/
def Reports : EStateM.Result Error σ α → EStateM.Result Report σ α → Prop
  | .ok a s, .ok b t => b = a ∧ t = s
  | .error e s, .error r t => (∃ context, r = Report.ofError context e) ∧ t = s
  | _, _ => False

theorem phase_reports (context : String) (action : Action σ α) (s : σ) :
    Reports (action s) (phase context action s) := by
  unfold phase
  cases action s with
  | ok a t => exact ⟨rfl, rfl⟩
  | error e t => exact ⟨⟨context, rfl⟩, rfl⟩

theorem Reports.bind {action : Action σ α} {part : Phase σ α} {next : α → Action σ β} {nextPart : α → Phase σ β} {s : σ}
    (hp : Reports (action s) (part s)) (hn : ∀ a t, Reports (next a t) (nextPart a t)) :
    Reports ((action >>= next) s) ((part >>= nextPart) s) := by
  simp only [Bind.bind, EStateM.bind]
  cases ha : action s with
  | ok a t =>
    cases hr : part s with
    | ok b u =>
      rw [ha, hr] at hp
      obtain ⟨rfl, rfl⟩ := hp
      exact hn b u
    | error r u =>
      rw [ha, hr] at hp
      exact hp.elim
  | error e t =>
    cases hr : part s with
    | ok b u =>
      rw [ha, hr] at hp
      exact hp.elim
    | error r u =>
      rw [ha, hr] at hp
      exact hp

def handOver (P : Platform σ) (config : Config) : Phase σ Transfer.State := do
  let session ← phase "Failed to set up private directory and listeners" (P.establish config)
  let _ ← phase "Failed to publish socket paths" (P.holding session.handles (P.publish session))
  finish P session

theorem handOver_reports (config : Config) (s : σ) : Reports (P.run config s) (handOver P config s) := by
  refine Reports.bind (phase_reports _ _ s) fun session t => ?_
  exact Reports.bind (phase_reports _ _ t) fun _ u => phase_reports _ _ u

/-- What the program notes before it asks for anything. -/
def openingNotes (e : Environment) (config : Config) : List Event :=
  (if (Config.select e).1.isAbsolute then [] else [.anchoring (Config.select e).1]) ++
    [.starting config.baseDir config.source]

theorem run_eq_handOver {e : Environment} {currentDir : Except IoError Path} {config : Config}
    (hc : Config.resolve e currentDir = .ok config) (s : σ) : Program.run P e currentDir s =
      handOver P config ((openingNotes e config).foldl (fun s event => P.note event s) s) := by
  have hrun : Program.run P e currentDir = phase "Failed to resolve base directory" (resolve P e currentDir) >>=
      fun config => phase "Failed to resolve base directory" (P.log (.starting config.baseDir config.source)) >>=
      fun _ => handOver P config := by
    simp only [Program.run, start, handOver, bind_assoc, pure_bind]
  rw [hrun, openingNotes]
  simp only [Bind.bind, EStateM.bind, phase, resolve, hc]
  cases (Config.select e).1.isAbsolute <;> rfl

end Program

/-! ## Calls and open handles -/

namespace Ledger

variable {script : Script}

theorem calls_releaseAll (l : Ledger) (handles : List Descriptor) :
    (script.platform.releaseAll handles l).calls = l.calls := by
  rw [calls, history_releaseAll, List.filterMap_append, calls_drops, List.append_nil]
  rfl

theorem live_releaseAll (l : Ledger) (handles : List Descriptor) :
    (script.platform.releaseAll handles l).live = l.live.filter (· ∉ handles) := by
  induction handles generalizing l with
  | nil => simp
  | cons handle handles ih =>
    have hone : (script.platform.release handle l).live = l.live.filter (· ≠ handle) := rfl
    rw [Platform.releaseAll_cons, ih, hone, List.filter_filter]
    refine List.filter_congr fun h _ => ?_
    simp [Bool.and_comm]

theorem live_releaseAll_perm {order others : List Descriptor} (hp : order.Perm others) (l : Ledger) :
    (script.platform.releaseAll order l).live = (script.platform.releaseAll others l).live := by
  rw [live_releaseAll, live_releaseAll]
  refine List.filter_congr fun h _ => ?_
  simp only [hp.mem_iff]

theorem foldl_note (script : Script) (l : Ledger) (events : List Event) :
    events.foldl (fun l event => script.platform.note event l) l = { l with events := l.events ++ events } := by
  induction events generalizing l with
  | nil => simp
  | cons event events ih =>
    rw [List.foldl_cons, ih]
    simp [Script.platform, note]

end Ledger

/-- `driven` has ended like `whole`: with the same reply, after the same calls, and with the same handles open once what
it still holds is dropped, in whatever order; in one order everything else is the same too. -/
structure SameEnd (script : Script) (driven whole : Except Error Reply × Course Ledger) : Prop where
  reply : driven.1 = whole.1
  calls : driven.2.state.calls = whole.2.state.calls
  live : ∀ order, order.Perm driven.2.holdings.handles →
    (script.platform.releaseAll order driven.2.state).live = whole.2.state.live
  state : ∃ order, order.Perm driven.2.holdings.handles ∧
    script.platform.releaseAll order driven.2.state = whole.2.state

theorem sameEnd_of_endsLike {script : Script} {driven whole : Except Error Reply × Course Ledger}
    {result : EStateM.Result Error Ledger Transfer.State} (hd : EndsLike script.platform driven result)
    (hw : EndsLike script.platform whole result) (hh : whole.2.holdings.handles = []) :
    SameEnd script driven whole := by
  have hstate : driven.1 = whole.1 ∧ ∃ order, order.Perm driven.2.holdings.handles ∧
      script.platform.releaseAll order driven.2.state = whole.2.state := by
    cases result with
    | ok state l =>
      obtain ⟨hreply, hnone, hl⟩ := hd
      exact ⟨hreply.trans hw.1.symm, [], hnone ▸ List.Perm.refl _, hl.trans hw.2.2.symm⟩
    | error e l =>
      obtain ⟨hreply, order, hp, hl⟩ := hd
      obtain ⟨hwreply, worder, hwp, hwl⟩ := hw
      obtain rfl : worder = [] := List.perm_nil.mp (hh ▸ hwp)
      exact ⟨hreply.trans hwreply.symm, order, hp, hl.trans hwl.symm⟩
  obtain ⟨hreply, order, hp, hl⟩ := hstate
  refine ⟨hreply, ?_, fun other ho => ?_, order, hp, hl⟩
  · rw [← hl, Ledger.calls_releaseAll]
  · rw [Ledger.live_releaseAll_perm (ho.trans hp.symm), hl]

/-- However a handover is driven, at once, by its phases or by its parts, stopping at the first failure, the platform has
been asked the same with the same result, and the same handles are open once what is still held has been dropped. The
program is a run too, on a platform that has taken its first notes. -/
theorem a_handover_is_driven_one_way_or_another (script : Script) (config : Config) (l : Ledger) :
    let P := script.platform
    let c : Course Ledger := ⟨Holdings.empty, l⟩
    let whole := c.step P config .run
    EndsLike P whole (P.run config l) ∧ whole.2.holdings = Holdings.empty ∧
      SameEnd script (c.drive P config .establish [.publish, .serve]) whole ∧
      SameEnd script (c.drive P config .create
        [.listen 0 dataName, .listen 0 passName, .announce 0 0 1, .serveOnce 0 0 1]) whole ∧
      ∀ e currentDir, Config.resolve e currentDir = .ok config →
        Program.Reports (P.run config { l with events := l.events ++ Program.openingNotes e config })
          (Program.run P e currentDir l) := by
  intro P c whole
  have hw : EndsLike P whole (P.run config l) := drive_run config l
  have hheld : whole.2.holdings = Holdings.empty := Course.perform_holdings fun _ => rfl
  have hnone : whole.2.holdings.handles = [] := congrArg Holdings.handles hheld
  refine ⟨hw, hheld, sameEnd_of_endsLike (drive_phases config l) hw hnone,
    sameEnd_of_endsLike (drive_parts config l) hw hnone, fun e currentDir hc => ?_⟩
  rw [Program.run_eq_handOver hc, ← Ledger.foldl_note script]
  exact Program.handOver_reports config _

end Handover
