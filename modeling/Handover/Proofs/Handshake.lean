import Handover.Proofs.Attempt
import Handover.Proofs.Custody

/-! # The calls of a whole handover

Each operation of a handover follows a plan of its own, and a run follows the plans of its parts one after another, with
the handles that the platform is about to hand out filled in. Only a directory that cannot be announced ends a run
without a failing call: there the plan breaks off before the announcement.
-/
namespace Handover

/-- Makes a private directory, opens it as `dir` and listens on its two sockets as `data` and `pass`. -/
def settingUp (config : Config) (path : Path) (dir data pass : Descriptor) : List Exchange :=
  [(.makeDirectory config.template, .made path),
    (.openDirectory path, .issued dir),
    (.listen dir "data" (Path.ofString ("/proc/self/fd/" ++ Text.decimal dir ++ "/" ++ "data")), .issued data),
    (.listen dir "pass" (Path.ofString ("/proc/self/fd/" ++ Text.decimal dir ++ "/" ++ "pass")), .issued pass)]

/-- Accepts `conn` on `pass`, removes the entry `name` of the closed `pass` from `dir`, and sends `data`. -/
def handingOver (name : String) (dir data pass conn : Descriptor) : List Exchange :=
  [(.accept pass, .issued conn),
    (.close "passsock" pass, .finished),
    (.unlink dir name, .finished),
    (.send conn data, .finished),
    (.close "connsock" conn, .finished),
    (.close "datasock" data, .finished),
    (.close "dirfd" dir, .finished)]

def Script.place (script : Script) (config : Config) (l : Ledger) : Path := script.directory l.history config.template

def Script.session (script : Script) (config : Config) (l : Ledger) : Session where
  directory := ⟨script.place config l, l.next⟩
  data := ⟨dataName, (script.place config l).join (Bytes.ofString dataName), l.next + 1⟩
  pass := ⟨passName, (script.place config l).join (Bytes.ofString passName), l.next + 2⟩

/-- The twelve calls of a handover. -/
def handshake (config : Config) (path : Path) (dir data pass conn : Descriptor) : List Exchange :=
  settingUp config path dir data pass ++ (.publish (Announcement.layout path), .finished) ::
    handingOver "pass" dir data pass conn

section Plans

variable {script : Script}

theorem createDirectory_follows (config : Config) (l : Ledger) :
    Follows (script.platform.createDirectory config) l
      [(.makeDirectory config.template, .made (script.place config l)),
        (.openDirectory (script.place config l), .issued l.next)]
      ⟨script.place config l, l.next⟩ := by
  refine Follows.log_bind ?_
  refine Follows.cons Follows.perform fun l' hl' => ?_
  have hn : l'.next = l.next := hl'.trans (add_zero _)
  rw [← hn]
  refine Follows.cons Follows.perform fun l'' _ => ?_
  exact Follows.log_bind Follows.pure

theorem listen_follows (dir : PrivateDirectory) (name : String) (l : Ledger) :
    Follows (script.platform.listen dir name) l
      [(.listen dir.handle name (socketAddress dir.handle name), .issued l.next)]
      ⟨name, dir.path.join (Bytes.ofString name), l.next⟩ := by
  refine Follows.cons Follows.perform fun l' _ => ?_
  exact Follows.log_bind Follows.pure

theorem announce_follows {dir : PrivateDirectory} (data pass : Listener) (l : Ledger)
    (hd : Bytes.newline ∉ dir.path.bytes) :
    Follows (script.platform.announce dir data pass) l [(.publish (Announcement.layout dir.path), .finished)]
      (Announcement.layout dir.path) := by
  have ho : Announcement.ofDirectory dir.path = .ok (Announcement.layout dir.path) :=
    Announcement.ofDirectory_eq_ok_iff.mpr ⟨hd, rfl⟩
  unfold Platform.announce
  rw [ho]
  refine Follows.ofExcept_bind ?_
  refine Follows.cons Follows.perform fun l' _ => ?_
  exact Follows.log_bind Follows.pure

theorem announce_unannounceable {σ : Type} {P : Platform σ} {dir : PrivateDirectory} (data pass : Listener) (s : σ)
    (hd : Bytes.newline ∈ dir.path.bytes) : P.announce dir data pass s = .error (.unannounceablePath dir.path) s := by
  have ho : Announcement.ofDirectory dir.path = .error (.unannounceablePath dir.path) :=
    Announcement.ofDirectory_eq_error_iff.mpr ⟨hd, rfl⟩
  unfold Platform.announce
  rw [ho]
  rfl

theorem serveOnce_follows (dir : PrivateDirectory) (data pass : Listener) (l : Ledger) :
    Follows (script.platform.serveOnce dir data pass) l
      (handingOver pass.name dir.handle data.handle pass.handle l.next) .closed := by
  refine Follows.log_bind ?_
  refine Follows.cons (Follows.holding Follows.perform) fun _ _ => ?_
  refine Follows.advance_bind (Follows.logPeer_bind fun _ => ?_)
  refine Follows.cons (Follows.holding Follows.perform) fun _ _ => ?_
  refine Follows.cons (Follows.holding Follows.perform) fun _ _ => Follows.advance_bind ?_
  refine Follows.cons (Follows.holding Follows.perform) fun _ _ => Follows.advance_bind ?_
  refine Follows.cons (Follows.holding Follows.perform) fun _ _ => ?_
  refine Follows.cons (Follows.holding Follows.perform) fun _ _ => ?_
  refine Follows.cons Follows.perform fun _ _ => ?_
  exact Follows.advance_bind (Follows.log_bind Follows.pure)

theorem establish_follows (config : Config) (l : Ledger) :
    Follows (script.platform.establish config) l
      (settingUp config (script.place config l) l.next (l.next + 1) (l.next + 2))
      (script.session config l) := by
  refine Follows.bind (createDirectory_follows config l) fun l' hl' => ?_
  have hdata : l'.next = l.next + 1 := hl'
  unfold Script.session
  rw [← hdata]
  refine Follows.cons (Follows.holding (listen_follows _ dataName l')) fun l'' hl'' => ?_
  have hpass : l''.next = l.next + 2 := by
    have hone : l''.next = l'.next + 1 := hl''
    rw [hone, hdata, add_assoc]
    rfl
  rw [← hpass]
  exact Follows.cons (Follows.holding (listen_follows _ passName l'')) fun _ _ => Follows.pure

theorem next_after_settingUp {config : Config} {path : Path} {dir data pass : Descriptor} {l l' : Ledger}
    (h : l'.next = l.next + issues (settingUp config path dir data pass)) : l'.next = l.next + 3 := h

theorem run_follows (config : Config) (l : Ledger) (hp : Bytes.newline ∉ (script.place config l).bytes) :
    Follows (script.platform.run config) l
      (handshake config (script.place config l) l.next (l.next + 1) (l.next + 2) (l.next + 3)) .closed := by
  refine Follows.bind (establish_follows config l) fun l' hl' => ?_
  refine Follows.cons (Follows.holding (announce_follows _ _ l' hp)) fun l'' hl'' => ?_
  have hconn : l''.next = l.next + 3 := (hl''.trans (add_zero _)).trans (next_after_settingUp hl')
  rw [← hconn]
  exact serveOnce_follows _ _ _ l''

/-- In a directory that cannot be announced a run goes as far as its two sockets. -/
theorem run_unannounceable (config : Config) (l : Ledger) (hp : Bytes.newline ∈ (script.place config l).bytes) :
    ∃ (l' : Ledger) (records : List Record) (drops : List Descriptor) (stop : Option Failure),
      Attempted (settingUp config (script.place config l) l.next (l.next + 1) (l.next + 2)) records stop ∧
      l'.history = l.history ++ (records ++ drops.map Record.release) ∧
      script.platform.run config l =
        .error (stop.elim (.unannounceablePath (script.place config l)) Failure.error) l' := by
  have he : Follows (script.platform.establish config) l _ (script.session config l) := establish_follows config l
  cases he with
  | stopped drops result attempt history =>
    rename_i l' failed records
    refine ⟨l', records, drops, some failed, attempt, history, ?_⟩
    simp only [Platform.run, Bind.bind, EStateM.bind, result, Option.elim_some]
  | completed result attempt history hnext =>
    rename_i l' records
    have hpublish : script.platform.publish (script.session config l) l' =
        .error (.unannounceablePath (script.place config l)) l' := announce_unannounceable _ _ l' hp
    refine ⟨script.platform.releaseAll (script.session config l).handles l', records, (script.session config l).handles,
      none, attempt, ?_, ?_⟩
    · rw [Ledger.history_releaseAll, history, List.append_assoc]
    · simp only [Platform.run, Bind.bind, EStateM.bind, result, Option.elim_none]
      rw [Platform.holding_error _ hpublish]

theorem run_live {config : Config} {l l' : Ledger} (hl : l.Sound)
    (hr : (∃ state, script.platform.run config l = .ok state l') ∨ ∃ e, script.platform.run config l = .error e l') :
    l'.Holds l.live := by
  have hh : l.Holds ([] ++ l.live) := ⟨hl, List.Perm.refl _⟩
  rcases hr with ⟨state, hr⟩ | ⟨e, hr⟩
  · exact (owns_run config).of_ok hh hr
  · exact (owns_run config).of_error hh hr

theorem issued_not_mem_live {l l' : Ledger} {records later : List Record} (hl : l.Sound) (hl' : l'.Holds l.live)
    (hh : l'.history = l.history ++ (records ++ later)) : ∀ h ∈ History.issued records, h ∉ l'.live := by
  intro h hm hlive
  have hn := hl'.sound.orderly.balanced.issued_nodup
  rw [hh, History.issued_append, History.issued_append, List.nodup_append] at hn
  have hold : h ∈ History.issued l.history := hl.live_subset_issued (hl'.live_perm.mem_iff.mp hlive)
  exact hn.2.2 h hold h (List.mem_append_left _ hm) rfl

end Plans

/-- On a platform with any past, a run makes the calls of the handshake up to the first one that fails, whose error it
returns, or all twelve; in a directory that cannot be announced it makes at most the first four and says so. It leaves
open what was open before, and nothing that it was handed itself. -/
theorem run_keeps_to_the_handshake (script : Script) (config : Config) (moves : List (Config × Step)) :
    let l := (Course.start.follow script.platform moves).state
    let path := script.place config l
    let plan := handshake config path l.next (l.next + 1) (l.next + 2) (l.next + 3)
    ∃ (l' : Ledger) (records : List Record) (drops : List Descriptor),
      l'.history = l.history ++ (records ++ drops.map Record.release) ∧
      records.filterMap Record.call? <+: plan.map Prod.fst ∧
      l'.live.Perm l.live ∧ (∀ h ∈ History.issued records, h ∉ l'.live) ∧
      (Bytes.newline ∉ path.bytes →
        (Attempted plan records none ∧ drops = [] ∧ script.platform.run config l = .ok .closed l') ∨
        ∃ failed, Attempted plan records (some failed) ∧ script.platform.run config l = .error failed.error l') ∧
      (Bytes.newline ∈ path.bytes →
        (Attempted (plan.take 4) records none ∧ script.platform.run config l = .error (.unannounceablePath path) l') ∨
        ∃ failed, Attempted (plan.take 4) records (some failed) ∧
          script.platform.run config l = .error failed.error l') := by
  intro l path plan
  have hl : l.Sound := (Course.follow_owned script moves).sound
  by_cases hp : Bytes.newline ∈ path.bytes
  · obtain ⟨l', records, drops, stop, attempt, history, result⟩ := run_unannounceable config l hp
    have hlive : l'.Holds l.live := run_live hl (Or.inr ⟨_, result⟩)
    have hcalls : records.filterMap Record.call? <+: plan.map Prod.fst :=
      attempt.calls_prefix.trans ((List.take_prefix 4 plan).map Prod.fst)
    refine ⟨l', records, drops, history, hcalls, hlive.live_perm, issued_not_mem_live hl hlive history,
      fun hn => absurd hp hn, fun _ => ?_⟩
    cases stop with
    | none => exact Or.inl ⟨attempt, result⟩
    | some failed => exact Or.inr ⟨failed, attempt, result⟩
  · cases run_follows config l hp with
    | completed result attempt history hnext =>
      rename_i l' records
      have hlive : l'.Holds l.live := run_live hl (Or.inl ⟨_, result⟩)
      have hh : l'.history = l.history ++ (records ++ []) := by rw [history, List.append_nil]
      exact ⟨l', records, [], hh, attempt.calls_prefix, hlive.live_perm, issued_not_mem_live hl hlive hh,
        fun _ => Or.inl ⟨attempt, rfl, result⟩, fun hn => absurd hn hp⟩
    | stopped drops result attempt history =>
      rename_i l' failed records
      have hlive : l'.Holds l.live := run_live hl (Or.inr ⟨_, result⟩)
      exact ⟨l', records, drops, history, attempt.calls_prefix, hlive.live_perm,
        issued_not_mem_live hl hlive history, fun _ => Or.inr ⟨failed, attempt, result⟩, fun hn => absurd hn hp⟩

end Handover
