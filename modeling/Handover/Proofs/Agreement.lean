import Handover.Proofs.Base
import Handover.Proofs.Codec
import Handover.Proofs.Handshake

/-! # Helper and consumer agree

What a session announces is computed from the path of its directory, and so are the paths of its listeners, so the two
never differ, on any platform. The consumer accepts what it is told exactly if that path is absolute, which it is when
the directory is made from the template of a resolved base. Only a newline in the base stands in the way of that: there
is nothing to announce then, and the session is as it was before.
-/
namespace Handover

open Bytes (newline ofString)

section Establishing

variable {σ α : Type} {P : Platform σ} {s t : σ}

theorem Platform.ok_of_holding {handles : List Descriptor} {action : Action σ α} {a : α}
    (h : P.holding handles action s = .ok a t) : action s = .ok a t := by
  unfold Platform.holding at h
  cases ha : action s with
  | ok b u => simpa [ha] using h
  | error e u => simp [ha] at h

theorem createDirectory_path {config : Config} {dir : PrivateDirectory} (h : P.createDirectory config s = .ok dir t) :
    ∃ u, P.perform (.makeDirectory config.template) (P.note (.creating config.template config.source) s) =
      .ok dir.path u := by
  obtain ⟨_, _, hlog, h⟩ := Action.ok_of_bind h
  obtain ⟨-, rfl⟩ := EStateM.Result.ok.inj hlog
  obtain ⟨path, u, hmade, h⟩ := Action.ok_of_bind h
  obtain ⟨handle, _, -, h⟩ := Action.ok_of_bind h
  obtain ⟨_, _, -, h⟩ := Action.ok_of_bind h
  obtain ⟨rfl, -⟩ := EStateM.Result.ok.inj h
  exact ⟨u, hmade⟩

theorem listen_path {dir : PrivateDirectory} {name : String} {listener : Listener}
    (h : P.listen dir name s = .ok listener t) : listener.path = dir.path.join (ofString name) := by
  obtain ⟨handle, _, -, h⟩ := Action.ok_of_bind h
  obtain ⟨_, _, -, h⟩ := Action.ok_of_bind h
  obtain ⟨rfl, -⟩ := EStateM.Result.ok.inj h
  rfl

/-- A session that is established has the directory that was made for it, and its listeners where this directory is
announced to have its sockets. -/
theorem establish_paths {config : Config} {session : Session} (h : P.establish config s = .ok session t) :
    (∃ u, P.perform (.makeDirectory config.template) (P.note (.creating config.template config.source) s) =
      .ok session.directory.path u) ∧
      session.data.path = (Announcement.layout session.directory.path).dataSocket ∧
      session.pass.path = (Announcement.layout session.directory.path).passSocket := by
  obtain ⟨dir, _, hdir, h⟩ := Action.ok_of_bind h
  obtain ⟨data, _, hdata, h⟩ := Action.ok_of_bind h
  obtain ⟨pass, _, hpass, h⟩ := Action.ok_of_bind h
  obtain ⟨rfl, -⟩ := EStateM.Result.ok.inj h
  exact ⟨createDirectory_path hdir, listen_path (Platform.ok_of_holding hdata),
    listen_path (Platform.ok_of_holding hpass)⟩

end Establishing

section Publishing

variable {σ : Type} {P : Platform σ} {session : Session}

theorem publish_eq (hd : newline ∉ session.directory.path.bytes) :
    P.publish session = (do
      P.perform (.publish (Announcement.layout session.directory.path))
      P.log (.announced session.directory.path session.data.name session.pass.name)
      return Announcement.layout session.directory.path) := by
  have ho : Announcement.ofDirectory session.directory.path = .ok (Announcement.layout session.directory.path) :=
    Announcement.ofDirectory_eq_ok_iff.mpr ⟨hd, rfl⟩
  unfold Platform.publish Platform.announce
  rw [ho]
  rfl

end Publishing

theorem handles_live_of_establish {script : Script} {config : Config} {l l' : Ledger} {session : Session}
    (hl : l.Sound) (h : script.platform.establish config l = .ok session l') :
    session.handles.Nodup ∧ ∀ handle ∈ session.handles, handle ∈ l'.live := by
  have hheld : l.Holds ([] ++ l.live) := ⟨hl, List.Perm.refl _⟩
  have hholds := (owns_establish config).of_ok hheld h
  refine ⟨(List.nodup_append.mp hholds.nodup).1, fun handle hm => ?_⟩
  exact hholds.live_perm.mem_iff.mpr (List.mem_append_left _ hm)

/-- Under a resolved base, on any platform, a session announces the paths of its own listeners. Whoever has room for the
announcement gets it whole, and the consumer reads it from what was written exactly if the directory is absolute. A
directory made from the template is, whatever takes the place of its last six bytes, so the consumer reads it unless the
base has a newline. Then the session refuses to publish, without a call, and its three handles are open and serve as
before. -/
theorem consumer_reads_what_the_helper_publishes {e : Environment} {currentDir : Except IoError Path} {config : Config}
    (hdir : ∀ d, currentDir = .ok d → d.isAbsolute = true) (hconfig : Config.resolve e currentDir = .ok config) :
    (∀ {σ : Type} (P : Platform σ) (s t : σ) (session : Session), P.establish config s = .ok session t →
      let path := session.directory.path
      let a := Announcement.layout path
      (∃ u, P.perform (.makeDirectory config.template) (P.note (.creating config.template config.source) s) =
        .ok path u) ∧
      a.dataSocket.bytes = session.data.path.bytes ∧ a.passSocket.bytes = session.pass.path.bytes ∧
      (newline ∉ path.bytes →
        P.publish session = (do
          P.perform (.publish a)
          P.log (.announced path session.data.name session.pass.name)
          return a) ∧
        (∀ w : Writer, w.Willing → w.HasRoom a.wire.length → w.flushFailure = none → (a.writeTo w).1 = .ok ()) ∧
        (∀ w : Writer, (a.writeTo w).1 = .ok () → ∃ sent, (a.writeTo w).2.written = w.written ++ sent ∧ sent = a.wire ∧
          ((∃ b, Announcement.ofBytes sent = .ok b) ↔ path.isAbsolute = true) ∧
          ∀ b, Announcement.ofBytes sent = .ok b → b = a) ∧
        ((∃ b, Announcement.ofBytes a.wire = .ok b) ↔ path.isAbsolute = true) ∧
        ∀ b, Announcement.ofBytes a.wire = .ok b → b = a) ∧
      ∀ six : Bytes, newline ∉ six →
        path.bytes = config.template.bytes.take (config.template.bytes.length - 6) ++ six →
        path.isAbsolute = true ∧
        (newline ∉ config.baseDir.bytes → newline ∉ path.bytes ∧ Announcement.ofBytes a.wire = .ok a) ∧
        (newline ∈ config.baseDir.bytes → ∀ u, P.publish session u = .error (.unannounceablePath path) u)) ∧
      ∀ (script : Script) (moves : List (Config × Step)) (session : Session) (l : Ledger),
        script.platform.establish config (Course.start.follow script.platform moves).state = .ok session l →
        newline ∈ session.directory.path.bytes →
        script.platform.publish session l = .error (.unannounceablePath session.directory.path) l ∧
        session.handles.Nodup ∧ (∀ handle ∈ session.handles, handle ∈ l.live) ∧
        Follows (script.platform.serve session) l
          (handingOver session.pass.name session.directory.handle session.data.handle session.pass.handle l.next)
          .closed := by
  constructor
  · intro σ P s t session h path a
    obtain ⟨hmade, hdata, hpass⟩ := establish_paths h
    refine ⟨hmade, congrArg Path.bytes hdata.symm, congrArg Path.bytes hpass.symm, fun hn => ?_, ?_⟩
    · have hiff := (Announcement.ofBytes_wire_isOk_iff hn).trans Path.isAbsolute_iff.symm
      have hsame : ∀ b, Announcement.ofBytes a.wire = .ok b → b = a := fun b hb =>
        Except.ok.inj (hb.symm.trans (Announcement.ofBytes_wire hn (Path.isAbsolute_iff.mp (hiff.mp ⟨b, hb⟩))))
      exact ⟨publish_eq hn, fun w => Announcement.writeTo_of_room a,
        fun w hw => ⟨a.wire, Announcement.written_of_writeTo hw, rfl, hiff, hsame⟩, hiff, hsame⟩
    · intro six hsix hp
      have habs := Config.isAbsolute_of_template (Config.isAbsolute_baseDir hdir hconfig) hp
      have hmem := Config.newline_mem_of_template hsix hp
      refine ⟨habs, fun hbase => ?_, fun hbase u => announce_unannounceable _ _ u (hmem.mpr hbase)⟩
      have hn : newline ∉ path.bytes := fun hm => hbase (hmem.mp hm)
      exact ⟨hn, Announcement.ofBytes_wire hn (Path.isAbsolute_iff.mp habs)⟩
  · intro script moves session l h hn
    have hsound := (Course.follow_owned script moves).sound
    obtain ⟨hnodup, hlive⟩ := handles_live_of_establish hsound h
    exact ⟨announce_unannounceable _ _ l hn, hnodup, hlive, serveOnce_follows _ _ _ l⟩

/-- A runtime directory, and one whose name has a newline in it. -/
theorem consumer_reads_what_is_made_below_run :
    let script : Script :=
      ⟨fun _ template => ⟨template.bytes.take (template.bytes.length - 6) ++ ofString "fake00"⟩, fun _ _ => none,
        fun _ => .error Errno.notSocket⟩
    let environment (base : String) := Environment.empty.set runtimeDirVariable (ofString base)
    let config (base : String) : Config := ⟨Path.ofString base, .runtimeDir⟩
    let root : Except IoError Path := .ok (Path.ofString "/")
    (Config.resolve (environment "/run/7") root = .ok (config "/run/7") ∧
      ∃ session l, script.platform.establish (config "/run/7") Ledger.empty = .ok session l ∧
        Announcement.ofBytes (Announcement.layout session.directory.path).wire =
          .ok (Announcement.layout session.directory.path)) ∧
      Config.resolve (environment "/run\n") root = .ok (config "/run\n") ∧
      ∃ session l, script.platform.establish (config "/run\n") Ledger.empty = .ok session l ∧
        script.platform.publish session l = .error (.unannounceablePath session.directory.path) l ∧
        ∀ handle ∈ session.handles, handle ∈ l.live := by
  intro script environment config root
  have hroot : ∀ d, root = .ok d → d.isAbsolute = true := by
    intro d hd
    obtain rfl := Except.ok.inj hd
    decide
  have hplain : Config.resolve (environment "/run/7") root = .ok (config "/run/7") := by decide
  have hbroken : Config.resolve (environment "/run\n") root = .ok (config "/run\n") := by decide
  refine ⟨⟨hplain, script.session (config "/run/7") Ledger.empty, _, rfl, ?_⟩, hbroken,
    script.session (config "/run\n") Ledger.empty, _, rfl, ?_⟩
  · obtain ⟨hany, -⟩ := consumer_reads_what_the_helper_publishes hroot hplain
    obtain ⟨-, -, -, -, hmade⟩ := hany script.platform Ledger.empty _ _ rfl
    exact ((hmade (ofString "fake00") (by decide) rfl).2.1 (by decide)).2
  · obtain ⟨-, hscript⟩ := consumer_reads_what_the_helper_publishes hroot hbroken
    obtain ⟨hrefused, -, hlive, -⟩ := hscript script [] _ _ rfl (by decide)
    exact ⟨hrefused, hlive⟩

end Handover
