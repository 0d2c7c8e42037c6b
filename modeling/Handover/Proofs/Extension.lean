import Handover.Proofs.Block

/-! # How a step goes on

From one step to the next the history grows by a block: a transfer is the whole of a step that serves, comes at the end
of a run, and is in no other step. Along with it the listeners that are held stay known by their names.
-/
namespace Handover

/-- The names that the listener of a transfer can have in a step: one that belongs to a session is `pass`. -/
def Step.Transfers : Step → String → Prop
  | .run, name | .serveAt _, name => name = "pass"
  | .serveOnce _ _ _, _ => True
  | _, _ => False

namespace Course

variable {script : Script} {α : Type}

/-- The history of `c` goes on to that of `c'` with a block as above, and what `c'` holds is documented. -/
def Extends (c c' : Course Ledger) (names : String → Prop) : Prop :=
  ∃ block, c'.state.history = c.state.history ++ block ∧ Adds c.state.history names block ∧
    c'.holdings.Documented c'.state.history

theorem extends_refl {c : Course Ledger} {names : String → Prop} (hd : c.holdings.Documented c.state.history) :
    c.Extends c names :=
  ⟨[], (List.append_nil _).symm, .quiet (quiet_drops []), hd⟩

theorem releasing_extends {c : Course Ledger} {names : String → Prop} {holdings : Holdings} {handles : List Descriptor}
    (hd : holdings.Documented c.state.history) : c.Extends (releasing script.platform c holdings handles) names := by
  have hh : (releasing script.platform c holdings handles).state.history =
      c.state.history ++ handles.map Record.release := Ledger.history_releaseAll _ _
  exact ⟨_, hh, .quiet (quiet_drops handles), hh ▸ hd.append _⟩

theorem perform_follows {c : Course Ledger} {action : Action Ledger α} {plan : List Exchange} {a : α}
    (keep : α → Holdings × Reply) (h : Follows action c.state plan a) :
    ∃ (records : List Record) (drops : List Descriptor) (stop : Option Failure), Attempted plan records stop ∧
      (c.perform action keep).2.state.history = c.state.history ++ (records ++ drops.map Record.release) ∧
      (c.perform action keep).2.holdings = stop.elim (keep a).1 fun _ => c.holdings := by
  cases h with
  | completed result attempt history hnext =>
    refine ⟨_, [], none, attempt, ?_, ?_⟩
    · simp only [perform, result, history, List.map_nil, List.append_nil]
    · simp only [perform, result, Option.elim_none]
  | stopped drops result attempt history =>
    refine ⟨_, drops, some _, attempt, ?_, ?_⟩
    · simp only [perform, result, history]
    · simp only [perform, result, Option.elim_some]

theorem perform_holdings {c : Course Ledger} {action : Action Ledger α} {keep : α → Holdings × Reply}
    (hkeep : ∀ a, (keep a).1 = c.holdings) : (c.perform action keep).2.holdings = c.holdings := by
  unfold perform
  cases action c.state with
  | ok a l => exact hkeep a
  | error e l => rfl

theorem releasing_perform_extends {c d : Course Ledger} {names : String → Prop} {action : Action Ledger α}
    {keep : α → Holdings × Reply} {plan : List Exchange} {a : α} {handles : List Descriptor}
    (hd : d.state.history = c.state.history ++ handles.map Record.release) (h : Follows action d.state plan a)
    (hp : ∀ exchange ∈ plan, exchange.1.handsOver = false) (herr : d.holdings.Documented c.state.history)
    (hok : ∀ records, Attempted plan records none → (keep a).1.Documented (d.state.history ++ records)) :
    c.Extends (d.perform action keep).2 names := by
  obtain ⟨records, drops, stop, ha, hh, hs⟩ := perform_follows keep h
  refine ⟨handles.map Record.release ++ (records ++ drops.map Record.release), ?_, .quiet ?_, ?_⟩
  · rw [hh, hd, List.append_assoc]
  · exact quiet_append.mpr ⟨quiet_drops handles, ha.quiet_append_drops hp drops⟩
  · rw [hs, hh, ← List.append_assoc]
    cases stop with
    | none => exact (hok records ha).append _
    | some failed =>
      rw [hd]
      exact ((herr.append _).append _).append _

theorem perform_extends {c : Course Ledger} {names : String → Prop} {action : Action Ledger α}
    {keep : α → Holdings × Reply} {plan : List Exchange} {a : α} (h : Follows action c.state plan a)
    (hp : ∀ exchange ∈ plan, exchange.1.handsOver = false) (hd : c.holdings.Documented c.state.history)
    (hok : ∀ records, Attempted plan records none → (keep a).1.Documented (c.state.history ++ records)) :
    c.Extends (c.perform action keep).2 names := by
  have hh : c.state.history = c.state.history ++ ([] : List Descriptor).map Record.release := (List.append_nil _).symm
  exact releasing_perform_extends hh h hp hd hok

theorem perform_holds {c : Course Ledger} {action : Action Ledger α} {keep : α → Holdings × Reply}
    {held frame : List Descriptor} (ha : Owns held action (fun _ => []) []) (hc : c.state.Holds (held ++ frame)) :
    (c.perform action keep).2.state.Holds frame := by
  cases hr : action c.state with
  | ok a l =>
    simp only [perform, hr]
    exact ha.of_ok hc hr
  | error e l =>
    simp only [perform, hr]
    exact ha.of_error hc hr

theorem served_not_mem_live {l l' : Ledger} {dir data pass : Descriptor} {frame : List Descriptor}
    (hl : l.Holds ([pass, data, dir] ++ frame)) (hl' : l'.Holds frame) :
    ∀ h ∈ [pass, data, l.next], h ∉ History.live l'.history := by
  have hd : ([pass, data, dir] ++ frame).Nodup := hl.nodup
  have hout : ∀ h ∈ [pass, data, dir], h ∉ frame := fun h hm hf => (List.nodup_append.mp hd).2.2 h hm h hf rfl
  intro h hm hlive
  rw [← hl'.sound.live_eq, hl'.live_perm.mem_iff] at hlive
  rcases List.mem_cons.mp hm with rfl | hm
  · exact hout h (by simp) hlive
  · rcases List.mem_cons.mp hm with rfl | hm
    · exact hout h (by simp) hlive
    · obtain rfl := List.mem_singleton.mp hm
      exact hl.sound.next_not_mem (hl.live_perm.mem_iff.mpr (List.mem_append_right _ hlive))

theorem transfer_extends {c : Course Ledger} {names : String → Prop} {holdings : Holdings} {dir : PrivateDirectory}
    {data pass : Listener} {frame : List Descriptor} {keep : Transfer.State → Holdings × Reply}
    (hc : c.state.Holds ([pass.handle, data.handle, dir.handle] ++ frame))
    (hnamed : Named c.state.history pass.handle pass.name) (hname : names pass.name)
    (hd : holdings.Documented c.state.history) (hkeep : ∀ state, (keep state).1 = holdings) :
    c.Extends ((Course.mk holdings c.state).perform (script.platform.serveOnce dir data pass) keep).2 names := by
  have hl : ((Course.mk holdings c.state).perform (script.platform.serveOnce dir data pass) keep).2.state.Holds frame :=
    perform_holds (owns_serveOnce dir data pass) hc
  have hf : Follows (script.platform.serveOnce dir data pass) (Course.mk holdings c.state).state _ _ :=
    serveOnce_follows dir data pass c.state
  obtain ⟨records, drops, stop, ha, hh, -⟩ := perform_follows keep hf
  have hgone := served_not_mem_live hc hl
  rw [hh] at hgone
  have hnamed' : Named (c.state.history ++ []) pass.handle pass.name := hnamed.append []
  refine ⟨[] ++ records ++ drops.map Record.release, hh, ?_, ?_⟩
  · exact .transfer (quiet_drops []) (quiet_drops drops) hnamed' hname ha hgone
  · rw [perform_holdings hkeep, hh]
    exact hd.append _

theorem settingUp_quiet {config : Config} {path : Path} {dir data pass : Descriptor} :
    ∀ exchange ∈ settingUp config path dir data pass, exchange.1.handsOver = false := by
  simp [settingUp, Call.handsOver]

theorem announcing_quiet {config : Config} {path : Path} {dir data pass : Descriptor} {announcement : Announcement} :
    ∀ exchange ∈ settingUp config path dir data pass ++ [(.publish announcement, .finished)],
      exchange.1.handsOver = false := by
  simp [settingUp, Call.handsOver]

/-- Carried out up to its `pass`, a plan that sets up names it. -/
theorem named_of_settingUp {config : Config} {path : Path} {dir data pass : Descriptor} {more : List Exchange}
    {records : List Record} (h : Attempted (settingUp config path dir data pass ++ more) records none)
    (before : List Record) : Named (before ++ records) pass "pass" := by
  have hm : ((Call.listen dir "pass" (Path.ofString ("/proc/self/fd/" ++ Text.decimal dir ++ "/" ++ "pass")),
      Outcome.issued pass) : Exchange) ∈ settingUp config path dir data pass ++ more := by
    simp [settingUp]
  obtain ⟨live, hl⟩ := h.exists_record hm
  exact ⟨_, _, live, List.mem_append_right _ hl⟩

theorem later_not_mem_live {l l' : Ledger} {h : Descriptor} (hl : l.Sound) (hl' : l'.Holds l.live) (hn : l.next ≤ h) :
    h ∉ History.live l'.history := by
  intro hlive
  rw [← hl'.sound.live_eq, hl'.live_perm.mem_iff] at hlive
  have hlt : h < l.next := hl.below h (hl.live_subset_issued hlive)
  exact lt_irrefl _ (lt_of_lt_of_le hlt hn)

/-- A run is a quiet beginning and the transfer of what it has set up. -/
theorem run_extends {c : Course Ledger} {names : String → Prop} (config : Config) (hc : c.Owned)
    (hd : c.holdings.Documented c.state.history) (hname : names "pass") :
    c.Extends (c.step script.platform config .run).2 names := by
  by_cases hp : Bytes.newline ∈ (script.place config c.state).bytes
  · obtain ⟨l', records, drops, stop, ha, hh, hr⟩ := run_unannounceable config c.state hp
    have hs : (c.step script.platform config .run).2 = ⟨c.holdings, l'⟩ := by
      simp only [step, perform, hr]
    rw [hs]
    exact ⟨_, hh, .quiet (ha.quiet_append_drops settingUp_quiet drops), hh ▸ hd.append _⟩
  · have hf := run_follows config c.state hp
    obtain ⟨records, drops, stop, ha, hh, -⟩ := perform_follows (fun state => (c.holdings, .state state)) hf
    have hstep : c.step script.platform config .run =
        c.perform (script.platform.run config) fun state => (c.holdings, .state state) := rfl
    rw [← hstep] at hh
    have hsame : (c.step script.platform config .run).2.holdings = c.holdings := perform_holdings fun _ => rfl
    have hdocumented := hsame ▸ hh ▸ hd.append (records ++ drops.map Record.release)
    rw [handshake, List.append_cons] at ha
    rcases ha.of_append with ⟨failed, -, hfirst⟩ | ⟨first, later, rfl, hfirst, hlater⟩
    · exact ⟨_, hh, .quiet (hfirst.quiet_append_drops announcing_quiet drops), hdocumented⟩
    · have hl : (c.step script.platform config .run).2.state.Holds c.state.live :=
        perform_holds (owns_run config) ⟨hc.sound, List.Perm.refl _⟩
      have hgone : ∀ h ∈ [c.state.next + 2, c.state.next + 1, c.state.next + 3],
          h ∉ History.live (c.state.history ++ (first ++ later ++ drops.map Record.release)) := by
        intro h hm
        rw [← hh]
        refine later_not_mem_live hc.sound hl ?_
        simp only [List.mem_cons, List.not_mem_nil, or_false] at hm
        rcases hm with rfl | rfl | rfl
        · exact le_add_of_nonneg_right (by decide)
        · exact le_add_of_nonneg_right (by decide)
        · exact le_add_of_nonneg_right (by decide)
      have hnamed := named_of_settingUp hfirst c.state.history
      exact ⟨_, hh, .transfer (hfirst.quiet announcing_quiet) (quiet_drops drops) hnamed hname hlater hgone, hdocumented⟩

theorem dropSession_history (script : Script) (c : Course Ledger) (i : Nat) : ∃ handles : List Descriptor,
    (c.dropSession script.platform i).state.history = c.state.history ++ handles.map Record.release := by
  unfold dropSession
  split
  · rename_i session hs
    exact ⟨session.handles, Ledger.history_releaseAll _ _⟩
  · exact ⟨[], (List.append_nil _).symm⟩

theorem dropSession_documented (script : Script) {c : Course Ledger} (hd : c.holdings.Documented c.state.history)
    (i : Nat) : (c.dropSession script.platform i).holdings.Documented c.state.history := by
  unfold dropSession
  split
  · exact hd.takeSession i
  · exact hd

theorem dropSession_extends {c : Course Ledger} {names : String → Prop} (hd : c.holdings.Documented c.state.history)
    (i : Nat) : c.Extends (c.dropSession script.platform i) names := by
  obtain ⟨handles, hh⟩ := dropSession_history script c i
  have hd' := dropSession_documented script hd i
  exact ⟨_, hh, .quiet (quiet_drops handles), hh ▸ hd'.append _⟩

theorem establish_extends {c : Course Ledger} {names : String → Prop} (config : Config)
    (hd : c.holdings.Documented c.state.history) (i : Nat) :
    c.Extends (c.step script.platform config (.establishAt i)).2 names := by
  obtain ⟨handles, hh⟩ := dropSession_history script c i
  have hd' := dropSession_documented script hd i
  refine releasing_perform_extends hh (establish_follows config _) settingUp_quiet hd' fun records ha => ?_
  rw [← List.append_nil (settingUp _ _ _ _ _)] at ha
  rw [hh]
  exact ((hd'.append _).append _).putSession i ⟨rfl, hh ▸ named_of_settingUp ha _⟩

theorem refused_announce {c : Course Ledger} {dir : PrivateDirectory} (data pass : Listener)
    (hp : Bytes.newline ∈ dir.path.bytes) {reply : Announcement → Reply} :
    (c.perform (script.platform.announce dir data pass) fun a => (c.holdings, reply a)).2 = c := by
  have hr : script.platform.announce dir data pass c.state = .error (.unannounceablePath dir.path) c.state :=
    announce_unannounceable data pass c.state hp
  simp only [perform, hr]

theorem announce_extends {c : Course Ledger} {names : String → Prop} {dir : PrivateDirectory} (data pass : Listener)
    (hd : c.holdings.Documented c.state.history) {reply : Announcement → Reply} :
    c.Extends (c.perform (script.platform.announce dir data pass) fun a => (c.holdings, reply a)).2 names := by
  by_cases hp : Bytes.newline ∈ dir.path.bytes
  · rw [refused_announce data pass hp]
    exact extends_refl hd
  · exact perform_extends (announce_follows data pass _ hp) (by simp [Call.handsOver]) hd fun records _ =>
      hd.append records

theorem step_extends {c : Course Ledger} (config : Config) (next : Step) (hc : c.Owned)
    (hd : c.holdings.Documented c.state.history) :
    c.Extends (c.step script.platform config next).2 next.Transfers := by
  cases next with
  | run => exact run_extends config hc hd rfl
  | establishAt i => exact establish_extends config hd i
  | publishAt i =>
    simp only [step]
    split
    · exact announce_extends _ _ hd
    · exact extends_refl hd
  | serveAt i =>
    simp only [step]
    split
    · rename_i session hs
      obtain ⟨hname, hnamed⟩ := hd.of_session? hs
      have hp := (Holdings.handles_takeSession hs).trans (session.handles_perm.append_right _)
      exact transfer_extends (hc.perm hp) hnamed hname (hd.takeSession i) fun _ => rfl
    · exact extends_refl hd
  | discardAt i => exact dropSession_extends hd i
  | create =>
    refine perform_extends (createDirectory_follows config _) (by simp [Call.handsOver]) hd fun records _ => ?_
    exact (hd.append records).of_subset (fun _ hs => hs) fun _ hx => hx
  | listen i name =>
    simp only [step]
    split
    · refine perform_extends (listen_follows _ name _) (by simp [Call.handsOver]) hd fun records ha => ?_
      obtain ⟨live, hm⟩ := ha.exists_record (List.mem_singleton_self _)
      refine ⟨(hd.append records).sessions, fun listener hx => ?_⟩
      rcases List.mem_append.mp hx with hx | hx
      · exact (hd.append records).sockets listener hx
      · obtain rfl := Option.some.inj (List.mem_singleton.mp hx)
        exact ⟨_, _, live, List.mem_append_right _ hm⟩
    · exact extends_refl hd
  | announce i j k =>
    simp only [step]
    split
    · exact announce_extends _ _ hd
    · exact extends_refl hd
  | serveOnce i j k =>
    simp only [step]
    split
    · rename_i dir data pass ht
      have hnamed := hd.of_socket? (Holdings.triple?_eq_some ht).2.2.2
      have hd' := ((hd.takeDirectory i).takeSocket j).takeSocket k
      exact transfer_extends (hc.perm (Holdings.handles_triple ht)) hnamed trivial hd' fun _ => rfl
    · exact extends_refl hd
  | dropDirectory i =>
    simp only [step]
    split
    · exact releasing_extends (hd.takeDirectory i)
    · exact extends_refl hd
  | dropSocket i =>
    simp only [step]
    split
    · exact releasing_extends (hd.takeSocket i)
    · exact extends_refl hd

theorem follow_documented (script : Script) (moves : List (Config × Step)) :
    (start.follow script.platform moves).holdings.Documented (start.follow script.platform moves).state.history := by
  induction moves using List.reverseRecOn with
  | nil => exact Holdings.documented_empty
  | append_singleton moves move ih =>
    rw [follow_snoc]
    obtain ⟨block, -, -, hd⟩ := step_extends move.1 move.2 (follow_owned script moves) ih
    exact hd

theorem follow_extends (script : Script) (moves : List (Config × Step)) (config : Config) (next : Step) :
    let c := start.follow script.platform moves
    c.Extends (c.step script.platform config next).2 next.Transfers :=
  step_extends config next (follow_owned script moves) (follow_documented script moves)

end Course

end Handover
