import Handover.Proofs.Extension
import Handover.Proofs.Naming

/-! # Steps leave alone what they do not name

The calls of a step go by its plan: they are made with handles of what the step names, or with handles that did not exist
before. Releases are in no plan; but what they let go is not open afterwards, so it is none of what is still held.
-/
namespace Handover

namespace History

variable {before block : List Record}

theorem Orderly.not_mem_closed (ho : Orderly (before ++ block)) {handle : Descriptor}
    (hl : handle ∈ live (before ++ block)) : handle ∉ closed block := by
  have hn := ho.balanced.accounts.nodup_iff.mp ho.balanced.issued_nodup
  intro hm
  refine (List.nodup_append.mp hn).2.2 handle hl handle ?_ rfl
  rw [closed_append]
  exact List.mem_append_right _ hm

theorem live_append_of_idle (hi : issued block = []) (hc : closed block = []) : live (before ++ block) = live before := by
  induction block using List.reverseRecOn with
  | nil => rw [List.append_nil]
  | append_singleton block r ih =>
    rw [issued_append, issued_singleton, List.append_eq_nil_iff] at hi
    rw [closed_append, closed_singleton, List.append_eq_nil_iff] at hc
    rw [← List.append_assoc, live_snoc, Record.after, ih hi.1 hc.1, hi.2, hc.2]
    simp

theorem closed_eq_nil (ho : Orderly (before ++ block)) (hi : issued block = [])
    (hl : (live (before ++ block)).Perm (live before)) : closed block = [] := by
  have hbefore := ho.of_append.balanced.accounts.length_eq
  have hafter := ho.balanced.accounts.length_eq
  rw [issued_append, closed_append, hi, List.append_nil, List.length_append, List.length_append, hl.length_eq] at hafter
  rw [List.length_append] at hbefore
  exact List.eq_nil_of_length_eq_zero (by omega)

theorem issued_drops (drops : List Descriptor) : issued (drops.map Record.release) = [] :=
  List.filterMap_eq_nil_iff.mpr fun r hr => by
    obtain ⟨handle, -, rfl⟩ := List.mem_map.mp hr
    rfl

end History

namespace Attempted

variable {plan lead : List Exchange} {records : List Record} {stop : Option Failure}

theorem mem_of_issued {call : Call} {live : List Descriptor} {handle : Descriptor} (h : Attempted plan records stop)
    (hm : Record.call call live (.issued handle) ∈ records) : (call, .issued handle) ∈ plan := by
  induction h with
  | nil => simp at hm
  | granted _ ih =>
    rcases List.mem_cons.mp hm with he | hm
    · obtain ⟨rfl, rfl, rfl⟩ := Record.call.inj he
      exact List.mem_cons_self ..
    · exact List.mem_cons_of_mem _ (ih hm)
  | refused => simp at hm

/-- A plan that hands out something only in its end hands out nothing if it stops. -/
theorem issued_eq_nil {last : Exchange} {failed : Failure} (h : Attempted (lead ++ [last]) records (some failed))
    (hl : ∀ exchange ∈ lead, ∀ handle, exchange.2 ≠ .issued handle) : History.issued records = [] := by
  induction lead generalizing records with
  | nil =>
    cases h with
    | granted h => cases h
    | refused => rfl
  | cons exchange lead ih =>
    cases h with
    | granted h =>
      rename_i call outcome live records
      have hlast := ih h fun e he => hl e (List.mem_cons_of_mem _ he)
      have hfirst := hl (call, outcome) (List.mem_cons_self ..)
      cases outcome with
      | issued handle => exact absurd rfl (hfirst handle)
      | failed cause => exact hlast
      | made path => exact hlast
      | finished => exact hlast
    | refused => rfl

end Attempted

theorem Ledger.next_releaseAll {script : Script} (l : Ledger) (handles : List Descriptor) :
    (script.platform.releaseAll handles l).next = l.next := by
  induction handles generalizing l with
  | nil => rfl
  | cons handle handles ih =>
    rw [Platform.releaseAll_cons, ih]
    rfl

namespace Course

variable {script : Script} {α : Type} {c c' : Course Ledger} {named : List Descriptor}

/-! ## Calls -/

def Confined (c c' : Course Ledger) (named : List Descriptor) : Prop :=
  ∃ block, c'.state.history = c.state.history ++ block ∧
    ∀ call ∈ block.filterMap Record.call?, ∀ handle ∈ call.operands, handle ∈ named ∨ c.state.next ≤ handle

theorem confined_of_releases (handles : List Descriptor)
    (hh : c'.state.history = c.state.history ++ handles.map Record.release) : c.Confined c' named := by
  refine ⟨_, hh, fun call hc => ?_⟩
  rw [calls_drops] at hc
  simp at hc

theorem confined_refl : c.Confined c named := confined_of_releases [] (List.append_nil _).symm

theorem releasing_confined {holdings : Holdings} {handles : List Descriptor} :
    c.Confined (releasing script.platform c holdings handles) named :=
  confined_of_releases handles (Ledger.history_releaseAll _ _)

theorem confined_of_attempted (handles drops : List Descriptor) {plan : List Exchange} {records : List Record}
    {stop : Option Failure} (ha : Attempted plan records stop)
    (hh : c'.state.history = c.state.history ++ (handles.map Record.release ++ (records ++ drops.map Record.release)))
    (hp : ∀ exchange ∈ plan, ∀ handle ∈ exchange.1.operands, handle ∈ named ∨ c.state.next ≤ handle) :
    c.Confined c' named := by
  refine ⟨_, hh, fun call hc => ?_⟩
  rw [List.filterMap_append, List.filterMap_append, calls_drops, calls_drops, List.append_nil, List.nil_append] at hc
  obtain ⟨exchange, he, rfl⟩ := List.mem_map.mp (ha.calls_prefix.subset hc)
  exact hp exchange he

theorem perform_confined {d : Course Ledger} (handles : List Descriptor) {action : Action Ledger α}
    {keep : α → Holdings × Reply} {plan : List Exchange} {a : α}
    (hd : d.state.history = c.state.history ++ handles.map Record.release) (h : Follows action d.state plan a)
    (hp : ∀ exchange ∈ plan, ∀ handle ∈ exchange.1.operands, handle ∈ named ∨ c.state.next ≤ handle) :
    c.Confined (d.perform action keep).2 named := by
  obtain ⟨records, drops, stop, ha, hh, -⟩ := perform_follows keep h
  refine confined_of_attempted handles drops ha ?_ hp
  rw [hh, hd, List.append_assoc]

theorem settingUp_new {config : Config} {path : Path} {first : Descriptor} (exchange : Exchange)
    (he : exchange ∈ settingUp config path first (first + 1) (first + 2)) :
    ∀ handle ∈ exchange.1.operands, handle ∈ named ∨ first ≤ handle := by
  simp only [settingUp, List.mem_cons, List.not_mem_nil, or_false] at he
  rcases he with rfl | rfl | rfl | rfl <;> simp [Call.operands]

theorem handshake_new {config : Config} {path : Path} {first : Descriptor} (exchange : Exchange)
    (he : exchange ∈ handshake config path first (first + 1) (first + 2) (first + 3)) :
    ∀ handle ∈ exchange.1.operands, handle ∈ named ∨ first ≤ handle := by
  rw [handshake, List.mem_append] at he
  rcases he with he | he
  · exact settingUp_new exchange he
  · simp only [handingOver, List.mem_cons, List.not_mem_nil, or_false] at he
    rcases he with rfl | rfl | rfl | rfl | rfl | rfl | rfl | rfl <;> simp [Call.operands]

theorem handingOver_own {name : String} {dir data pass conn : Descriptor} (exchange : Exchange)
    (hn : ∀ handle ∈ [pass, data, dir], handle ∈ named) (he : exchange ∈ handingOver name dir data pass conn) :
    ∀ handle ∈ exchange.1.operands, handle ∈ named ∨ conn ≤ handle := by
  simp only [List.mem_cons, List.not_mem_nil, or_false, forall_eq_or_imp, forall_eq] at hn
  obtain ⟨hpass, hdata, hdir⟩ := hn
  simp only [handingOver, List.mem_cons, List.not_mem_nil, or_false] at he
  rcases he with rfl | rfl | rfl | rfl | rfl | rfl | rfl <;> simp [Call.operands, hpass, hdata, hdir]

theorem run_confined (config : Config) (c : Course Ledger) :
    c.Confined (c.step script.platform config .run).2 named := by
  by_cases hp : Bytes.newline ∈ (script.place config c.state).bytes
  · obtain ⟨l', records, drops, stop, ha, hh, hr⟩ := run_unannounceable config c.state hp
    have hs : (c.step script.platform config .run).2 = ⟨c.holdings, l'⟩ := by
      simp only [step, perform, hr]
    rw [hs]
    exact confined_of_attempted [] drops ha hh settingUp_new
  · exact perform_confined [] (List.append_nil _).symm (run_follows config c.state hp) handshake_new

theorem announce_confined {dir : PrivateDirectory} (data pass : Listener) {reply : Announcement → Reply} :
    c.Confined (c.perform (script.platform.announce dir data pass) fun a => (c.holdings, reply a)).2 named := by
  by_cases hp : Bytes.newline ∈ dir.path.bytes
  · rw [refused_announce data pass hp]
    exact confined_refl
  · exact perform_confined [] (List.append_nil _).symm (announce_follows data pass _ hp) (by simp [Call.operands])

theorem serve_confined {holdings : Holdings} {dir : PrivateDirectory} {data pass : Listener}
    {keep : Transfer.State → Holdings × Reply} (hn : ∀ handle ∈ [pass.handle, data.handle, dir.handle], handle ∈ named) :
    c.Confined ((Course.mk holdings c.state).perform (script.platform.serveOnce dir data pass) keep).2 named := by
  have hd : (Course.mk holdings c.state).state.history =
      c.state.history ++ ([] : List Descriptor).map Record.release := (List.append_nil _).symm
  exact perform_confined [] hd (serveOnce_follows dir data pass c.state) fun exchange => handingOver_own exchange hn

theorem dropSession_next (c : Course Ledger) (i : Nat) :
    (c.dropSession script.platform i).state.next = c.state.next := by
  unfold dropSession
  split
  · exact Ledger.next_releaseAll _ _
  · rfl

theorem step_confined (config : Config) (c : Course Ledger) (next : Step) :
    c.Confined (c.step script.platform config next).2 (c.holdings.named next) := by
  cases next with
  | run => exact run_confined config c
  | establishAt i =>
    obtain ⟨handles, hh⟩ := dropSession_history script c i
    refine perform_confined handles hh (establish_follows config _) ?_
    rw [dropSession_next]
    exact settingUp_new
  | publishAt i =>
    simp only [step]
    split
    · exact announce_confined _ _
    · exact confined_refl
  | serveAt i =>
    simp only [step]
    split
    · rename_i session hs
      have hserved : c.holdings.served? (.serveAt i) = some (session.directory, session.data, session.pass) := by
        simp [Holdings.served?, hs]
      exact serve_confined fun handle => (Holdings.mem_named_iff_of_served? hserved).mpr
    · exact confined_refl
  | discardAt i =>
    obtain ⟨handles, hh⟩ := dropSession_history script c i
    exact confined_of_releases handles hh
  | create =>
    exact perform_confined [] (List.append_nil _).symm (createDirectory_follows config _) (by simp [Call.operands])
  | listen i name =>
    simp only [step]
    split
    · rename_i dir hd
      have hm : dir.handle ∈ c.holdings.named (.listen i name) :=
        Holdings.mem_named.mpr (Or.inr (Or.inl ⟨i, List.mem_singleton_self i, dir, hd, rfl⟩))
      exact perform_confined [] (List.append_nil _).symm (listen_follows dir name _) (by simp [Call.operands, hm])
    · exact confined_refl
  | announce i j k =>
    simp only [step]
    split
    · exact announce_confined _ _
    · exact confined_refl
  | serveOnce i j k =>
    simp only [step]
    split
    · rename_i dir data pass ht
      have hserved : c.holdings.served? (.serveOnce i j k) = some (dir, data, pass) := ht
      exact serve_confined fun handle => (Holdings.mem_named_iff_of_served? hserved).mpr
    · exact confined_refl
  | dropDirectory i =>
    simp only [step]
    split
    · exact releasing_confined
    · exact confined_refl
  | dropSocket i =>
    simp only [step]
    split
    · exact releasing_confined
    · exact confined_refl

/-! ## Isolation -/

/-- The step `next` leads from `c` to `c'` by the records `block`, which leave alone what it does not name. -/
structure Isolated (c c' : Course Ledger) (next : Step) (block : List Record) : Prop where
  history : c'.state.history = c.state.history ++ block
  keeps : c.holdings.Keeps next c'.holdings
  confined : ∀ r ∈ block, ∀ handle ∈ r.uses, handle ∈ c.holdings.named next ∨ handle ∈ History.issued block
  new : ∀ handle ∈ History.issued block, handle ∉ c.state.issued
  spares : ∀ handle, c.holdings.Spares next handle → handle ∈ c'.state.live ∧ ∀ r ∈ block, handle ∉ r.uses

theorem Owned.mem_live_iff {c : Course Ledger} (hc : c.Owned) {handle : Descriptor} :
    handle ∈ History.live c.state.history ↔ handle ∈ c.holdings.handles := by
  rw [← hc.sound.live_eq, hc.live_perm.mem_iff]

theorem named_or_issued {next : Step} {block : List Record} (hc : c.Owned) (hc' : c'.Owned)
    (hk : c.holdings.Keeps next c'.holdings) (hh : c'.state.history = c.state.history ++ block)
    (hcalls : ∀ call ∈ block.filterMap Record.call?, ∀ handle ∈ call.operands,
      handle ∈ c.holdings.named next ∨ c.state.next ≤ handle)
    {r : Record} (hr : r ∈ block) {handle : Descriptor} (hu : handle ∈ r.uses) :
    handle ∈ c.holdings.named next ∨ handle ∈ History.issued block := by
  have ho : History.Orderly (c.state.history ++ block) := hh ▸ hc'.sound.orderly
  obtain ⟨front, back, hblock⟩ := List.append_of_mem hr
  have hsplit : c.state.history ++ block = c.state.history ++ front ++ r :: back := by
    rw [hblock, List.append_assoc]
  have hlive : handle ∈ History.live (c.state.history ++ front) := (ho _ r back hsplit).uses_live handle hu
  have hfront : History.Orderly (c.state.history ++ front) := History.Orderly.of_append (hsplit ▸ ho)
  have hissued := hfront.live_subset_issued hlive
  rw [History.issued_append, List.mem_append] at hissued
  rcases hissued with hold | hnew
  · refine Or.inl ?_
    cases r with
    | call call live outcome =>
      have hcall : call ∈ block.filterMap Record.call? := List.mem_filterMap.mpr ⟨_, hr, rfl⟩
      refine (hcalls call hcall handle hu).resolve_right fun hle => ?_
      exact lt_irrefl _ (lt_of_le_of_lt hle (hc.sound.below handle hold))
    | release released =>
      obtain rfl : handle = released := List.mem_singleton.mp hu
      have hheld : handle ∈ c.holdings.handles := by
        rw [← hc.mem_live_iff]
        by_contra hn
        exact hfront.not_mem_live_append hold hn hlive
      refine (Holdings.named_or_spares hheld).resolve_right fun hs => ?_
      have hstill : handle ∈ History.live (c.state.history ++ block) := by
        rw [← hh, hc'.mem_live_iff]
        exact hk.mem_handles hs
      exact ho.not_mem_closed hstill (List.mem_flatMap.mpr ⟨_, hr, List.mem_singleton_self _⟩)
  · refine Or.inr ?_
    rw [hblock, History.issued_append]
    exact List.mem_append_left _ hnew

theorem step_isolated (config : Config) {c : Course Ledger} (next : Step) (hc : c.Owned) :
    ∃ block, Isolated c (c.step script.platform config next).2 next block := by
  have hc' : (c.step script.platform config next).2.Owned := step_owned config next hc
  have hk : c.holdings.Keeps next (c.step script.platform config next).2.holdings := step_keeps config c next
  obtain ⟨block, hh, hcalls⟩ : c.Confined (c.step script.platform config next).2 (c.holdings.named next) :=
    step_confined config c next
  have hn := hc'.sound.orderly.balanced.issued_nodup
  rw [hh, History.issued_append, List.nodup_append] at hn
  have hnew : ∀ handle ∈ History.issued block, handle ∉ c.state.issued := fun handle hm hi =>
    hn.2.2 handle hi handle hm rfl
  have hconfined : ∀ r ∈ block, ∀ handle ∈ r.uses,
      handle ∈ c.holdings.named next ∨ handle ∈ History.issued block := fun r hr handle hu =>
    named_or_issued hc hc' hk hh hcalls hr hu
  refine ⟨block, hh, hk, hconfined, hnew, fun handle hs => ⟨?_, fun r hr hu => ?_⟩⟩
  · exact hc'.live_perm.mem_iff.mpr (hk.mem_handles hs)
  · rcases hconfined r hr handle hu with hm | hm
    · exact hs.not_mem_named hc.nodup hm
    · have hheld : handle ∈ c.holdings.handles := (Holdings.Keeps.refl c.holdings next).mem_handles hs
      exact hnew handle hm (hc.sound.live_subset_issued (hc.live_perm.mem_iff.mpr hheld))

/-! ## Failures, and transfers -/

/-- No handle comes, goes or changes hands. -/
structure SameHandles (c c' : Course Ledger) : Prop where
  holdings : c'.holdings = c.holdings
  live : c'.state.live = c.state.live
  issued : c'.state.issued = c.state.issued
  closed : c'.state.closed = c.state.closed

/-- An action that would be handed its only handle at the end, and fails. -/
theorem sameHandles_of_error (lead : List Exchange) {action : Action Ledger α} {keep : α → Holdings × Reply}
    {last : Exchange} {a : α} {e : Error} {kept : α → List Descriptor} (hc : c.Owned)
    (hf : Follows action c.state (lead ++ [last]) a) (hl : ∀ exchange ∈ lead, ∀ handle, exchange.2 ≠ .issued handle)
    (hown : Owns c.holdings.handles action kept c.holdings.handles) (he : (c.perform action keep).1 = .error e) :
    SameHandles c (c.perform action keep).2 := by
  cases hf with
  | completed result attempt history hnext => simp [perform, result] at he
  | stopped drops result attempt history =>
    rename_i l' failed records
    have hheld : l'.Holds (c.holdings.handles ++ []) := hown.of_error (hc.perm (by simp)) result
    rw [List.append_nil] at hheld
    have hissued : History.issued (records ++ drops.map Record.release) = [] := by
      rw [History.issued_append, attempt.issued_eq_nil hl, History.issued_drops, List.append_nil]
    have ho := hheld.sound.orderly
    have hlive := hheld.live_perm.trans hc.live_perm.symm
    rw [hheld.sound.live_eq, hc.sound.live_eq, history] at hlive
    rw [history] at ho
    have hclosed := History.closed_eq_nil ho hissued hlive
    have hs : (c.perform action keep).2 = ⟨c.holdings, l'⟩ := by simp only [perform, result]
    rw [hs]
    refine ⟨rfl, ?_, ?_, ?_⟩
    · rw [hheld.sound.live_eq, hc.sound.live_eq, history]
      exact History.live_append_of_idle hissued hclosed
    · change History.issued l'.history = History.issued c.state.history
      rw [history, History.issued_append, hissued, List.append_nil]
    · change History.closed l'.history = History.closed c.state.history
      rw [history, History.closed_append, hclosed, List.append_nil]

theorem failed_create {config : Config} {e : Error} (hc : c.Owned)
    (he : (c.step script.platform config .create).1 = .error e) :
    SameHandles c (c.step script.platform config .create).2 := by
  exact sameHandles_of_error [_] hc (createDirectory_follows config c.state) (by simp) (owns_createDirectory config) he

theorem failed_listen {config : Config} {i : Nat} {name : String} {e : Error} (hc : c.Owned)
    (he : (c.step script.platform config (.listen i name)).1 = .error e) :
    SameHandles c (c.step script.platform config (.listen i name)).2 := by
  simp only [step] at he ⊢
  split at he
  · rename_i dir hd
    have hm : dir.handle ∈ c.holdings.handles := Holdings.directory_mem_handles hd
    exact sameHandles_of_error [] hc (listen_follows dir name c.state) (by simp) (owns_listen name hm) he
  · simp [notHeld] at he

theorem accepted_of_issued {holdings : Holdings} {dir : PrivateDirectory} {data pass : Listener}
    {keep : Transfer.State → Holdings × Reply} {block : List Record} {handle : Descriptor}
    (hh : ((Course.mk holdings c.state).perform (script.platform.serveOnce dir data pass) keep).2.state.history =
      c.state.history ++ block)
    (hm : handle ∈ History.issued block) : ∃ live, .call (.accept pass.handle) live (.issued handle) ∈ block := by
  have hf : Follows (script.platform.serveOnce dir data pass) (Course.mk holdings c.state).state _ _ :=
    serveOnce_follows dir data pass c.state
  obtain ⟨records, drops, stop, ha, hr, -⟩ := perform_follows keep hf
  obtain rfl : block = records ++ drops.map Record.release := List.append_cancel_left (hh.symm.trans hr)
  rw [History.issued_append, History.issued_drops, List.append_nil] at hm
  obtain ⟨r, hrecord, hissued⟩ := List.mem_filterMap.mp hm
  cases r with
  | release released => simp [Record.issued?] at hissued
  | call call live outcome =>
    obtain rfl : outcome = .issued handle := by
      cases outcome <;> simp_all [Record.issued?]
    have hplan := ha.mem_of_issued hrecord
    obtain ⟨rfl, -⟩ : call = .accept pass.handle ∧ handle = c.state.next := by simpa [handingOver] using hplan
    exact ⟨live, List.mem_append_left _ hrecord⟩

theorem served_uses {config : Config} {next : Step} {dir : PrivateDirectory} {data pass : Listener}
    {block : List Record} (hi : Isolated c (c.step script.platform config next).2 next block)
    (hs : c.holdings.served? next = some (dir, data, pass)) {r : Record} (hr : r ∈ block) {handle : Descriptor}
    (hu : handle ∈ r.uses) : handle ∈ [pass.handle, data.handle, dir.handle] ∨
      ∃ live, .call (.accept pass.handle) live (.issued handle) ∈ block := by
  rcases hi.confined r hr handle hu with hm | hm
  · exact Or.inl ((Holdings.mem_named_iff_of_served? hs).mp hm)
  · have hh := hi.history
    refine Or.inr ?_
    cases next with
    | serveAt i =>
      obtain ⟨session, hsession, hparts⟩ := Option.map_eq_some_iff.mp hs
      obtain ⟨rfl, rfl, rfl⟩ : session.directory = dir ∧ session.data = data ∧ session.pass = pass := by
        simpa using hparts
      simp only [step, hsession] at hh
      exact accepted_of_issued hh hm
    | serveOnce i j k =>
      have ht : c.holdings.triple? i j k = some (dir, data, pass) := hs
      simp only [step, ht] at hh
      exact accepted_of_issued hh hm
    | _ => simp [Holdings.served?] at hs

/-- After any steps the next one, whatever fails in it, leaves alone what it does not name: it uses the handles of what
it names and those that it is handed itself, which are new, and lets go no others; everything else is held as before and
open. So a run uses no handle that was there before it, and the sockets in a directory outlive it. A directory or a
socket that cannot be made changes no handle, and a transfer uses its three handles and the connection it accepts. -/
theorem steps_leave_alone_what_they_do_not_name (script : Script) (moves : List (Config × Step)) (config : Config)
    (next : Step) :
    let c := start.follow script.platform moves
    let reply := (c.step script.platform config next).1
    let c' := (c.step script.platform config next).2
    ∃ block, Isolated c c' next block ∧
      (next = .run → ∀ r ∈ block, ∀ handle ∈ r.uses, handle ∉ c.state.issued) ∧
      (∀ e, reply = .error e → (next = .create ∨ ∃ i name, next = .listen i name) → SameHandles c c') ∧
      (∀ i, next = .dropDirectory i → ∀ j listener, c.holdings.socket? j = some listener →
        c'.holdings.socket? j = some listener ∧ listener.handle ∈ c'.state.live) ∧
      ∀ dir data pass, c.holdings.served? next = some (dir, data, pass) → ∀ r ∈ block, ∀ handle ∈ r.uses,
        handle ∈ [pass.handle, data.handle, dir.handle] ∨
          ∃ live, .call (.accept pass.handle) live (.issued handle) ∈ block := by
  intro c reply c'
  have hc : c.Owned := follow_owned script moves
  obtain ⟨block, hi⟩ : ∃ block, Isolated c c' next block := step_isolated config next hc
  refine ⟨block, hi, ?_, ?_, ?_, fun dir data pass hs r hr handle hu => served_uses hi hs hr hu⟩
  · rintro rfl r hr handle hu
    rcases hi.confined r hr handle hu with hm | hm
    · simp [Holdings.named, Step.sessions, Step.directories, Step.sockets] at hm
    · exact hi.new handle hm
  · rintro e he (rfl | ⟨i, name, rfl⟩)
    · exact failed_create hc he
    · exact failed_listen hc he
  · rintro i rfl j listener hx
    have hj : j ∉ (Step.dropDirectory i).sockets := List.not_mem_nil
    exact ⟨hi.keeps.socket j hj listener hx, (hi.spares _ (.socket hj hx)).1⟩

end Course

end Handover
