import Handover.Holdings
import Handover.Proofs.Ownership

/-! # What is held is what is open

Between two steps the open handles of a platform are those of the sessions, the directories and the sockets that are
held, each once. One step keeps this, whatever it is and whatever fails in it, since each operation gives back exactly
what it does not hand to its caller; so it holds after any number of steps.
-/
namespace Handover

/-- What is in a list of things that may have been used up, once one of them is taken out. -/
theorem perm_cons_set_none {α : Type} {items : List (Option α)} {i : Nat} {a : α} (h : (items[i]?).join = some a) :
    (items.filterMap id).Perm (a :: (items.set i none).filterMap id) := by
  induction items generalizing i with
  | nil => simp at h
  | cons item items ih =>
    cases i with
    | zero =>
      have hi : item = some a := by simpa using h
      simp [hi]
    | succ i =>
      have hp := ih (by simpa using h)
      cases item with
      | none => simpa using hp
      | some b => simpa using (hp.cons b).trans (List.Perm.swap a b _)

section Places

variable {α : Type} (items : List (Option α)) (n i : Nat)

theorem join_getElem?_pad : ((items ++ List.replicate n none)[i]?).join = (items[i]?).join := by
  by_cases hi : i < items.length
  · rw [List.getElem?_append_left hi]
  · rw [List.getElem?_append_right (Nat.le_of_not_lt hi), List.getElem?_eq_none (Nat.le_of_not_lt hi),
      List.getElem?_replicate]
    split <;> rfl

theorem filterMap_pad : (items ++ List.replicate n none).filterMap id = items.filterMap id := by
  rw [List.filterMap_append, List.filterMap_replicate_of_none rfl, List.append_nil]

end Places

/-- What is in such a list once a free place in it is filled. -/
theorem perm_cons_set_some {α : Type} {items : List (Option α)} {i : Nat} (hi : i < items.length)
    (hn : (items[i]?).join = none) (a : α) : ((items.set i (some a)).filterMap id).Perm (a :: items.filterMap id) := by
  have hs : ((items.set i (some a))[i]?).join = some a := by rw [List.getElem?_set_self hi, Option.join_some]
  have hsame : none = items[i] := by simpa [List.getElem?_eq_getElem hi] using hn.symm
  have hp := perm_cons_set_none hs
  rwa [List.set_set, hsame, List.set_getElem_self hi] at hp

namespace Holdings

theorem session?_takeSession (h : Holdings) (i : Nat) : (h.takeSession i).session? i = none := by
  by_cases hi : i < h.sessions.length <;> simp [session?, takeSession, hi]

theorem session?_takeSession_ne (h : Holdings) {i j : Nat} (hij : i ≠ j) :
    (h.takeSession i).session? j = h.session? j := by
  simp only [session?, takeSession, List.getElem?_set_ne hij]

theorem session?_putSession_ne (h : Holdings) {i j : Nat} (hij : i ≠ j) (s : Session) :
    (h.putSession i s).session? j = h.session? j := by
  simp only [session?, putSession, List.getElem?_set_ne hij, join_getElem?_pad]

theorem handles_takeSession {h : Holdings} {i : Nat} {s : Session} (hs : h.session? i = some s) :
    h.handles.Perm (s.handles ++ (h.takeSession i).handles) := by
  have hp := (perm_cons_set_none hs).flatMap_right Session.handles
  simpa [handles, takeSession] using hp.append_right _

theorem handles_putSession {h : Holdings} {i : Nat} (hn : h.session? i = none) (s : Session) :
    (h.putSession i s).handles.Perm (s.handles ++ h.handles) := by
  have hi : i < (h.sessions ++ List.replicate (i + 1 - h.sessions.length) none).length := by
    rw [List.length_append, List.length_replicate]
    omega
  have hp := perm_cons_set_some hi ((join_getElem?_pad ..).trans hn) s
  rw [filterMap_pad] at hp
  simpa [handles, putSession] using (hp.flatMap_right Session.handles).append_right _

theorem handles_create (h : Holdings) (dir : PrivateDirectory) :
    ({ h with directories := h.directories ++ [some dir] } : Holdings).handles.Perm (dir.handle :: h.handles) := by
  have he : ({ h with directories := h.directories ++ [some dir] } : Holdings).handles =
      ((h.sessions.filterMap id).flatMap Session.handles ++ (h.directories.filterMap id).map PrivateDirectory.handle) ++
        dir.handle :: (h.sockets.filterMap id).map Listener.handle := by
    simp [handles]
  rw [he]
  exact List.perm_middle

theorem handles_listen (h : Holdings) (listener : Listener) :
    ({ h with sockets := h.sockets ++ [some listener] } : Holdings).handles.Perm (listener.handle :: h.handles) := by
  have he : ({ h with sockets := h.sockets ++ [some listener] } : Holdings).handles = h.handles ++ [listener.handle] := by
    simp [handles]
  rw [he]
  exact List.perm_append_singleton _ _

theorem handles_takeDirectory {h : Holdings} {i : Nat} {dir : PrivateDirectory} (hd : h.directory? i = some dir) :
    h.handles.Perm (dir.handle :: (h.takeDirectory i).handles) := by
  have hp := (perm_cons_set_none hd).map PrivateDirectory.handle
  exact ((hp.append_left _).append_right _).trans (List.perm_middle.append_right _)

theorem handles_takeSocket {h : Holdings} {i : Nat} {listener : Listener} (hs : h.socket? i = some listener) :
    h.handles.Perm (listener.handle :: (h.takeSocket i).handles) := by
  have hp := (perm_cons_set_none hs).map Listener.handle
  exact (hp.append_left _).trans List.perm_middle

theorem triple?_eq_some {h : Holdings} {i j k : Nat} {dir : PrivateDirectory} {data pass : Listener}
    (ht : h.triple? i j k = some (dir, data, pass)) :
    j ≠ k ∧ h.directory? i = some dir ∧ h.socket? j = some data ∧ h.socket? k = some pass := by
  unfold triple? at ht
  split at ht
  · simp at ht
  · rename_i hjk
    split at ht
    · rename_i d a p hd ha hp
      obtain ⟨rfl, rfl, rfl⟩ : d = dir ∧ a = data ∧ p = pass := by simpa using ht
      exact ⟨hjk, hd, ha, hp⟩
    · simp at ht

theorem handles_triple {h : Holdings} {i j k : Nat} {dir : PrivateDirectory} {data pass : Listener}
    (ht : h.triple? i j k = some (dir, data, pass)) :
    h.handles.Perm ([pass.handle, data.handle, dir.handle] ++
      (((h.takeDirectory i).takeSocket j).takeSocket k).handles) := by
  obtain ⟨hjk, hd, ha, hp⟩ := triple?_eq_some ht
  have ha' : (h.takeDirectory i).socket? j = some data := ha
  have hp' : ((h.takeDirectory i).takeSocket j).socket? k = some pass := by
    simpa [socket?, takeSocket, takeDirectory, List.getElem?_set_ne hjk] using hp
  have hall := ((handles_takeDirectory hd).trans ((handles_takeSocket ha').cons _)).trans
    (((handles_takeSocket hp').cons _).cons _)
  exact hall.trans ((List.reverse_perm [pass.handle, data.handle, dir.handle]).append_right _)

end Holdings

namespace Course

variable {script : Script}

def Owned (c : Course Ledger) : Prop := c.state.Holds c.holdings.handles

theorem perform_owned {α : Type} {c : Course Ledger} {action : Action Ledger α} {keep : α → Holdings × Reply}
    {held left frame : List Descriptor} {kept : α → List Descriptor} (ha : Owns held action kept left)
    (hc : c.state.Holds (held ++ frame)) (hok : ∀ a, (kept a ++ frame).Perm (keep a).1.handles)
    (herr : (left ++ frame).Perm c.holdings.handles) : (c.perform action keep).2.Owned := by
  have hl := ha c.state frame hc
  unfold perform
  cases hr : action c.state with
  | ok a l =>
    rw [hr] at hl
    exact hl.perm (hok a)
  | error e l =>
    rw [hr] at hl
    exact hl.perm herr

theorem releasing_owned {c : Course Ledger} {holdings : Holdings} {handles : List Descriptor} (hc : c.Owned)
    (hp : c.holdings.handles.Perm (handles ++ holdings.handles)) :
    (releasing script.platform c holdings handles).Owned :=
  (hc.perm hp).releaseAll

theorem dropSession_session? (P : Platform Ledger) (c : Course Ledger) (i : Nat) :
    (c.dropSession P i).holdings.session? i = none := by
  unfold dropSession
  split
  · exact Holdings.session?_takeSession c.holdings i
  · assumption

theorem dropSession_owned {c : Course Ledger} (hc : c.Owned) (i : Nat) : (c.dropSession script.platform i).Owned := by
  unfold dropSession
  split
  · rename_i session hs
    exact releasing_owned hc (Holdings.handles_takeSession hs)
  · exact hc

theorem step_owned {c : Course Ledger} (config : Config) (next : Step) (hc : c.Owned) :
    (c.step script.platform config next).2.Owned := by
  have refl := fun handles : List Descriptor => List.Perm.refl handles
  have hall : c.state.Holds (c.holdings.handles ++ []) := hc.perm (by simp)
  cases next with
  | run => exact perform_owned (owns_run config) hc (fun _ => refl _) (refl _)
  | establishAt i =>
    have hn := dropSession_session? script.platform c i
    refine perform_owned (owns_establish config) (dropSession_owned hc i) (fun session => ?_) (refl _)
    exact (Holdings.handles_putSession hn session).symm
  | publishAt i =>
    simp only [step]
    split
    · rename_i session hs
      have hp := Holdings.handles_takeSession hs
      exact perform_owned (owns_publish session) (hc.perm hp) (fun _ => hp.symm) hp.symm
    · exact hc
  | serveAt i =>
    simp only [step]
    split
    · rename_i session hs
      exact perform_owned (owns_serve session) (hc.perm (Holdings.handles_takeSession hs)) (fun _ => refl _) (refl _)
    · exact hc
  | discardAt i => exact dropSession_owned hc i
  | create =>
    exact perform_owned (owns_createDirectory config) hall
      (fun dir => by simpa using (Holdings.handles_create _ dir).symm) (by simp)
  | listen i name =>
    simp only [step]
    split
    · rename_i dir hd
      have hm : dir.handle ∈ c.holdings.handles :=
        (Holdings.handles_takeDirectory hd).mem_iff.mpr (List.mem_cons_self ..)
      exact perform_owned (owns_listen name hm) hall
        (fun listener => by simpa using (Holdings.handles_listen _ listener).symm) (by simp)
    · exact hc
  | announce i j k =>
    simp only [step]
    split
    · exact perform_owned (owns_announce _ _ _) hall (fun _ => by simp) (by simp)
    · exact hc
  | serveOnce i j k =>
    simp only [step]
    split
    · rename_i dir data pass ht
      exact perform_owned (owns_serveOnce dir data pass) (hc.perm (Holdings.handles_triple ht)) (fun _ => refl _) (refl _)
    · exact hc
  | dropDirectory i =>
    simp only [step]
    split
    · rename_i dir hd
      exact releasing_owned hc (Holdings.handles_takeDirectory hd)
    · exact hc
  | dropSocket i =>
    simp only [step]
    split
    · rename_i listener hs
      exact releasing_owned hc (Holdings.handles_takeSocket hs)
    · exact hc

/-- Where a sequence of steps leads, each of them with a configuration of its own. -/
def follow {σ : Type} (P : Platform σ) (c : Course σ) (moves : List (Config × Step)) : Course σ :=
  moves.foldl (fun c move => (c.step P move.1 move.2).2) c

@[simp] theorem follow_nil {σ : Type} (P : Platform σ) (c : Course σ) : c.follow P [] = c := rfl

@[simp] theorem follow_snoc {σ : Type} (P : Platform σ) (c : Course σ) (moves : List (Config × Step))
    (move : Config × Step) : c.follow P (moves ++ [move]) = ((c.follow P moves).step P move.1 move.2).2 := by
  simp [follow]

/-- With one configuration for all steps it is where they lead with their replies. -/
theorem steps_snd {σ : Type} (P : Platform σ) (config : Config) (c : Course σ) (steps : List Step) :
    (c.steps P config steps).2 = c.follow P (steps.map fun next => (config, next)) := by
  induction steps generalizing c with
  | nil => rfl
  | cons next rest ih => exact ih (c.step P config next).2

def start : Course Ledger := ⟨Holdings.empty, Ledger.empty⟩

theorem start_owned : start.Owned := ⟨Ledger.sound_empty, List.Perm.refl _⟩

theorem follow_owned (script : Script) (moves : List (Config × Step)) : (start.follow script.platform moves).Owned := by
  induction moves using List.reverseRecOn with
  | nil => exact start_owned
  | append_singleton moves move ih =>
    rw [follow_snoc]
    exact step_owned move.1 move.2 ih

/-- After any steps the open handles are those of the sessions, the directories and the sockets that are held, all
different; every other handle that was ever handed out has been let go once; and nobody has used or let go a handle that
was not open. -/
theorem open_handles_are_the_held_ones (script : Script) (moves : List (Config × Step)) :
    let c := start.follow script.platform moves
    c.holdings.handles.Nodup ∧ c.state.live.Perm c.holdings.handles ∧ c.state.live = History.live c.state.history ∧
      (∀ h ∈ c.state.issued, c.state.closed.count h = if h ∈ c.holdings.handles then 0 else 1) ∧
      ∀ before r later, c.state.history = before ++ r :: later → ∀ h ∈ r.uses, h ∈ History.live before := by
  intro c
  have hc : c.Owned := follow_owned script moves
  have hb := hc.sound.orderly.balanced
  refine ⟨hc.nodup, hc.live_perm, hc.sound.live_eq, fun h hi => ?_, fun before r later hs => ?_⟩
  · have hone : (History.issued c.state.history).count h = 1 := List.count_eq_one_of_mem hb.issued_nodup hi
    rw [hb.accounts.count_eq, List.count_append, ← hc.sound.live_eq, hc.live_perm.count_eq] at hone
    have hclosed : c.state.closed.count h = (History.closed c.state.history).count h := rfl
    split
    · rename_i hm
      have hheld := List.count_eq_one_of_mem hc.nodup hm
      omega
    · rename_i hm
      have hheld := List.count_eq_zero_of_not_mem hm
      omega
  · exact (hc.sound.orderly before r later hs).uses_live

end Course

end Handover
