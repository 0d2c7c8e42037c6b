import Handover.Proofs.Custody

/-! # What a step names, and what it keeps

A step names sessions, directories and sockets by their positions. Since all handles that are held are different, those
of what is not named are different from those of what is; and all that is not named is still held after the step, with
the same path, name and handle.
-/
namespace Handover

namespace Step

/-- A run names none: it has a session of its own. -/
def sessions : Step → List Nat
  | .establishAt i | .publishAt i | .serveAt i | .discardAt i => [i]
  | _ => []

def directories : Step → List Nat
  | .listen i _ | .announce i _ _ | .serveOnce i _ _ | .dropDirectory i => [i]
  | _ => []

def sockets : Step → List Nat
  | .announce _ j k | .serveOnce _ j k => [j, k]
  | .dropSocket i => [i]
  | _ => []

end Step

namespace Holdings

variable {h : Holdings} {next : Step}

def named (h : Holdings) (next : Step) : List Descriptor :=
  (next.sessions.filterMap h.session?).flatMap Session.handles ++
    (next.directories.filterMap h.directory?).map PrivateDirectory.handle ++
    (next.sockets.filterMap h.socket?).map Listener.handle

/-- The handle belongs to something that is held and that the step does not name. -/
inductive Spares (h : Holdings) (next : Step) : Descriptor → Prop where
  | session {i : Nat} {s : Session} {handle : Descriptor} : i ∉ next.sessions → h.session? i = some s →
      handle ∈ s.handles → Spares h next handle
  | directory {i : Nat} {dir : PrivateDirectory} : i ∉ next.directories → h.directory? i = some dir →
      Spares h next dir.handle
  | socket {i : Nat} {listener : Listener} : i ∉ next.sockets → h.socket? i = some listener →
      Spares h next listener.handle

/-- What the step does not name is held afterwards as it was before. -/
structure Keeps (h : Holdings) (next : Step) (h' : Holdings) : Prop where
  session : ∀ i ∉ next.sessions, h'.session? i = h.session? i
  directory : ∀ i ∉ next.directories, ∀ dir, h.directory? i = some dir → h'.directory? i = some dir
  socket : ∀ i ∉ next.sockets, ∀ listener, h.socket? i = some listener → h'.socket? i = some listener

theorem Keeps.refl (h : Holdings) (next : Step) : h.Keeps next h :=
  ⟨fun _ _ => rfl, fun _ _ _ hd => hd, fun _ _ _ hs => hs⟩

/-! ## Handles of different things -/

theorem session_mem_handles {i : Nat} {s : Session} {handle : Descriptor} (hs : h.session? i = some s)
    (hm : handle ∈ s.handles) : handle ∈ h.handles :=
  (handles_takeSession hs).mem_iff.mpr (List.mem_append_left _ hm)

theorem directory_mem_handles {i : Nat} {dir : PrivateDirectory} (hd : h.directory? i = some dir) :
    dir.handle ∈ h.handles :=
  (handles_takeDirectory hd).mem_iff.mpr (List.mem_cons_self ..)

theorem socket_mem_handles {i : Nat} {listener : Listener} (hs : h.socket? i = some listener) :
    listener.handle ∈ h.handles :=
  (handles_takeSocket hs).mem_iff.mpr (List.mem_cons_self ..)

theorem mem_named {handle : Descriptor} : handle ∈ h.named next ↔
    (∃ i ∈ next.sessions, ∃ s, h.session? i = some s ∧ handle ∈ s.handles) ∨
      (∃ i ∈ next.directories, ∃ dir, h.directory? i = some dir ∧ dir.handle = handle) ∨
      ∃ i ∈ next.sockets, ∃ listener, h.socket? i = some listener ∧ listener.handle = handle := by
  have hsession : handle ∈ (next.sessions.filterMap h.session?).flatMap Session.handles ↔
      ∃ i ∈ next.sessions, ∃ s, h.session? i = some s ∧ handle ∈ s.handles := by
    simp only [List.mem_flatMap, List.mem_filterMap]
    exact ⟨fun ⟨s, ⟨i, hi, hs⟩, hm⟩ => ⟨i, hi, s, hs, hm⟩, fun ⟨i, hi, s, hs, hm⟩ => ⟨s, ⟨i, hi, hs⟩, hm⟩⟩
  have hdirectory : handle ∈ (next.directories.filterMap h.directory?).map PrivateDirectory.handle ↔
      ∃ i ∈ next.directories, ∃ dir, h.directory? i = some dir ∧ dir.handle = handle := by
    simp only [List.mem_map, List.mem_filterMap]
    exact ⟨fun ⟨dir, ⟨i, hi, hd⟩, he⟩ => ⟨i, hi, dir, hd, he⟩, fun ⟨i, hi, dir, hd, he⟩ => ⟨dir, ⟨i, hi, hd⟩, he⟩⟩
  have hsocket : handle ∈ (next.sockets.filterMap h.socket?).map Listener.handle ↔
      ∃ i ∈ next.sockets, ∃ listener, h.socket? i = some listener ∧ listener.handle = handle := by
    simp only [List.mem_map, List.mem_filterMap]
    exact ⟨fun ⟨x, ⟨i, hi, hx⟩, he⟩ => ⟨i, hi, x, hx, he⟩, fun ⟨i, hi, x, hx, he⟩ => ⟨x, ⟨i, hi, hx⟩, he⟩⟩
  rw [named, List.mem_append, List.mem_append, hsession, hdirectory, hsocket, or_assoc]

theorem named_subset_handles : h.named next ⊆ h.handles := by
  intro handle hm
  rcases mem_named.mp hm with ⟨i, -, s, hs, hm⟩ | ⟨i, -, dir, hd, rfl⟩ | ⟨i, -, listener, hx, rfl⟩
  · exact session_mem_handles hs hm
  · exact directory_mem_handles hd
  · exact socket_mem_handles hx

def served? (h : Holdings) : Step → Option (PrivateDirectory × Listener × Listener)
  | .serveAt i => (h.session? i).map fun s => (s.directory, s.data, s.pass)
  | .serveOnce i j k => h.triple? i j k
  | _ => none

theorem mem_named_iff_of_served? {dir : PrivateDirectory} {data pass : Listener} {handle : Descriptor}
    (hs : h.served? next = some (dir, data, pass)) :
    handle ∈ h.named next ↔ handle ∈ [pass.handle, data.handle, dir.handle] := by
  have hnamed : h.named next = [pass.handle, data.handle, dir.handle].reverse := by
    cases next with
    | serveAt i =>
      obtain ⟨s, hsession, hparts⟩ := Option.map_eq_some_iff.mp hs
      obtain ⟨rfl, rfl, rfl⟩ : s.directory = dir ∧ s.data = data ∧ s.pass = pass := by simpa using hparts
      simp [named, Step.sessions, Step.directories, Step.sockets, hsession, Session.handles]
    | serveOnce i j k =>
      obtain ⟨-, hd, ha, hp⟩ := triple?_eq_some hs
      simp [named, Step.sessions, Step.directories, Step.sockets, hd, ha, hp]
    | _ => simp [served?] at hs
  rw [hnamed, List.mem_reverse]

theorem filterMap_set_none {α : Type} {items : List (Option α)} {places : List Nat} {i : Nat} (hi : i ∉ places) :
    places.filterMap (fun j => ((items.set i none)[j]?).join) = places.filterMap fun j => (items[j]?).join := by
  refine List.filterMap_congr fun j hj => ?_
  have hij : i ≠ j := (ne_of_mem_of_not_mem hj hi).symm
  rw [List.getElem?_set_ne hij]

theorem named_takeSession {i : Nat} (hi : i ∉ next.sessions) : (h.takeSession i).named next = h.named next := by
  have hs : next.sessions.filterMap (h.takeSession i).session? = next.sessions.filterMap h.session? :=
    filterMap_set_none hi
  rw [named, hs]
  rfl

theorem named_takeDirectory {i : Nat} (hi : i ∉ next.directories) : (h.takeDirectory i).named next = h.named next := by
  have hd : next.directories.filterMap (h.takeDirectory i).directory? = next.directories.filterMap h.directory? :=
    filterMap_set_none hi
  rw [named, hd]
  rfl

theorem named_takeSocket {i : Nat} (hi : i ∉ next.sockets) : (h.takeSocket i).named next = h.named next := by
  have hx : next.sockets.filterMap (h.takeSocket i).socket? = next.sockets.filterMap h.socket? :=
    filterMap_set_none hi
  rw [named, hx]
  rfl

/-- What is not named can be taken out without a change to what is, and its handle is then held no more. -/
theorem Spares.not_mem_named {handle : Descriptor} (hs : h.Spares next handle) (hn : h.handles.Nodup) :
    handle ∉ h.named next := by
  intro hm
  cases hs with
  | session hi hsession hmem =>
    rw [(handles_takeSession hsession).nodup_iff] at hn
    rw [← named_takeSession hi] at hm
    exact (List.nodup_append.mp hn).2.2 handle hmem handle (named_subset_handles hm) rfl
  | directory hi hd =>
    rw [(handles_takeDirectory hd).nodup_iff] at hn
    rw [← named_takeDirectory hi] at hm
    exact (List.nodup_cons.mp hn).1 (named_subset_handles hm)
  | socket hi hx =>
    rw [(handles_takeSocket hx).nodup_iff] at hn
    rw [← named_takeSocket hi] at hm
    exact (List.nodup_cons.mp hn).1 (named_subset_handles hm)

theorem Keeps.mem_handles {h' : Holdings} (hk : h.Keeps next h') {handle : Descriptor} (hs : h.Spares next handle) :
    handle ∈ h'.handles := by
  cases hs with
  | session hi hs hmem => exact session_mem_handles ((hk.session _ hi).trans hs) hmem
  | directory hi hd => exact directory_mem_handles (hk.directory _ hi _ hd)
  | socket hi hx => exact socket_mem_handles (hk.socket _ hi _ hx)

theorem exists_join_of_mem {α : Type} {items : List (Option α)} {a : α} (hm : a ∈ items.filterMap id) :
    ∃ i : Nat, (items[i]?).join = some a := by
  obtain ⟨item, hitem, ha⟩ := List.mem_filterMap.mp hm
  obtain ⟨i, hi⟩ := List.mem_iff_getElem?.mp hitem
  exact ⟨i, by rw [hi]; exact ha⟩

theorem named_or_spares {handle : Descriptor} (hm : handle ∈ h.handles) :
    handle ∈ h.named next ∨ h.Spares next handle := by
  rw [handles, List.mem_append, List.mem_append] at hm
  rcases hm with (hm | hm) | hm
  · obtain ⟨s, hs, hmem⟩ := List.mem_flatMap.mp hm
    obtain ⟨i, hi⟩ := exists_join_of_mem hs
    by_cases hn : i ∈ next.sessions
    · exact Or.inl (mem_named.mpr (Or.inl ⟨i, hn, s, hi, hmem⟩))
    · exact Or.inr (.session hn hi hmem)
  · obtain ⟨dir, hdir, rfl⟩ := List.mem_map.mp hm
    obtain ⟨i, hi⟩ := exists_join_of_mem hdir
    by_cases hn : i ∈ next.directories
    · exact Or.inl (mem_named.mpr (Or.inr (Or.inl ⟨i, hn, dir, hi, rfl⟩)))
    · exact Or.inr (.directory hn hi)
  · obtain ⟨listener, hlistener, rfl⟩ := List.mem_map.mp hm
    obtain ⟨i, hi⟩ := exists_join_of_mem hlistener
    by_cases hn : i ∈ next.sockets
    · exact Or.inl (mem_named.mpr (Or.inr (Or.inr ⟨i, hn, listener, hi, rfl⟩)))
    · exact Or.inr (.socket hn hi)

/-! ## What is held after a step -/

theorem keeps_takeSession {i : Nat} (hi : i ∈ next.sessions) : h.Keeps next (h.takeSession i) := by
  refine ⟨fun j hj => ?_, fun _ _ _ hd => hd, fun _ _ _ hs => hs⟩
  have hij : i ≠ j := ne_of_mem_of_not_mem hi hj
  exact session?_takeSession_ne h hij

theorem keeps_putSession {i : Nat} (hi : i ∈ next.sessions) (s : Session) : h.Keeps next (h.putSession i s) := by
  refine ⟨fun j hj => ?_, fun _ _ _ hd => hd, fun _ _ _ hs => hs⟩
  have hij : i ≠ j := ne_of_mem_of_not_mem hi hj
  exact session?_putSession_ne h hij s

theorem keeps_takeDirectory {i : Nat} (hi : i ∈ next.directories) : h.Keeps next (h.takeDirectory i) := by
  refine ⟨fun _ _ => rfl, fun j hj dir hd => ?_, fun _ _ _ hs => hs⟩
  have hij : i ≠ j := ne_of_mem_of_not_mem hi hj
  rw [directory?, takeDirectory, List.getElem?_set_ne hij]
  exact hd

theorem keeps_takeSocket {i : Nat} (hi : i ∈ next.sockets) : h.Keeps next (h.takeSocket i) := by
  refine ⟨fun _ _ => rfl, fun _ _ _ hd => hd, fun j hj listener hx => ?_⟩
  have hij : i ≠ j := ne_of_mem_of_not_mem hi hj
  rw [socket?, takeSocket, List.getElem?_set_ne hij]
  exact hx

theorem Keeps.trans {h' h'' : Holdings} (hk : h.Keeps next h') (hk' : h'.Keeps next h'') : h.Keeps next h'' :=
  ⟨fun i hi => (hk'.session i hi).trans (hk.session i hi),
    fun i hi dir hd => hk'.directory i hi dir (hk.directory i hi dir hd),
    fun i hi listener hx => hk'.socket i hi listener (hk.socket i hi listener hx)⟩

theorem join_append {α : Type} {items more : List (Option α)} {i : Nat} {a : α} (hi : (items[i]?).join = some a) :
    ((items ++ more)[i]?).join = some a := by
  cases hitem : items[i]? with
  | none => simp [hitem] at hi
  | some item =>
    have hlt : i < items.length := (List.getElem?_eq_some_iff.mp hitem).1
    rw [List.getElem?_append_left hlt]
    exact hi

theorem keeps_create (dir : PrivateDirectory) :
    h.Keeps next { h with directories := h.directories ++ [some dir] } :=
  ⟨fun _ _ => rfl, fun _ _ _ hd => join_append hd, fun _ _ _ hs => hs⟩

theorem keeps_listen (listener : Listener) : h.Keeps next { h with sockets := h.sockets ++ [some listener] } :=
  ⟨fun _ _ => rfl, fun _ _ _ hd => hd, fun _ _ _ hs => join_append hs⟩

end Holdings

namespace Course

section Held

variable {σ α : Type} {P : Platform σ}

theorem perform_keeps {c : Course σ} {h : Holdings} {next : Step} {action : Action σ α} {keep : α → Holdings × Reply}
    (hc : h.Keeps next c.holdings) (hk : ∀ a, h.Keeps next (keep a).1) :
    h.Keeps next (c.perform action keep).2.holdings := by
  unfold perform
  cases action c.state with
  | ok a s => exact hk a
  | error e s => exact hc

theorem dropSession_keeps {next : Step} (c : Course σ) {i : Nat} (hi : i ∈ next.sessions) :
    c.holdings.Keeps next (c.dropSession P i).holdings := by
  unfold dropSession
  split
  · exact Holdings.keeps_takeSession hi
  · exact .refl _ next

theorem step_keeps (config : Config) (c : Course σ) (next : Step) :
    c.holdings.Keeps next (c.step P config next).2.holdings := by
  have refl : c.holdings.Keeps next c.holdings := .refl _ next
  cases next with
  | run => exact perform_keeps refl fun _ => refl
  | establishAt i =>
    have hi : i ∈ (Step.establishAt i).sessions := List.mem_singleton_self i
    have hd : c.holdings.Keeps (.establishAt i) (c.dropSession P i).holdings := dropSession_keeps c hi
    exact perform_keeps hd fun session => hd.trans (Holdings.keeps_putSession hi session)
  | publishAt i =>
    simp only [step]
    split
    · exact perform_keeps refl fun _ => refl
    · exact refl
  | serveAt i =>
    simp only [step]
    split
    · have hd : c.holdings.Keeps (.serveAt i) (c.holdings.takeSession i) :=
        Holdings.keeps_takeSession (List.mem_singleton_self i)
      exact perform_keeps hd fun _ => hd
    · exact refl
  | discardAt i => exact dropSession_keeps c (List.mem_singleton_self i)
  | create => exact perform_keeps refl fun dir => Holdings.keeps_create dir
  | listen i name =>
    simp only [step]
    split
    · exact perform_keeps refl fun listener => Holdings.keeps_listen listener
    · exact refl
  | announce i j k =>
    simp only [step]
    split
    · exact perform_keeps refl fun _ => refl
    · exact refl
  | serveOnce i j k =>
    simp only [step]
    split
    · have hd : c.holdings.Keeps (.serveOnce i j k) (c.holdings.takeDirectory i) :=
        Holdings.keeps_takeDirectory (List.mem_singleton_self i)
      have ha := hd.trans (Holdings.keeps_takeSocket (List.mem_cons_self : j ∈ [j, k]))
      have hp := ha.trans (Holdings.keeps_takeSocket (List.mem_cons_of_mem j (List.mem_singleton_self k)))
      exact perform_keeps hp fun _ => hp
    · exact refl
  | dropDirectory i =>
    simp only [step]
    split
    · exact Holdings.keeps_takeDirectory (List.mem_singleton_self i)
    · exact refl
  | dropSocket i =>
    simp only [step]
    split
    · exact Holdings.keeps_takeSocket (List.mem_singleton_self i)
    · exact refl

end Held

end Course

end Handover
