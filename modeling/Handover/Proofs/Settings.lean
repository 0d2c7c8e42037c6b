import Handover.Consumer.Launch
import Handover.Proofs.Resolution

/-! # What is set for a launch

A consumer sets a launch up step by step, in any order and as often as it likes. Of each thing that is set once the last
setting counts, and variables count one key at a time, so settings of different things do not get into each other's way.
The helper finds what was set in its environment: a base directory in the variable for the runtime directory, above
whatever else was said about that variable, and the rest as it was set last or inherited.
-/
namespace Handover

open Bytes (ofString)

section Last

variable {α β : Type} {pick : α → Option β} {items : List α}

/-- What the last item has of those that have something. -/
def lastOf (pick : α → Option β) (items : List α) : Option β := (items.filterMap pick).getLast?

@[simp] theorem lastOf_snoc (items : List α) (item : α) :
    lastOf pick (items ++ [item]) = (pick item).or (lastOf pick items) := by
  unfold lastOf
  cases h : pick item <;> simp [List.filterMap_append, h]

theorem lastOf_filterMap {γ : Type} (f : γ → Option α) (items : List γ) :
    lastOf pick (items.filterMap f) = lastOf (fun item => (f item).bind pick) items := by
  simp only [lastOf, List.filterMap_filterMap]

/-- Items that have nothing can be left out. -/
theorem lastOf_filter {keep : α → Bool} (h : ∀ item, keep item = false → pick item = none) :
    lastOf pick (items.filter keep) = lastOf pick items := by
  induction items using List.reverseRecOn with
  | nil => rfl
  | append_singleton items item ih =>
    rw [List.filter_append, lastOf_snoc, ← ih]
    cases hk : keep item with
    | true => simp [hk]
    | false => simp [hk, h item hk]

end Last

namespace Environment

def valueAt (key : Bytes) (binding : Bytes × Bytes) : Option Bytes := if binding.1 = key then some binding.2 else none

theorem setAll_eq (e : Environment) (bindings : List (Bytes × Bytes)) (key : Bytes) :
    e.setAll bindings key = (lastOf (valueAt key) bindings).or (e key) := by
  induction bindings using List.reverseRecOn with
  | nil => rfl
  | append_singleton bindings binding ih =>
    obtain ⟨k, value⟩ := binding
    rw [setAll_append, setAll_cons, setAll_nil, lastOf_snoc]
    by_cases hk : k = key
    · subst hk
      simp [valueAt]
    · rw [set_other _ _ (Ne.symm hk), ih]
      simp [valueAt, hk]

end Environment

inductive Setting where
  | program (program : Path)
  | baseDir (dir : Path)
  | variable (key value : Bytes)
deriving DecidableEq, Repr

namespace Setting

inductive Field where
  | program | baseDir | variables
deriving DecidableEq, Repr

def field : Setting → Field
  | .program _ => .program
  | .baseDir _ => .baseDir
  | .variable _ _ => .variables

def program? : Setting → Option Path
  | .program path => some path
  | _ => none

def baseDir? : Setting → Option Path
  | .baseDir dir => some dir
  | _ => none

def binding? : Setting → Option (Bytes × Bytes)
  | .variable key value => some (key, value)
  | _ => none

theorem binding?_eq_some_iff {key value : Bytes} {s : Setting} :
    s.binding? = some (key, value) ↔ s = .variable key value := by
  cases s <;> simp [binding?]

def valueOf? (key : Bytes) (s : Setting) : Option Bytes := s.binding?.bind (Environment.valueAt key)

theorem valueOf?_eq_some_iff {key value : Bytes} {s : Setting} : s.valueOf? key = some value ↔ s = .variable key value := by
  cases s <;> simp [valueOf?, binding?, Environment.valueAt]

end Setting

theorem ofString_equalsSign : ofString "=" = [Bytes.equalsSign] := by decide

namespace Launch

variable {settings : List Setting} {parent : Environment} {key : Bytes} {dir : Path}

def apply (l : Launch) : Setting → Launch
  | .program program => l.withProgram program
  | .baseDir dir => l.withBaseDir dir
  | .variable key value => l.withVariable key value

def build (settings : List Setting) : Launch := settings.foldl apply default

theorem build_eq (settings : List Setting) :
    build settings = ⟨(lastOf Setting.program? settings).getD defaultProgram, lastOf Setting.baseDir? settings,
      settings.filterMap Setting.binding?⟩ := by
  induction settings using List.reverseRecOn with
  | nil => rfl
  | append_singleton settings s ih =>
    have hstep : build (settings ++ [s]) = (build settings).apply s := by simp [build]
    rw [hstep, ih]
    cases s <;> simp [apply, withProgram, withBaseDir, withVariable, Setting.program?, Setting.baseDir?,
      Setting.binding?]

theorem apply_comm (l : Launch) {a b : Setting} (h : a.field ≠ b.field) : (l.apply a).apply b = (l.apply b).apply a := by
  cases a <;> cases b <;> first | rfl | exact absurd rfl h

theorem build_swap {before after : List Setting} {a b : Setting} (h : a.field ≠ b.field) :
    build (before ++ b :: a :: after) = build (before ++ a :: b :: after) := by
  simp only [build, List.foldl_append, List.foldl_cons]
  rw [apply_comm _ h]

theorem setAll_bindings (settings : List Setting) (parent : Environment) (key : Bytes) :
    parent.setAll (build settings).bindings key = (lastOf (Setting.valueOf? key) settings).or (parent key) := by
  rw [Environment.setAll_eq, build_eq, lastOf_filterMap]
  rfl

theorem handed_build_runtimeDir (settings : List Setting) (parent : Environment) :
    (build settings).handed parent runtimeDirVariable =
      ((lastOf Setting.baseDir? settings).map Path.bytes).or
        ((lastOf (Setting.valueOf? runtimeDirVariable) settings).or (parent runtimeDirVariable)) := by
  have hdir : (build settings).baseDir = lastOf Setting.baseDir? settings := congrArg Launch.baseDir (build_eq settings)
  rw [← setAll_bindings, ← hdir]
  unfold handed
  cases (build settings).baseDir with
  | none => simp
  | some dir => simp

theorem handed_build_other (settings : List Setting) (parent : Environment) (h : key ≠ runtimeDirVariable) :
    (build settings).handed parent key = (lastOf (Setting.valueOf? key) settings).or (parent key) :=
  (handed_other _ parent h).trans (setAll_bindings settings parent key)

theorem names_build (settings : List Setting) :
    (build settings).bindings.map Prod.fst = settings.filterMap fun s => s.binding?.map Prod.fst := by
  rw [build_eq, List.map_filterMap]

theorem mem_names_build {name : Bytes} :
    name ∈ (build settings).bindings.map Prod.fst ↔ ∃ value, .variable name value ∈ settings := by
  simp [names_build, Setting.binding?_eq_some_iff]

def without (key : Bytes) (settings : List Setting) : List Setting :=
  settings.filter fun s => decide (s.valueOf? key = none)

theorem lastOf_without {β : Type} {pick : Setting → Option β} (h : ∀ value, pick (.variable key value) = none) :
    lastOf pick (without key settings) = lastOf pick settings := by
  refine lastOf_filter fun s hs => ?_
  obtain ⟨value, hv⟩ := Option.ne_none_iff_exists'.mp (of_decide_eq_false hs)
  rw [Setting.valueOf?_eq_some_iff.mp hv]
  exact h value

theorem handed_without (h : lastOf Setting.baseDir? settings = some dir) :
    (build (without runtimeDirVariable settings)).handed parent = (build settings).handed parent := by
  have hdir : lastOf Setting.baseDir? (without runtimeDirVariable settings) = some dir :=
    (lastOf_without fun _ => rfl).trans h
  funext key
  by_cases hk : key = runtimeDirVariable
  · rw [hk, handed_build_runtimeDir, handed_build_runtimeDir, h, hdir]
    rfl
  · have hvalues : lastOf (Setting.valueOf? key) (without runtimeDirVariable settings) =
        lastOf (Setting.valueOf? key) settings :=
      lastOf_without fun value => by simp [Setting.valueOf?, Setting.binding?, Environment.valueAt, Ne.symm hk]
    rw [handed_build_other _ _ hk, handed_build_other _ _ hk, hvalues]

/-- A name without `=` goes on from no other, so it makes no difference which of them are bound. -/
theorem goingOn_without (hkey : Bytes.equalsSign ∉ key) (settings : List Setting) (under : Bytes) :
    ((build (without key settings)).bindings.map Prod.fst).filter (Environment.goesOn under) =
      ((build settings).bindings.map Prod.fst).filter (Environment.goesOn under) := by
  rw [names_build, names_build, without, List.filterMap_filter, List.filter_filterMap, List.filter_filterMap]
  refine List.filterMap_congr fun s _ => ?_
  by_cases hs : s.valueOf? key = none
  · simp [hs]
  · obtain ⟨value, hv⟩ := Option.ne_none_iff_exists'.mp hs
    obtain rfl := Setting.valueOf?_eq_some_iff.mp hv
    simp [hv, Setting.binding?, Option.filter, Environment.goesOn_eq_false hkey under]

/-- A launch that has a base directory does not depend on what was said about the variable it is handed over in. -/
theorem environment_without (h : lastOf Setting.baseDir? settings = some dir) :
    (build (without runtimeDirVariable settings)).environment parent = (build settings).environment parent := by
  unfold environment
  rw [handed_without h]
  exact Environment.handedOver_congr (goingOn_without (by decide) settings) _

/-- If no name that is set goes on from it, a variable is found as it is handed over. -/
theorem environment_of_plain (h : ∀ name value, .variable name value ∈ settings → ¬key ++ ofString "=" <+: name) :
    (build settings).environment parent key = (build settings).handed parent key := by
  refine Environment.handedOver_of_plain _ fun name hname => ?_
  obtain ⟨value, hs⟩ := mem_names_build.mp hname
  exact Bool.eq_false_iff.mpr fun hon => h name value hs (ofString_equalsSign ▸ List.isPrefixOf_iff_prefix.mp hon)

/-- What is found under a variable that is not handed over is how the first of the names goes on that start with it. -/
theorem exists_of_environment {value : Bytes} (hnone : (build settings).handed parent key = none)
    (hfound : (build settings).environment parent key = some value) :
    ∃ name bound, (build settings).handed parent name = some bound ∧
      name ++ ofString "=" ++ bound = key ++ ofString "=" ++ value ∧
      ∀ other any, .variable other any ∈ settings → key ++ ofString "=" <+: other → name ≤ other := by
  obtain ⟨name, -, bound, hbound, htext, hfirst⟩ := Environment.handedOver_of_none hnone hfound
  refine ⟨name, bound, hbound, ?_, fun other any hs hon => ?_⟩
  · simpa [ofString_equalsSign] using htext
  · exact hfirst other (mem_names_build.mpr ⟨any, hs⟩) (List.isPrefixOf_iff_prefix.mpr (ofString_equalsSign ▸ hon))

end Launch

namespace Config

theorem resolve_of_builtin {e : Environment} (h : Selects e (Path.ofString "/tmp") .builtin)
    (currentDir : Except IoError Path) : resolve e currentDir = .ok ⟨Path.ofString "/tmp", .builtin⟩ := by
  have htmp : (Path.ofString "/tmp").isAbsolute = true := by decide
  simp only [resolve, selects_iff.mp h, anchor, htmp, if_true]
  rfl

theorem resolve_eq_ofBase {e : Environment} {dir : Path} (h : e runtimeDirVariable = some dir.bytes)
    (hne : dir.bytes ≠ []) (currentDir : Except IoError Path) : resolve e currentDir = ofBase dir currentDir := by
  have hs : select e = (dir, .runtimeDir) := selects_iff.mp (.runtimeDir h hne)
  exact resolve_congr (hs.trans (select_ofBase hne).symm) currentDir

theorem resolve_unset {e : Environment} (h : IsUnset e runtimeDirVariable) (currentDir : Except IoError Path) :
    resolve (e.unset runtimeDirVariable) currentDir = resolve e currentDir := by
  have hr : nonEmpty (e.unset runtimeDirVariable) runtimeDirVariable = none :=
    nonEmpty_eq_none_iff.mpr (Or.inl (Environment.unset_same e _))
  have ht : e.unset runtimeDirVariable tempDirVariable = e tempDirVariable :=
    Environment.unset_other e (by decide)
  exact resolve_congr (select_congr (hr.trans (nonEmpty_eq_none_iff.mpr h).symm) fun _ => nonEmpty_congr ht) currentDir

end Config

/-- Of the program and of the base directory the last setting counts, or else the default, and variables are set in the
order of their settings, so neighbours that are about different things can change places. Among the variables that the
helper is handed the base directory is the runtime directory, above the last setting of that variable and above the
parent's, and every other variable is as it was set last or as the parent has it. The helper finds them so, and nothing
else unless a name was set that holds `=`: under a variable that is not set it may find how such a name goes on. A base
directory that is not empty is the one that the helper resolves, whatever else was said about the variable; with an empty
one nothing that was said about it matters, and the helper resolves its directory for temporary files, or else `/tmp`. -/
theorem the_helper_resolves_what_was_set (settings : List Setting) (parent : Environment) :
    let l := Launch.build settings
    let handed := l.handed parent
    let e := l.environment parent
    (l.program = (lastOf Setting.program? settings).getD (Path.ofString "socket-binder") ∧
      l.baseDir = lastOf Setting.baseDir? settings ∧ l.bindings = settings.filterMap Setting.binding?) ∧
    (∀ before a b after, settings = before ++ a :: b :: after → a.field ≠ b.field →
      Launch.build (before ++ b :: a :: after) = l) ∧
    handed (ofString "XDG_RUNTIME_DIR") = ((lastOf Setting.baseDir? settings).map Path.bytes).or
      ((lastOf (Setting.valueOf? (ofString "XDG_RUNTIME_DIR")) settings).or (parent (ofString "XDG_RUNTIME_DIR"))) ∧
    (∀ key, key ≠ ofString "XDG_RUNTIME_DIR" →
      handed key = (lastOf (Setting.valueOf? key) settings).or (parent key)) ∧
    (∀ key, Environment.IsName key →
      (∀ value, handed key = some value → e key = some value) ∧
      ((∀ name value, .variable name value ∈ settings → ¬key ++ ofString "=" <+: name) → e key = handed key) ∧
      ∀ value, handed key = none → e key = some value → ∃ name bound, handed name = some bound ∧
        name ++ ofString "=" ++ bound = key ++ ofString "=" ++ value ∧
        ∀ other any, .variable other any ∈ settings → key ++ ofString "=" <+: other → name ≤ other) ∧
    ∀ dir, lastOf Setting.baseDir? settings = some dir →
      e = (Launch.build (Launch.without (ofString "XDG_RUNTIME_DIR") settings)).environment parent ∧
      (dir.bytes ≠ [] → Config.Selects e dir .runtimeDir ∧
        ∀ currentDir, Config.resolve e currentDir = Config.ofBase dir currentDir ∧
          Config.LeadsTo currentDir dir .runtimeDir (Config.resolve e currentDir)) ∧
      (dir.bytes = [] →
        (∀ currentDir, Config.resolve e currentDir =
          Config.resolve (e.unset (ofString "XDG_RUNTIME_DIR")) currentDir) ∧
        (∀ temp, e (ofString "TMPDIR") = some temp → temp ≠ [] → Config.Selects e ⟨temp⟩ .tempDir ∧
          ∀ currentDir, Config.LeadsTo currentDir ⟨temp⟩ .tempDir (Config.resolve e currentDir)) ∧
        (Config.IsUnset e (ofString "TMPDIR") → Config.Selects e (Path.ofString "/tmp") .builtin ∧
          ∀ currentDir, Config.resolve e currentDir = .ok ⟨Path.ofString "/tmp", .builtin⟩)) := by
  intro l handed e
  have hl : l = ⟨(lastOf Setting.program? settings).getD defaultProgram, lastOf Setting.baseDir? settings,
      settings.filterMap Setting.binding?⟩ := Launch.build_eq settings
  refine ⟨hl ▸ ⟨rfl, rfl, rfl⟩, ?_, Launch.handed_build_runtimeDir settings parent,
    fun key hkey => Launch.handed_build_other settings parent hkey,
    fun key _ => ⟨fun value hv => Environment.handedOver_of_some hv _, Launch.environment_of_plain,
      fun value => Launch.exists_of_environment⟩,
    fun dir hdir => ?_⟩
  · rintro before a b after rfl hfield
    exact Launch.build_swap hfield
  · have hset : e runtimeDirVariable = some dir.bytes :=
      Environment.handedOver_of_some (Launch.handed_runtimeDir ((congrArg Launch.baseDir hl).trans hdir) parent) _
    refine ⟨(Launch.environment_without hdir).symm, fun hne => ?_, fun hempty => ?_⟩
    · have hs : Config.Selects e dir .runtimeDir := .runtimeDir hset hne
      exact ⟨hs, fun currentDir =>
        ⟨Config.resolve_eq_ofBase hset hne currentDir, Config.leadsTo_resolve hs currentDir⟩⟩
    · have hunset : Config.IsUnset e runtimeDirVariable := Or.inr (hempty ▸ hset)
      refine ⟨fun currentDir => (Config.resolve_unset hunset currentDir).symm, fun temp ht hne => ?_, fun ht => ?_⟩
      · have hs : Config.Selects e ⟨temp⟩ .tempDir := .tempDir hunset ht hne
        exact ⟨hs, Config.leadsTo_resolve hs⟩
      · have hs : Config.Selects e (Path.ofString "/tmp") .builtin := .builtin hunset ht
        exact ⟨hs, Config.resolve_of_builtin hs⟩

/-- Part of a name that holds `=` is found as a name. -/
example : (Launch.build [.variable (ofString "TMPDIR=/a") (ofString "b")]).environment Environment.empty
    (ofString "TMPDIR") = some (ofString "/a=b") := by
  cbv

end Handover
