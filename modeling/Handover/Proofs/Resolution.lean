import Handover.Proofs.Base
import Handover.Proofs.Spelling

/-! # Which base is resolved

Two variables and a fixed path are asked in turn for a base, and the first that has something to say decides; nothing
else has a part in it. A base that is not absolute needs the current directory, and only there a resolution can fail.
What it leads to is absolute, so it is taken as it is when it is resolved once more, wherever that happens.
-/
namespace Handover.Config

open Bytes (ofString slash)

section Selecting

variable {e other : Environment} {key value : Bytes} {base : Path} {source : BaseSource}

def IsUnset (e : Environment) (key : Bytes) : Prop := e key = none ∨ e key = some []

/-- The first of the three places that has a base has this one. -/
inductive Selects (e : Environment) : Path → BaseSource → Prop where
  | runtimeDir {dir : Bytes} : e (ofString "XDG_RUNTIME_DIR") = some dir → dir ≠ [] → Selects e ⟨dir⟩ .runtimeDir
  | tempDir {dir : Bytes} : IsUnset e (ofString "XDG_RUNTIME_DIR") → e (ofString "TMPDIR") = some dir → dir ≠ [] →
      Selects e ⟨dir⟩ .tempDir
  | builtin : IsUnset e (ofString "XDG_RUNTIME_DIR") → IsUnset e (ofString "TMPDIR") →
      Selects e (Path.ofString "/tmp") .builtin

theorem nonEmpty_eq_some_iff : nonEmpty e key = some value ↔ e key = some value ∧ value ≠ [] := by
  simp [nonEmpty, Option.filter_eq_some_iff]

theorem nonEmpty_eq_none_iff : nonEmpty e key = none ↔ IsUnset e key := by
  unfold nonEmpty IsUnset
  cases e key with
  | none => simp
  | some value => simp [Option.filter_eq_none_iff]

theorem nonEmpty_congr (h : other key = e key) : nonEmpty other key = nonEmpty e key := by
  unfold nonEmpty
  rw [h]

theorem selects_iff : Selects e base source ↔ select e = (base, source) := by
  constructor
  · intro h
    unfold select
    cases h with
    | runtimeDir hset hne =>
      have hr : nonEmpty e runtimeDirVariable = some _ := nonEmpty_eq_some_iff.mpr ⟨hset, hne⟩
      simp only [hr]
    | tempDir hunset hset hne =>
      have hr : nonEmpty e runtimeDirVariable = none := nonEmpty_eq_none_iff.mpr hunset
      have ht : nonEmpty e tempDirVariable = some _ := nonEmpty_eq_some_iff.mpr ⟨hset, hne⟩
      simp only [hr, ht]
    | builtin hunset hnone =>
      have hr : nonEmpty e runtimeDirVariable = none := nonEmpty_eq_none_iff.mpr hunset
      have ht : nonEmpty e tempDirVariable = none := nonEmpty_eq_none_iff.mpr hnone
      simp only [hr, ht]
      rfl
  · intro h
    unfold select at h
    cases hr : nonEmpty e runtimeDirVariable with
    | some dir =>
      obtain ⟨rfl, rfl⟩ : (⟨dir⟩ : Path) = base ∧ .runtimeDir = source := by simpa [hr] using h
      exact .runtimeDir (nonEmpty_eq_some_iff.mp hr).1 (nonEmpty_eq_some_iff.mp hr).2
    | none =>
      have hunset := nonEmpty_eq_none_iff.mp hr
      cases ht : nonEmpty e tempDirVariable with
      | some dir =>
        obtain ⟨rfl, rfl⟩ : (⟨dir⟩ : Path) = base ∧ .tempDir = source := by simpa [hr, ht] using h
        exact .tempDir hunset (nonEmpty_eq_some_iff.mp ht).1 (nonEmpty_eq_some_iff.mp ht).2
      | none =>
        obtain ⟨rfl, rfl⟩ : defaultBase = base ∧ .builtin = source := by simpa [hr, ht] using h
        exact .builtin hunset (nonEmpty_eq_none_iff.mp ht)

/-- A variable counts only while those before it are unset, and one that is empty counts like one that is not there. -/
theorem select_congr (hr : nonEmpty other runtimeDirVariable = nonEmpty e runtimeDirVariable)
    (ht : IsUnset e runtimeDirVariable → nonEmpty other tempDirVariable = nonEmpty e tempDirVariable) :
    select other = select e := by
  unfold select
  rw [hr]
  cases hn : nonEmpty e runtimeDirVariable with
  | some dir => rfl
  | none => rw [ht (nonEmpty_eq_none_iff.mp hn)]

theorem select_ofBase (h : base.bytes ≠ []) :
    select (Environment.empty.set runtimeDirVariable base.bytes) = (base, .runtimeDir) :=
  selects_iff.mp (.runtimeDir (Environment.set_same _ _ _) h)

end Selecting

section Resolving

variable {e other : Environment} {currentDir : Except IoError Path} {base : Path} {config : Config}

theorem resolve_congr (h : select other = select e) (currentDir : Except IoError Path) :
    resolve other currentDir = resolve e currentDir := by
  unfold resolve
  rw [h]

theorem anchor_eq_error_iff {err : Error} : anchor currentDir base = .error err ↔
    base.bytes.head? ≠ some slash ∧ ∃ cause, currentDir = .error cause ∧ err = .resolveBase cause := by
  unfold anchor
  by_cases hb : base.isAbsolute = true
  · simp [hb, Path.isAbsolute_iff.mp hb]
  · have hroot : base.bytes.head? ≠ some slash := fun hr => hb (Path.isAbsolute_iff.mpr hr)
    cases currentDir <;> simp [hb, hroot, eq_comm]

theorem anchor_eq_ok {dir : Path} (h : anchor currentDir base = .ok dir) :
    (base.bytes.head? = some slash → dir = base) ∧
      (base.bytes.head? ≠ some slash → ∃ d, currentDir = .ok d ∧ dir = d.join base.bytes) := by
  unfold anchor at h
  by_cases hb : base.isAbsolute = true
  · rw [if_pos hb] at h
    exact ⟨fun _ => (Except.ok.inj h).symm, fun hr => absurd (Path.isAbsolute_iff.mp hb) hr⟩
  · rw [if_neg hb] at h
    refine ⟨fun hr => absurd (Path.isAbsolute_iff.mpr hr) hb, fun _ => ?_⟩
    cases currentDir with
    | ok d => exact ⟨d, rfl, (Except.ok.inj h).symm⟩
    | error cause => simp at h

theorem resolve_eq_error_iff {err : Error} :
    resolve e currentDir = .error err ↔ anchor currentDir (select e).1 = .error err := by
  unfold resolve
  cases anchor currentDir (select e).1 <;> simp [Except.map]

theorem resolve_eq_ok_iff : resolve e currentDir = .ok config ↔
    anchor currentDir (select e).1 = .ok config.baseDir ∧ config.source = (select e).2 := by
  unfold resolve
  obtain ⟨dir, source⟩ := config
  cases anchor currentDir (select e).1 <;> simp [Except.map, eq_comm]

/-- A base that is absolute is taken as it is, also where there is no current directory. -/
theorem ofBase_of_absolute (h : base.isAbsolute = true) (currentDir : Except IoError Path) :
    ofBase base currentDir = .ok ⟨base, .runtimeDir⟩ := by
  have hne : base.bytes ≠ [] := by
    intro hnil
    simp [Path.isAbsolute, hnil] at h
  refine resolve_eq_ok_iff.mpr ?_
  rw [select_ofBase hne]
  exact ⟨if_pos h, rfl⟩

end Resolving

section Templates

/-- The template is the base with the placeholder `XXXXXX` as a further component at its end. -/
structure Templated (c : Config) : Prop where
  rooted : c.template.bytes.head? = some slash
  components : c.template.components =
    ⟨c.baseDir.components.rooted, c.baseDir.components.names ++ [ofString "XXXXXX"]⟩
  placeholder : ∃ stem, c.template.bytes = stem ++ ofString "XXXXXX" ∧ stem.getLast? = some slash ∧
    (Path.mk stem).Same c.baseDir

theorem getLast?_append_separator {bytes : Bytes} (h : bytes ≠ []) :
    (bytes ++ Path.separator bytes).getLast? = some slash := by
  obtain ⟨front, last, rfl⟩ := (List.eq_nil_or_concat bytes).resolve_left h
  by_cases hlast : last = slash <;> simp [Path.separator, hlast]

theorem same_append_separator (p : Path) : (Path.mk (p.bytes ++ Path.separator p.bytes)).Same p := by
  have h : Path.Respelled (p.bytes ++ Path.separator p.bytes) p.bytes := by
    unfold Path.separator
    split
    · simpa using Path.respelled_refl p.bytes
    · rename_i last hlast
      split
      · simpa using Path.respelled_refl p.bytes
      · have hne : p.bytes ≠ [] := by
          intro hnil
          simp [hnil] at hlast
        exact (Path.Shortens.finalSlash hne).respelled
  exact h.same

theorem templated_of_isAbsolute {c : Config} (h : c.baseDir.isAbsolute = true) : Templated c := by
  have hentry : Path.IsEntry templateSuffix := by decide
  have hne : c.baseDir.bytes ≠ [] := by
    intro hnil
    simp [Path.isAbsolute, hnil] at h
  have hroot : c.template.isAbsolute = true := Path.isAbsolute_join h templateSuffix
  exact ⟨Path.isAbsolute_iff.mp hroot, Path.components_join hentry,
    _, template_bytes c, getLast?_append_separator hne, same_append_separator c.baseDir⟩

end Templates

/-- What comes of `base`, selected from `source`: it is kept if it is absolute, put below the current directory if it is
not, and lost if there is none then. -/
inductive LeadsTo (currentDir : Except IoError Path) (base : Path) (source : BaseSource) : Except Error Config → Prop where
  | kept : base.bytes.head? = some slash → LeadsTo currentDir base source (.ok ⟨base, source⟩)
  | below {work : Path} : base.bytes.head? ≠ some slash → currentDir = .ok work →
      LeadsTo currentDir base source (.ok ⟨work.join base.bytes, source⟩)
  | lost {cause : IoError} : base.bytes.head? ≠ some slash → currentDir = .error cause →
      LeadsTo currentDir base source (.error (.resolveBase cause))

theorem leadsTo_resolve {e : Environment} {base : Path} {source : BaseSource} (h : Selects e base source)
    (currentDir : Except IoError Path) : LeadsTo currentDir base source (resolve e currentDir) := by
  cases hr : resolve e currentDir with
  | error err =>
    rw [resolve_eq_error_iff, selects_iff.mp h, anchor_eq_error_iff] at hr
    obtain ⟨hbase, cause, hcause, rfl⟩ := hr
    exact .lost hbase hcause
  | ok config =>
    rw [resolve_eq_ok_iff, selects_iff.mp h] at hr
    obtain ⟨hdir, rfl⟩ : anchor currentDir base = .ok config.baseDir ∧ config.source = source := hr
    obtain ⟨hkept, hbelow⟩ := anchor_eq_ok hdir
    by_cases hbase : base.bytes.head? = some slash
    · have hc : config = ⟨base, config.source⟩ := congrArg (Config.mk · config.source) (hkept hbase)
      exact hc ▸ .kept hbase
    · obtain ⟨work, hwork, hjoin⟩ := hbelow hbase
      have hc : config = ⟨work.join base.bytes, config.source⟩ := congrArg (Config.mk · config.source) hjoin
      exact hc ▸ .below hbase hwork

/-- What comes of `base`, selected from `source`, where it can be resolved. -/
structure Resolved (currentDir : Except IoError Path) (base : Path) (source : BaseSource) (config : Config) : Prop where
  source_eq : config.source = source
  kept : base.bytes.head? = some slash → config.baseDir.bytes = base.bytes
  anchored : base.bytes.head? ≠ some slash → ∃ d, currentDir = .ok d ∧ config.baseDir = d.join base.bytes
  rooted : config.baseDir.bytes.head? = some slash
  templated : Templated config
  again : ∀ anywhere, ofBase config.baseDir anywhere = .ok ⟨config.baseDir, .runtimeDir⟩

/-- In every environment one base is selected, by the first variable that has one or else the fixed path, whatever all
other variables are. It is resolved unless it is relative and there is no current directory. What it is resolved to is
absolute, is the base itself if that is, has the placeholder put below it as a component of its own, and is resolved to
itself anywhere. -/
theorem one_base_is_selected_and_resolved (e : Environment) {currentDir : Except IoError Path}
    (hdir : ∀ d, currentDir = .ok d → d.isAbsolute = true) :
    ∃ base source, (∀ base' source', Selects e base' source' ↔ base' = base ∧ source' = source) ∧
      (∀ other : Environment, other (ofString "XDG_RUNTIME_DIR") = e (ofString "XDG_RUNTIME_DIR") →
        (IsUnset e (ofString "XDG_RUNTIME_DIR") → other (ofString "TMPDIR") = e (ofString "TMPDIR")) →
        resolve other currentDir = resolve e currentDir) ∧
      (∀ err, resolve e currentDir = .error err ↔
        base.bytes.head? ≠ some slash ∧ ∃ cause, currentDir = .error cause ∧ err = .resolveBase cause) ∧
      ∀ config, resolve e currentDir = .ok config → Resolved currentDir base source config := by
  refine ⟨(select e).1, (select e).2, fun base' source' => ?_, fun other hr ht => ?_, fun err => ?_, fun config h => ?_⟩
  · rw [selects_iff, Prod.ext_iff, eq_comm, @eq_comm _ (select e).2]
  · exact resolve_congr (select_congr (nonEmpty_congr hr) fun hunset => nonEmpty_congr (ht hunset)) currentDir
  · rw [resolve_eq_error_iff, anchor_eq_error_iff]
  · have habs : config.baseDir.isAbsolute = true := isAbsolute_baseDir hdir h
    obtain ⟨hanchor, hsource⟩ := resolve_eq_ok_iff.mp h
    obtain ⟨hkept, hanchored⟩ := anchor_eq_ok hanchor
    exact ⟨hsource, fun hb => congrArg Path.bytes (hkept hb), hanchored, Path.isAbsolute_iff.mp habs,
      templated_of_isAbsolute habs, fun anywhere => ofBase_of_absolute habs anywhere⟩

/-- A directory for temporary files that is relative, beside a runtime directory that is empty. -/
theorem a_relative_base_is_resolved_below_work :
    let e := (Environment.empty.set (ofString "XDG_RUNTIME_DIR") []).set (ofString "TMPDIR") (ofString "scratch/.")
    let work : Except IoError Path := .ok (Path.ofString "/work/")
    let config : Config := ⟨Path.ofString "/work/scratch/.", .tempDir⟩
    (∀ d, work = .ok d → d.isAbsolute = true) ∧ resolve e work = .ok config ∧
      Selects e (Path.ofString "scratch/.") .tempDir ∧ Templated config ∧
      ofBase config.baseDir (.error (.system .noEntry)) = .ok ⟨config.baseDir, .runtimeDir⟩ := by
  intro e work config
  have hwork : ∀ d, work = .ok d → d.isAbsolute = true := by
    intro d hd
    obtain rfl := Except.ok.inj hd
    decide
  have hresolve : resolve e work = .ok config := by decide
  have hselect : Selects e (Path.ofString "scratch/.") .tempDir := selects_iff.mpr (by decide)
  obtain ⟨base, source, -, -, -, hresolved⟩ := one_base_is_selected_and_resolved e hwork
  have h := hresolved config hresolve
  exact ⟨hwork, hresolve, hselect, h.templated, h.again _⟩

end Handover.Config
