import Handover.Config
import Handover.Proofs.Splits

/-! # Where the private directory goes

A base directory is absolute once it is resolved, because what is not absolute itself is joined to the current directory,
which is. The template of the private directory is a name below the base, so a path that differs from it in the last six
bytes only is absolute too, and has a newline only if the base has one or the six bytes have.
-/
namespace Handover

open Bytes (newline)

namespace Path

theorem isAbsolute_append {bytes : Bytes} (h : (Path.mk bytes).isAbsolute = true) (more : Bytes) :
    (Path.mk (bytes ++ more)).isAbsolute = true := by
  rw [isAbsolute_iff] at h ⊢
  simp [List.head?_append, h]

theorem isAbsolute_join {d : Path} (h : d.isAbsolute = true) (name : Bytes) : (d.join name).isAbsolute = true := by
  unfold join
  split
  · assumption
  · rw [List.append_assoc]
    exact isAbsolute_append h _

end Path

namespace Config

theorem isAbsolute_of_anchor {currentDir : Except IoError Path} {base dir : Path}
    (hdir : ∀ d, currentDir = .ok d → d.isAbsolute = true) (h : anchor currentDir base = .ok dir) :
    dir.isAbsolute = true := by
  unfold anchor at h
  by_cases hbase : base.isAbsolute = true
  · rw [if_pos hbase] at h
    obtain rfl := Except.ok.inj h
    exact hbase
  · rw [if_neg hbase] at h
    cases currentDir with
    | error cause => simp at h
    | ok d =>
      obtain rfl := Except.ok.inj h
      exact Path.isAbsolute_join (hdir d rfl) base.bytes

theorem isAbsolute_baseDir {e : Environment} {currentDir : Except IoError Path} {config : Config}
    (hdir : ∀ d, currentDir = .ok d → d.isAbsolute = true) (h : resolve e currentDir = .ok config) :
    config.baseDir.isAbsolute = true := by
  unfold resolve at h
  cases ha : anchor currentDir (select e).1 with
  | error cause => simp [ha, Except.map] at h
  | ok dir =>
    have hc : (⟨dir, (select e).2⟩ : Config) = config := by simpa [ha, Except.map] using h
    rw [← hc]
    exact isAbsolute_of_anchor hdir ha

theorem template_bytes (c : Config) :
    c.template.bytes = c.baseDir.bytes ++ Path.separator c.baseDir.bytes ++ templateSuffix :=
  Path.join_of_relative rfl

theorem take_template (c : Config) :
    c.template.bytes.take (c.template.bytes.length - 6) = c.baseDir.bytes ++ Path.separator c.baseDir.bytes := by
  have hlen : templateSuffix.length = 6 := rfl
  rw [template_bytes, List.length_append, hlen, Nat.add_sub_cancel]
  exact List.take_left

theorem isAbsolute_of_template {c : Config} {path : Path} {six : Bytes} (hbase : c.baseDir.isAbsolute = true)
    (hp : path.bytes = c.template.bytes.take (c.template.bytes.length - 6) ++ six) : path.isAbsolute = true := by
  rw [take_template, List.append_assoc] at hp
  cases path
  obtain rfl := hp
  exact Path.isAbsolute_append hbase _

theorem newline_mem_of_template {c : Config} {path : Path} {six : Bytes} (hsix : newline ∉ six)
    (hp : path.bytes = c.template.bytes.take (c.template.bytes.length - 6) ++ six) :
    newline ∈ path.bytes ↔ newline ∈ c.baseDir.bytes := by
  have hsep := Path.newline_not_mem_separator c.baseDir.bytes
  rw [hp, take_template, List.mem_append, List.mem_append]
  simp only [hsix, hsep, or_false]

end Config

end Handover
