import Handover.Text.Quoted

/-! # Paths

A path keeps its bytes. Two paths are *the same* when they have the same components: repeated and trailing slashes and
the component `.` do not count, except a `.` at the start of a relative path; `..` stays as it is.
-/
namespace Handover

structure Path where
  bytes : Bytes
deriving DecidableEq, Repr, Inhabited

namespace Path

def ofString (s : String) : Path := ⟨Bytes.ofString s⟩

/-- Invalid parts of the bytes are shown as replacement characters. -/
def display (p : Path) : String := Text.lossy p.bytes

def quoted (p : Path) : String := Text.quotedBytes p.bytes

def isAbsolute (p : Path) : Bool := decide (p.bytes.head? = some Bytes.slash)

def separator (bytes : Bytes) : Bytes :=
  match bytes.getLast? with
  | none => []
  | some b => if b = Bytes.slash then [] else [Bytes.slash]

/-- `name` below `d`: an absolute name stands for itself. -/
def join (d : Path) (name : Bytes) : Path :=
  if (Path.mk name).isAbsolute then ⟨name⟩ else ⟨d.bytes ++ separator d.bytes ++ name⟩

/-- The runs between slashes, at least one. -/
def segments : Bytes → List Bytes
  | [] => [[]]
  | b :: rest =>
    if b = Bytes.slash then [] :: segments rest
    else match segments rest with
      | [] => [[b]]
      | run :: runs => (b :: run) :: runs

def isSignificant (run : Bytes) : Bool := decide (run ≠ [] ∧ run ≠ [Bytes.dot])

/-- The first run is empty exactly for an absolute path or an empty one, and counts even when it is `.`. -/
def significant : List Bytes → List Bytes
  | [] => []
  | run :: runs => if run = [] then runs.filter isSignificant else run :: runs.filter isSignificant

/-- The paths that lead to what stands above, nearest first, given the runs of a path from the last to the first. -/
def above (rooted : Bool) : List Bytes → List Path
  | [] => if rooted then [⟨[Bytes.slash]⟩] else []
  | run :: runs =>
    if isSignificant run then ⟨[Bytes.slash].intercalate (run :: runs).reverse⟩ :: above rooted runs
    else above rooted runs

def ancestors (p : Path) : List Path :=
  p :: match (segments p.bytes).reverse.dropWhile fun run => !isSignificant run with
    | [] => []
    | _ :: runs => above p.isAbsolute runs

/-- The names that lead down from the root, once every `..` has taken back the name before it. -/
def descent (runs : List Bytes) : List Bytes :=
  runs.foldl (fun names run =>
    if !isSignificant run then names
    else if run = [Bytes.dot, Bytes.dot] then names.dropLast
    else names ++ [run]) []

/-- The one absolute path without superfluous parts, if no links are on the way. -/
def canonical (p : Path) : Path := ⟨Bytes.slash :: [Bytes.slash].intercalate (descent (segments p.bytes))⟩

structure Components where
  rooted : Bool
  names : List Bytes
deriving DecidableEq, Repr

def components (p : Path) : Components := ⟨p.isAbsolute, significant (segments p.bytes)⟩

def Same (p q : Path) : Prop := p.components = q.components

instance (p q : Path) : Decidable (Same p q) := inferInstanceAs (Decidable (p.components = q.components))

theorem same_refl (p : Path) : Same p p := rfl

theorem same_symm {p q : Path} (h : Same p q) : Same q p := h.symm

theorem same_trans {p q r : Path} (hpq : Same p q) (hqr : Same q r) : Same p r := hpq.trans hqr

theorem segments_ne_nil (s : Bytes) : segments s ≠ [] := by
  cases s with
  | nil => simp [segments]
  | cons b rest =>
    by_cases h : b = Bytes.slash
    · simp [segments, h]
    · simp only [segments, h, if_false]
      split <;> simp

theorem isAbsolute_iff {p : Path} : p.isAbsolute = true ↔ p.bytes.head? = some Bytes.slash := decide_eq_true_iff

theorem newline_not_mem_separator (bytes : Bytes) : Bytes.newline ∉ separator bytes := by
  unfold separator
  split
  · simp
  · split
    · simp
    · decide

theorem join_of_relative {d : Path} {name : Bytes} (h : (Path.mk name).isAbsolute = false) :
    (d.join name).bytes = d.bytes ++ separator d.bytes ++ name := by
  simp [join, h]

end Path

end Handover
