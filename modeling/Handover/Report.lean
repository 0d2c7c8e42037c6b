import Handover.Error

/-! # Reports of a failure

The report that ends a failed run: what was being done, then the chain of causes, each on lines of its own. A single
cause is only indented; of several each is numbered, and its further lines stand below its first.
-/
namespace Handover

structure Report where
  context : String
  causes : List String

namespace Report

def ofError (context : String) (e : Error) : Report := ⟨context, e.message :: e.sources⟩

def lines (s : String) : List String := (s.splitOn "\n")

/-- Lines after the first are indented by `hanging`. -/
def hang (lead hanging : String) (cause : String) : String :=
  lead ++ String.intercalate ("\n" ++ hanging) (lines cause)

def padded (n : Nat) : String := String.ofList (List.replicate (5 - n.repr.length) ' ') ++ n.repr

def numbered (causes : List String) : List String :=
  causes.mapIdx fun n cause => hang (padded n ++ ": ") "       " cause

def body (causes : List String) : List String :=
  match causes with
  | [cause] => [hang "    " "    " cause]
  | causes => numbered causes

def text (r : Report) : String :=
  if r.causes = [] then r.context
  else r.context ++ "\n\nCaused by:\n" ++ String.intercalate "\n" (body r.causes)

end Report

end Handover
