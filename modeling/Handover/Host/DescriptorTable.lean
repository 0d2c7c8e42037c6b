import Handover.Error

/-! # Descriptor tables

A process refers to its open objects by small numbers. A new descriptor always gets the lowest number that is free, and
a number is free again as soon as its descriptor is closed.
-/
namespace Handover.Host

inductive Device where
  | null | full
deriving DecidableEq, Repr

/-- What a descriptor refers to: an entry of the file tree by its inode, a device, or a socket by its number. -/
inductive Object where
  | directory (inode : Nat)
  | file (inode : Nat)
  | device (device : Device)
  | socket (id : Nat)
deriving DecidableEq, Repr

def Object.socket? : Object → Option Nat
  | .socket id => some id
  | _ => none

structure Slot where
  descriptor : Descriptor
  object : Object
  closeOnExec : Bool
deriving DecidableEq, Repr

structure DescriptorTable where
  slots : List Slot
deriving DecidableEq, Repr

namespace DescriptorTable

def empty : DescriptorTable := ⟨[]⟩

def slot? (t : DescriptorTable) (d : Descriptor) : Option Slot := t.slots.find? fun slot => decide (slot.descriptor = d)

def object? (t : DescriptorTable) (d : Descriptor) : Option Object := (t.slot? d).map Slot.object

def isOpen (t : DescriptorTable) (d : Descriptor) : Bool := (t.slot? d).isSome

/-- Among as many candidates as there are slots and one more, some number is free. -/
def lowestFree (t : DescriptorTable) : Descriptor :=
  match (List.range (t.slots.length + 1)).find? fun (n : Nat) => !t.isOpen n with
  | some n => (n : Int)
  | none => (t.slots.length : Int) + 1

def remove (t : DescriptorTable) (d : Descriptor) : DescriptorTable :=
  ⟨t.slots.filter fun slot => decide (slot.descriptor ≠ d)⟩

def install (t : DescriptorTable) (object : Object) (closeOnExec : Bool) : Descriptor × DescriptorTable :=
  (t.lowestFree, ⟨t.slots ++ [⟨t.lowestFree, object, closeOnExec⟩]⟩)

def installAll (t : DescriptorTable) (objects : List Object) (closeOnExec : Bool) : List Descriptor × DescriptorTable :=
  objects.foldl (fun (descriptors, t) object =>
    let (d, t) := t.install object closeOnExec
    (descriptors ++ [d], t)) ([], t)

def put (t : DescriptorTable) (d : Descriptor) (object : Object) : DescriptorTable :=
  ⟨(t.remove d).slots ++ [⟨d, object, false⟩]⟩

def objects (t : DescriptorTable) : List Object := t.slots.map Slot.object

def standardOutput : Descriptor := 1

/-- Closes the standard output and opens the null device, which is kept if it got the number of the standard output and
dropped again otherwise. -/
def retireOutput (t : DescriptorTable) : Except Errno DescriptorTable :=
  if t.isOpen standardOutput then
    let (d, placed) := (t.remove standardOutput).install (.device .null) true
    .ok (if d = standardOutput then placed else placed.remove d)
  else .error .badDescriptor

theorem slot?_remove_other (t : DescriptorTable) {d e : Descriptor} (h : e ≠ d) :
    (t.remove d).slot? e = t.slot? e := by
  simp only [slot?, remove, List.find?_filter]
  congr 1
  funext slot
  by_cases hs : slot.descriptor = e <;> simp_all

end DescriptorTable

end Handover.Host
