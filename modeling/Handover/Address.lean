import Handover.Error

/-! # Addresses of sockets

A socket is addressed through the open directory that holds it: `/proc/self/fd/N/name`. The address stays short however
long the directory's path is, and keeps its meaning when the directory is renamed. The name is appended as it is, also
when it begins with a slash, so no name leaves the directory by being absolute.
-/
namespace Handover

def descriptorDirectory : String := "/proc/self/fd/"

def socketAddress (directory : Descriptor) (name : String) : Path :=
  Path.ofString (descriptorDirectory ++ Text.decimal directory ++ "/" ++ name)

end Handover
