import Handover.Host.Children

/-! # A fresh host

What a host holds before anything has happened on it: the devices, a directory for temporary files, some utilities, the
helper, and a process to act from.
-/
namespace Handover.Host

/-- Adds an entry together with the directories above it. -/
def FileTree.place (t : FileTree) (path : Path) (node : Nat → Node) : FileTree :=
  let view : FileTree.View := ⟨FileTree.root, DescriptorTable.empty⟩
  let placing : FileTree.Change Nat := do
    FileTree.createPath view (path.ancestors.tail.headD path)
    FileTree.Change.ofExcept (FileTree.create view path node)
  match placing t with
  | .ok _ t | .error _ t => t

namespace Layout

def program (run : Executable) : Nat → Node := fun _ => .file [] (some run)

/-- Not in a directory where programs are looked for. -/
def helperPath : Path := Path.ofString "/usr/libexec/socket-binder"

def devices : List (String × (Nat → Node)) :=
  [("/dev/null", fun _ => .device .null), ("/dev/full", fun _ => .device .full)]

def directories : List String :=
  ["/boot", "/dev", "/dev/pts", "/dev/shm", "/etc", "/home", "/media", "/mnt", "/opt", "/proc", "/proc/self",
   "/proc/self/fd", "/root", "/run", "/run/lock", "/srv", "/sys", "/tmp", "/usr", "/usr/bin", "/usr/lib", "/usr/libexec",
   "/usr/local", "/usr/local/bin", "/usr/local/sbin", "/usr/sbin", "/usr/share", "/var", "/var/cache", "/var/lib",
   "/var/log", "/var/tmp"]

def files : List String :=
  ["/etc/fstab", "/etc/group", "/etc/hostname", "/etc/hosts", "/etc/os-release", "/etc/passwd", "/etc/profile",
   "/etc/resolv.conf", "/etc/shadow", "/proc/cpuinfo", "/proc/meminfo", "/proc/self/status", "/proc/version"]

def entries : List (String × (Nat → Node)) :=
  devices ++ directories.map (fun path => (path, FileTree.newDirectory)) ++
    files.map (fun path => (path, fun _ => .file [Bytes.newline] none)) ++
    utilityNames.map fun name => ("/usr/bin/" ++ name, program (.utility name))

/-- Directories of the root that are those of the same name elsewhere. -/
def aliases : List String := ["bin", "lib", "sbin"]

def addAlias (t : FileTree) (name : String) : FileTree :=
  match t.locate ⟨FileTree.root, DescriptorTable.empty⟩ (Path.ofString ("/usr/" ++ name)) with
  | .ok inode => t.link FileTree.root (Bytes.ofString name) inode
  | .error _ => t

def tree : FileTree :=
  aliases.foldl addAlias
    ((entries.foldl (fun t entry => t.place (Path.ofString entry.1) entry.2) FileTree.empty).place helperPath
      (program .helper))

/-- The process to act from. -/
def user : Nat := 100

def descriptors : DescriptorTable :=
  [(0 : Descriptor), 1, 2].foldl (fun t d => t.put d (.device .null)) DescriptorTable.empty

end Layout

def Machine.fresh (e : Environment) : Machine where
  tree := Layout.tree
  sockets := []
  nextSocket := 0
  processes := [⟨Layout.user, Layout.descriptors, FileTree.root, e, .free, none⟩]
  nextProcess := Layout.user + 1
  nextName := 0

end Handover.Host
