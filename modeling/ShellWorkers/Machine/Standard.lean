import ShellWorkers.Machine.Environment
import ShellWorkers.Machine.Permissions
import ShellWorkers.Utility.Programs

/-!
# A standard machine

A machine with the usual directories, an image of every program in the table, a library that can
be loaded, and an empty directory to work in.
-/

namespace ShellWorkers.Machine

open Text (OctetText)

/-- the directory that holds the programs -/
def programDirectory : OctetText := "/usr/bin"

/-- a library of the machine -/
def libraryPath : OctetText := "/usr/lib/x86_64-linux-gnu/libm.so.6"

/-- links that stand for directories -/
def directoryLinks : List (OctetText × OctetText) :=
  [("/bin", "usr/bin"), ("/lib", "usr/lib"), ("/lib64", "usr/lib64"), ("/sbin", "usr/sbin"),
    ("/var/run", "/run")]

def emptyDirectories : List OctetText :=
  ["/boot", "/dev", "/dev/mqueue", "/dev/pts", "/dev/shm", "/etc", "/home", "/media", "/mnt", "/opt",
    "/root", "/run", "/srv", "/sys", "/tmp", "/usr/games", "/usr/include", "/usr/lib64",
    "/usr/local/bin", "/usr/local/sbin", "/usr/sbin", "/usr/share", "/usr/src", "/var/lib",
    "/var/log", "/var/tmp"]

/-- where a process finds what it has opened -/
def descriptorDirectory : OctetText := "/proc/self/fd"

/-- how many descriptors have a name there -/
def descriptorCount : Nat := 64

def descriptorLinks : List (OctetText × OctetText) :=
  [("/dev/fd", "/proc/self/fd"), ("/dev/stdin", "/proc/self/fd/0"),
    ("/dev/stdout", "/proc/self/fd/1"), ("/dev/stderr", "/proc/self/fd/2"),
    ("/dev/core", "/proc/kcore"), ("/dev/ptmx", "pts/ptmx")]

def devices : List (OctetText × Device) :=
  [("null", .sink), ("zero", .zeros), ("full", .full), ("random", .random), ("urandom", .random),
    ("tty", .terminal)]

/-- the files of a machine before anything has been done with it -/
def standardTree : FileTree :=
  let t := emptyDirectories.foldl (fun t path =>
    t.install FileTree.root path (.directory 0 []) Mode.directory)
    (FileTree.empty Machine.State.clockStart)
  let link (t : FileTree) (l : OctetText × OctetText) : FileTree :=
    t.install FileTree.root l.1 (.link l.2) Mode.link
  let t := (directoryLinks ++ descriptorLinks).foldl link t
  let t := (List.range descriptorCount).foldl (fun t n =>
    t.install FileTree.root (descriptorDirectory ++ "/" ++ toString n) (.opened n) 0o700) t
  let t := devices.foldl (fun t d =>
    t.install FileTree.root ("/dev/" ++ d.1) (.device d.2) 0o666) t
  let t := [("/etc/passwd", accountLines), ("/etc/group", partyLines)].foldl (fun t f =>
    t.install FileTree.root f.1 (.file (OctetText.toBytes f.2)) Mode.plainFile) t
  let t := t.install FileTree.root libraryPath (.file (imageOf "libm")) Mode.plainFile
  Utility.programs.foldl (fun t p =>
    t.install FileTree.root (programDirectory ++ "/" ++ p.1) (.file (imageOf p.1)) Mode.program) t

def standardSearchPath : OctetText :=
  "/usr/local/sbin:/usr/local/bin:/usr/sbin:/usr/bin:/sbin:/bin"

def standardVariables : Variables :=
  [("SHELL", "/bin/sh"), ("LC_ALL", "C"), ("PATH", standardSearchPath), ("HOME", "/root")]

/-- the first process that is started from outside -/
def firstPid : Pid := 4000

/-- a machine at rest with the given files, which works in a directory -/
def atRest (tree : FileTree) (directory : NodeId) (cores : Nat) : ShellWorkers.Machine where
  state := ⟨tree, #[], #[], [], [], [], 0, firstPid⟩
  now := 0
  directory := directory
  vars := standardVariables
  searchPath := standardSearchPath
  cores := cores

/-- a standard machine with an empty directory at an absolute path, in which it works -/
def standard (directory : OctetText) (cores : Nat) : ShellWorkers.Machine :=
  let (id, t) := standardTree.ensureDirectory FileTree.root
    ((directory.splitOn "/").filter (· ≠ ""))
  atRest t id cores

end ShellWorkers.Machine
