import ShellWorkers.Script.Extended.Starting
import ShellWorkers.Utility.Arranging
import ShellWorkers.Utility.Attributes
import ShellWorkers.Utility.BlockCopy
import ShellWorkers.Utility.Chance
import ShellWorkers.Utility.Checksums
import ShellWorkers.Utility.Columns
import ShellWorkers.Utility.Conditions
import ShellWorkers.Utility.Copies
import ShellWorkers.Utility.Copying
import ShellWorkers.Utility.Differences
import ShellWorkers.Utility.Editing
import ShellWorkers.Utility.Encodings
import ShellWorkers.Utility.Ends
import ShellWorkers.Utility.Environments
import ShellWorkers.Utility.Finding
import ShellWorkers.Utility.Gathering
import ShellWorkers.Utility.Identity
import ShellWorkers.Utility.Listing
import ShellWorkers.Utility.Numbering
import ShellWorkers.Utility.Numbers
import ShellWorkers.Utility.Ordered
import ShellWorkers.Utility.Owners
import ShellWorkers.Utility.Paging
import ShellWorkers.Utility.Paragraphs
import ShellWorkers.Utility.Permuted
import ShellWorkers.Utility.Pieces
import ShellWorkers.Utility.Records
import ShellWorkers.Utility.Removal
import ShellWorkers.Utility.Running
import ShellWorkers.Utility.Selection
import ShellWorkers.Utility.Sorting
import ShellWorkers.Utility.Texts
import ShellWorkers.Utility.Translation
import ShellWorkers.Utility.Usage

/-!
# The programs of a machine

The table of programs that images can name: the utilities and the shell.
-/

namespace ShellWorkers.Utility

open Machine
open Text (OctetText)

/-- a program that does nothing but end with a code -/
def endingWith (code : Nat) : Program := fun _ _ => pure code

/-- the utilities by their names, with the code that says that output was lost -/
def utilities : List (OctetText × Nat × (List OctetText → Work Unit)) :=
  [("[", 2, bracket), ("arch", 1, arch), ("awk", 2, awk), ("b2sum", 1, b2sum), ("base32", 1, base32),
    ("base64", 1, base64), ("basename", 1, basename), ("basenc", 1, basenc), ("cat", 1, cat), ("chcon", 1, chcon), ("chgrp", 1, chgrp),
    ("chmod", 1, chmod), ("chown", 1, chown),
    ("chroot", 125, chroot), ("cksum", 1, cksum), ("cmp", 2, cmp), ("comm", 1, comm), ("cp", 1, cp),
    ("csplit", 1, csplit), ("cut", 1, cut),
    ("date", 1, Dates.run), ("dd", 1, dd), ("df", 1, df), ("diff", 2, diff), ("dir", 2, dir),
    ("dircolors", 1, dircolors),
    ("dirname", 1, dirname), ("du", 1, du), ("echo", 1, echo), ("egrep", 2, egrep), ("env", 125, env),
    ("expand", 1, expand), ("expr", 3, expr), ("factor", 1, factor), ("fgrep", 2, fgrep), ("find", 1, find),
    ("fmt", 1, fmt), ("fold", 1, fold), ("grep", 2, grep), ("groups", 1, groups), ("head", 1, head),
    ("hostid", 1, hostid), ("hostname", 1, hostname), ("id", 1, identity),
    ("install", 1, install), ("join", 1, join), ("link", 1, link), ("ln", 1, ln),
    ("logname", 1, logname), ("ls", 2, ls), ("mawk", 2, awk), ("md5sum", 1, md5sum),
    ("mkdir", 1, mkdir), ("mkfifo", 1, mkfifo), ("mknod", 1, mknod), ("mktemp", 1, mktemp),
    ("mv", 1, mv), ("nice", 125, nice), ("nl", 1, nl), ("nohup", 125, nohup),
    ("nproc", 1, nproc), ("numfmt", 1, numfmt), ("od", 1, od), ("paste", 1, paste), ("pathchk", 1, pathchk), ("pinky", 1, pinky),
    ("pr", 1, pr), ("printenv", 2, printenv), ("printf", 1, printf),
    ("ptx", 1, ptx), ("pwd", 1, pwd), ("readlink", 1, readlink),
    ("realpath", 1, realpath), ("rev", 1, rev), ("rm", 1, rm), ("rmdir", 1, rmdir), ("runcon", 125, runcon),
    ("sed", 4, sed), ("seq", 1, seq), ("setsid", 1, setsid), ("sha1sum", 1, sha1sum),
    ("sha224sum", 1, sha224sum), ("sha256sum", 1, sha256sum), ("sha384sum", 1, sha384sum),
    ("sha512sum", 1, sha512sum), ("shred", 1, shred), ("shuf", 1, shuf), ("sleep", 1, sleep), ("sort", 2, sort), ("split", 1, split),
    ("stat", 1, stat), ("stdbuf", 125, stdbuf), ("stty", 1, stty), ("sum", 1, sum), ("sync", 1, sync),
    ("tac", 1, tac), ("tail", 1, tail), ("tee", 1, tee), ("test", 2, test),
    ("timeout", 125, timeout), ("touch", 1, touch), ("tr", 1, tr), ("truncate", 1, truncate),
    ("tsort", 1, tsort), ("tty", 3, tty), ("uname", 1, uname), ("unexpand", 1, unexpand), ("uniq", 1, uniq),
    ("unlink", 1, unlink), ("users", 1, users), ("vdir", 2, vdir), ("wc", 1, wc),
    ("which", 1, which), ("who", 1, who),
    ("whoami", 1, whoami), ("xargs", 1, xargs), ("yes", 1, yes)]

/-- the programs by their names -/
def programs : List (OctetText × Program) :=
  utilities.map (fun u => (u.1, Work.program u.2.1 u.2.2))
    ++ [("bash", Script.Extended.shell), ("dash", Script.shell), ("false", endingWith 1),
      ("sh", Script.shell), ("true", endingWith 0)]

def table : ProgramTable := fun name => programs.lookup name

end ShellWorkers.Utility
