import ShellWorkers.Machine.FileTree
import ShellWorkers.Text.Utf8

/-!
# Accounts and permissions

Who there is on a machine, and what the permissions of its files say about them.
-/

/-!
## Accounts

The users and the groups that a machine knows by name.  All processes run for the first user; the
others stand in its tables and own nothing.

* `accounts`, `parties`                 the tables;
* `accountNamed?`, `accountNumbered?`   one user;
* `partyNamed?`, `partyNumbered?`       one group;
* `accountText`, `partyText`            a name where there is one, or else the number.
-/

namespace ShellWorkers.Machine

open Text (OctetText)

/-- a user -/
structure Account where
  name : OctetText
  number : Nat
  /-- the number of the group that the user logs in with -/
  party : Nat
  description : OctetText
  home : OctetText
  shell : OctetText
  deriving Repr

/-- a group of users -/
structure Party where
  name : OctetText
  number : Nat
  deriving Repr

/-- the shell of a user who cannot log in -/
def closedShell : OctetText := "/usr/sbin/nologin"

def accounts : List Account :=
  [⟨"root", 0, 0, "root", "/root", "/bin/bash"⟩,
    ⟨"daemon", 1, 1, "daemon", "/usr/sbin", closedShell⟩,
    ⟨"bin", 2, 2, "bin", "/bin", closedShell⟩,
    ⟨"sys", 3, 3, "sys", "/dev", closedShell⟩,
    ⟨"sync", 4, 65534, "sync", "/bin", "/bin/sync"⟩,
    ⟨"games", 5, 60, "games", "/usr/games", closedShell⟩,
    ⟨"man", 6, 12, "man", "/var/cache/man", closedShell⟩,
    ⟨"lp", 7, 7, "lp", "/var/spool/lpd", closedShell⟩,
    ⟨"mail", 8, 8, "mail", "/var/mail", closedShell⟩,
    ⟨"news", 9, 9, "news", "/var/spool/news", closedShell⟩,
    ⟨"uucp", 10, 10, "uucp", "/var/spool/uucp", closedShell⟩,
    ⟨"proxy", 13, 13, "proxy", "/bin", closedShell⟩,
    ⟨"www-data", 33, 33, "www-data", "/var/www", closedShell⟩,
    ⟨"backup", 34, 34, "backup", "/var/backups", closedShell⟩,
    ⟨"list", 38, 38, "Mailing List Manager", "/var/list", closedShell⟩,
    ⟨"irc", 39, 39, "ircd", "/run/ircd", closedShell⟩,
    ⟨"_apt", 42, 65534, "", "/nonexistent", closedShell⟩,
    ⟨"nobody", 65534, 65534, "nobody", "/nonexistent", closedShell⟩]

def parties : List Party :=
  [⟨"root", 0⟩, ⟨"daemon", 1⟩, ⟨"bin", 2⟩, ⟨"sys", 3⟩, ⟨"adm", 4⟩, ⟨"tty", 5⟩, ⟨"disk", 6⟩,
    ⟨"lp", 7⟩, ⟨"mail", 8⟩, ⟨"news", 9⟩, ⟨"uucp", 10⟩, ⟨"man", 12⟩, ⟨"proxy", 13⟩,
    ⟨"kmem", 15⟩, ⟨"dialout", 20⟩, ⟨"fax", 21⟩, ⟨"voice", 22⟩, ⟨"cdrom", 24⟩,
    ⟨"floppy", 25⟩, ⟨"tape", 26⟩, ⟨"sudo", 27⟩, ⟨"audio", 29⟩, ⟨"dip", 30⟩,
    ⟨"www-data", 33⟩, ⟨"backup", 34⟩, ⟨"operator", 37⟩, ⟨"list", 38⟩, ⟨"irc", 39⟩,
    ⟨"src", 40⟩, ⟨"shadow", 42⟩, ⟨"utmp", 43⟩, ⟨"video", 44⟩, ⟨"sasl", 45⟩,
    ⟨"plugdev", 46⟩, ⟨"staff", 50⟩, ⟨"games", 60⟩, ⟨"users", 100⟩, ⟨"nogroup", 65534⟩]

def accountNamed? (name : OctetText) : Option Account := accounts.find? (·.name == name)

def accountNumbered? (number : Nat) : Option Account := accounts.find? (·.number == number)

def partyNamed? (name : OctetText) : Option Party := parties.find? (·.name == name)

def partyNumbered? (number : Nat) : Option Party := parties.find? (·.number == number)

/-- the name of a user, or the number of one who has none -/
def accountText (number : Nat) : OctetText :=
  ((accountNumbered? number).map (·.name)).getD (toString number)

/-- the name of a group, or the number of one that has none -/
def partyText (number : Nat) : OctetText :=
  ((partyNumbered? number).map (·.name)).getD (toString number)

/-- the lines of the file that lists the users -/
def accountLines : OctetText :=
  String.join (accounts.map fun a =>
    ":".intercalate [a.name, "x", toString a.number, toString a.party, a.description, a.home,
      a.shell] ++ "\n")

/-- the lines of the file that lists the groups -/
def partyLines : OctetText :=
  String.join (parties.map fun p => p.name ++ ":x:" ++ toString p.number ++ ":\n")

end ShellWorkers.Machine

/-!
## Descriptions of permissions

The permission bits of a file are described by octal digits, or by clauses: parties, and behind
them operators with permissions (`u=rwx,go-w`).  `Mode.change?` is what a description makes of the
bits there are; `Mode.letters` shows them.
-/

namespace ShellWorkers.Machine.Mode

open Text (OctetText)

/-! ### letters -/

/-- the permissions of one of the three parties, as letters -/
def permissionLetters (bits : Nat) : OctetText :=
  (if bits &&& 4 != 0 then "r" else "") ++ (if bits &&& 2 != 0 then "w" else "")
    ++ (if bits &&& 1 != 0 then "x" else "")

/-- the permissions of one party in three columns; `special` is shown in place of the last one
if the party has a special bit -/
def columns (bits : Nat) (hasSpecial : Bool) (special : Char) : List Char :=
  [if bits &&& 4 != 0 then 'r' else '-', if bits &&& 2 != 0 then 'w' else '-',
    if hasSpecial then (if bits &&& 1 != 0 then special else special.toUpper)
    else if bits &&& 1 != 0 then 'x' else '-']

/-- all permissions in nine columns -/
def letters (mode : Nat) : OctetText :=
  String.ofList (columns (mode / 64 % 8) (mode &&& 0o4000 != 0) 's'
    ++ columns (mode / 8 % 8) (mode &&& 0o2000 != 0) 's'
    ++ columns (mode % 8) (mode &&& 0o1000 != 0) 't')

/-! ### clauses -/

/-- all bits -/
def allBits : Nat := 0o7777

/-- the bits of all three parties with the same permissions -/
def forAll (bits : Nat) : Nat := bits * 0o111

/-- bits without others -/
def without (bits others : Nat) : Nat := bits &&& (allBits ^^^ (others &&& allBits))

/-- the bits of the parties that letters name -/
def partyBits (parties : List Char) : Nat :=
  let has (c : Char) : Bool := parties.contains c || parties.contains 'a'
  (if has 'u' then 0o4700 else 0) ||| (if has 'g' then 0o2070 else 0)
    ||| (if has 'o' then 0o1007 else 0)

/-- the permissions that letters name, given those there are; a party stands for its own -/
def permissionBits (isDirectory : Bool) (mode : Nat) : List Char → Nat
  | [] => 0
  | c :: cs =>
    let rest := permissionBits isDirectory mode cs
    let bits := match c with
      | 'r' => 0o444
      | 'w' => 0o222
      | 'x' => 0o111
      | 'X' => if isDirectory || mode &&& 0o111 != 0 then 0o111 else 0
      | 's' => 0o6000
      | 't' => 0o1000
      | 'u' => forAll (mode / 64 % 8)
      | 'g' => forAll (mode / 8 % 8)
      | 'o' => forAll (mode % 8)
      | _ => 0
    bits ||| rest

/-- special bits of a directory stay as they are unless they are named -/
def keptBits (isDirectory : Bool) (named : List Char) : Nat :=
  if isDirectory && !named.contains 's' then 0o6000 else 0

def isOctalDigit (c : Char) : Bool := 48 ≤ c.toNat && c.toNat < 56

/-- the number of octal digits -/
def octalValue (ds : List Char) : Nat := ds.foldl (fun n c => n * 8 + (c.toNat - 48)) 0

/-- the actions behind the parties of a clause; `mask` are the bits that a clause without parties
leaves alone -/
def applyActions (isDirectory : Bool) (parties mask : Nat) :
    (fuel : Nat) → List Char → Nat → Option Nat
  | 0, _, _ => none
  | _ + 1, [], mode => some mode
  | fuel + 1, op :: cs, mode =>
    let digits := cs.takeWhile isOctalDigit
    let named := cs.takeWhile fun c => ['r', 'w', 'x', 'X', 's', 't', 'u', 'g', 'o'].contains c
    let kept := if digits.isEmpty then keptBits isDirectory named else 0
    let reach := without (if parties = 0 then without allBits mask else parties) kept
    let reach := if digits.isEmpty then reach else allBits
    let bits := if digits.isEmpty then permissionBits isDirectory mode named &&& reach
      else octalValue digits
    let rest := cs.drop (named.length + digits.length)
    -- octal digits stand for all parties, and nothing follows them
    if !digits.isEmpty && (parties ≠ 0 || !rest.isEmpty || allBits < bits) then none
    else
      match op with
      | '+' => applyActions isDirectory parties mask fuel rest (mode ||| bits)
      | '-' => applyActions isDirectory parties mask fuel rest (without mode bits)
      | '=' =>
        let cleared := without (if parties = 0 then allBits else parties) kept
        applyActions isDirectory parties mask fuel rest (without mode cleared ||| bits)
      | _ => none

/-- bits changed as clauses say -/
def applyClauses (isDirectory : Bool) (mask : Nat) : List OctetText → Nat → Option Nat
  | [], mode => some mode
  | clause :: clauses, mode =>
    let cs := clause.toList
    let parties := cs.takeWhile fun c => ['u', 'g', 'o', 'a'].contains c
    let actions := cs.drop parties.length
    if actions.isEmpty then none
    else
      (applyActions isDirectory (partyBits parties) mask (actions.length + 1) actions mode).bind
        (applyClauses isDirectory mask clauses)

/-- the number of a text of octal digits -/
def octalNumber? (text : OctetText) : Option Nat :=
  let cs := text.toList
  if !cs.isEmpty && cs.all isOctalDigit then some (octalValue cs) else none

/-- what a description makes of the bits there are -/
def change? (isDirectory : Bool) (mask : Nat) (text : OctetText) (mode : Nat) : Option Nat :=
  match octalNumber? text with
  | some bits =>
    let kept := if isDirectory && text.length < 5 then mode &&& 0o6000 else 0
    if allBits < bits then none else some (bits ||| kept)
  | none => applyClauses isDirectory mask (text.splitOn ",") mode

end ShellWorkers.Machine.Mode
