import ShellWorkers.Machine.Permissions
import ShellWorkers.Utility.Amounts
import ShellWorkers.Utility.Removal

/-!
# Owners of files

`chown` gives files to a user and a group, `chgrp` to a group.  A user or a group is a name of the
machine's tables or a number.  A directory is changed behind all that it holds.  `chcon` would give
them a security context, which no file can have here.
-/

namespace ShellWorkers.Utility

open Machine
open Text (OctetText)

/-! ## who a file is to belong to -/

/-- a user and a group as numbers, with the names by which they were found -/
structure Ownership where
  user : Option Nat
  party : Option Nat
  userText : Option OctetText
  partyText : Option OctetText

namespace Ownership

/-- the greatest number of a user or a group; it stands for none -/
def numberLimit : Nat := 4294967295

/-- a number behind blanks and maybe a plus sign -/
def number? (text : OctetText) : Option Nat :=
  (decimal? (String.ofList (withoutSign text.toList))).filter (· ≤ numberLimit)

/-- a number whose base its beginning tells -/
def basedNumber? (text : OctetText) : Option Nat :=
  match leadingNumber (withoutSign text.toList) with
  | (some n, []) => if n ≤ numberLimit then some n else none
  | _ => none

/-- a number that stands for somebody -/
def partNumber? (text : OctetText) : Option Nat := (number? text).filter (· < numberLimit)

def invalidUser : OctetText := "invalid user"
def invalidGroup : OctetText := "invalid group"

/-- the number of a user, unless it begins with a sign by the tables -/
def userNumber? (text : OctetText) : Option Nat :=
  if text.startsWith "+" then partNumber? text
  else ((accountNamed? text).map (·.number)).or (partNumber? text)

def partyNumber? (text : OctetText) : Option Nat :=
  if text.startsWith "+" then partNumber? text
  else ((partyNamed? text).map (·.number)).or (partNumber? text)

/-- a user, and behind the separator a group; without one it is the group that the user logs in
with -/
def ofParts (userPart : OctetText) (partyPart? : Option OctetText) :
    Except OctetText Ownership := do
  let user := if userPart.isEmpty then none else some userPart
  let number ← match user with
    | none => .ok none
    | some text =>
      if partyPart? = some "" && (accountNamed? text).isNone then .error "invalid spec"
      else
        match userNumber? text with
        | some n => .ok (some n)
        | none => .error invalidUser
  let account? := user.bind accountNamed?
  let userText := account?.map (·.name)
  match partyPart?.filter (!·.isEmpty) with
  | some text =>
    match partyNumber? text with
    | some n => .ok ⟨number, some n, userText, (partyNamed? text).map (·.name)⟩
    | none => .error invalidGroup
  | none =>
    match partyPart?, account? with
    | some _, some a => .ok ⟨number, some a.party, userText, some (Machine.partyText a.party)⟩
    | _, _ => .ok ⟨number, none, userText, none⟩

/-- a text before and behind the first place of a character -/
def cut (c : Char) (text : OctetText) : OctetText × Option OctetText :=
  let before := text.toList.takeWhile (· != c)
  match text.toList.drop before.length with
  | [] => (text, none)
  | _ :: rest => (String.ofList before, some (String.ofList rest))

/-- who a text names, and whether it has a dot for a colon -/
def read (text : OctetText) : Except OctetText (Ownership × Bool) :=
  let (before, behind) := cut ':' text
  match ofParts before behind, behind with
  | .error fault, none =>
    match cut '.' text with
    | (before, some behind) =>
      match ofParts before (some behind) with
      | .ok o => .ok (o, true)
      | .error _ => .error fault
    | (_, none) => .error fault
  | .ok o, _ => .ok (o, false)
  | .error fault, some _ => .error fault

/-- a user and a group as a message names them -/
def text? (user party : Option OctetText) : Option OctetText :=
  match user, party with
  | some u, some p => some (u ++ ":" ++ p)
  | some u, none => some u
  | none, p => p

end Ownership

/-! ## changing owners -/

structure OwnerPlan where
  goal : Ownership
  /-- only files of this owner are changed -/
  expected : Ownership
  recursive : Bool
  /-- links to directories among the operands are followed -/
  followsOperands : Bool
  followsAll : Bool
  /-- what a link leads to is changed, and not the link -/
  changesTarget : Bool
  /-- everything is told, or else nothing -/
  tellsAll : Bool
  quiet : Bool
  keepsRoot : Bool

namespace OwnerPlan

/-- says that an owner was kept, or could not be changed -/
def tell (k : OwnerPlan) (path : OctetText) (changed known : Bool) : Work Unit := do
  let user := k.goal.userText.or (k.goal.user.map toString)
  let party := k.goal.partyText.or (k.goal.party.map toString)
  let goal := Ownership.text? user party
  let former := Ownership.text? (user.map fun _ => accountText 0) (party.map fun _ => partyText 0)
  let what := if user.isNone && party.isSome then "group of "
    else "ownership of "
  let name := shellQuoted path
  putLine <| match changed, goal, known with
    | true, none, _ => what ++ name ++ " retained"
    | true, some _, _ => what ++ name ++ " retained as " ++ former.getD ""
    | false, none, _ => "failed to change " ++ what ++ name
    | false, some goal, true =>
      "failed to change " ++ what ++ name ++ " from " ++ former.getD "" ++ " to " ++ goal
    | false, some goal, false => "failed to change " ++ what ++ name ++ " to " ++ goal

/-- a failure, which a quiet plan does not tell -/
def complain (k : OwnerPlan) (message : OctetText) : Work Unit :=
  if k.quiet then setCode 1 else warn message

/-- changes the owner of one file -/
def changeOne (k : OwnerPlan) (path : OctetText) : Work Unit := do
  match ← ask (.status path false) with
  | .error e => do
    k.complain ("cannot access " ++ shellQuoted path ++ ": " ++ faultText e)
    if k.tellsAll then k.tell path false false
  | .ok s => do
    let reached ← if k.changesTarget && s.kind = .link then ask (.status path true)
      else pure (.ok s)
    match reached with
    | .error e => do
      k.complain ("cannot dereference " ++ shellQuoted path ++ ": " ++ faultText e)
      if k.tellsAll then k.tell path false true
    | .ok _ => do
      let concerned := k.expected.user.getD 0 = 0 && k.expected.party.getD 0 = 0
      let result ← if concerned then
          ask (.setOwner path k.changesTarget k.goal.user k.goal.party)
        else pure (.ok ())
      match result with
      | .ok _ => if k.tellsAll then k.tell path true true
      | .error e => do
        k.complain ((if k.goal.user.isSome then "changing ownership of " else "changing group of ")
          ++ shellQuoted path ++ ": " ++ faultText e)
        if k.tellsAll then k.tell path false true

/-- changes all that a path holds, and then the path; `above` are the directories around it -/
def change (k : OwnerPlan) : (fuel : Nat) → (above : List NodeId) → OctetText → Work Unit
  | 0, _, _ => pure ()
  | fuel + 1, above, path => do
    let follows := k.followsAll || (k.followsOperands && above.isEmpty)
    match ← ask (.status path follows) with
    | .error _ => k.changeOne path
    | .ok s =>
      if s.kind ≠ .directory then k.changeOne path
      else if k.keepsRoot && s.id = FileTree.root then do
        note ("it is dangerous to operate recursively on "
          ++ (if path = "/" then shellQuoted path
            else shellQuoted path ++ " (same as '/')"))
        note "use --no-preserve-root to override this failsafe"
        setCode 1
      else if above.contains s.id then k.changeOne path
      else
        match ← ask (.names path) with
        | .error e => do
          k.complain ("cannot read directory " ++ shellQuoted path ++ ": " ++ faultText e)
          if k.tellsAll then k.tell path false false
        | .ok _ => do
          for name in ← namesByAge path do
            change k fuel (s.id :: above) (joinPath path name)
          k.changeOne path

end OwnerPlan

/-! ## the utilities -/

def ownerOptions (more : List (OctetText × Takes × OctetText)) : OptionTable where
  letters := "HLPRcfhv"
  names := [("recursive", .nothing, "R"), ("changes", .nothing, "c"),
    ("dereference", .nothing, "dereference"), ("no-dereference", .nothing, "h"),
    ("no-preserve-root", .nothing, "anyroot"), ("preserve-root", .nothing, "root"),
    ("quiet", .nothing, "f"), ("silent", .nothing, "f"), ("reference", .value, "reference"),
    ("verbose", .nothing, "v")] ++ more
  strict := false

/-- no user and no group -/
def Ownership.unspecified : Ownership := ⟨none, none, none, none⟩

/-- who a text names, or the end of the utility -/
def ownershipOrFail (text : OctetText) : Work Ownership := do
  match Ownership.read text with
  | .error fault => fail (fault ++ ": " ++ quoted text)
  | .ok (o, hasDot) => do
    if hasDot then note ("warning: '.' should be ':': " ++ quoted text)
    pure o

/-- the plan of some arguments, and the paths to be changed.  `reads` understands the first operand,
and `ofRoot` is who all files belong to. -/
def ownerPlan (a : Arguments) (reads : OctetText → Work Ownership) (ofRoot : Ownership) :
    Work (OwnerPlan × List OctetText) := do
  let expected ← match a.value? "from" with
    | some text => ownershipOrFail text
    | none => pure Ownership.unspecified
  let recursive := a.has "R"
  let walk := if recursive then a.last? ["H", "L", "P"] else some "P"
  let follows := a.last? ["dereference", "h"]
  let isPhysical := walk == none || walk == some "P"
  if recursive && isPhysical && follows == some "dereference" then
    fail "-R --dereference requires either -H or -L"
  let changesTarget := follows != some "h" && !(recursive && isPhysical)
  let reference := a.value? "reference"
  let (goal, paths) ← match reference, a.operands with
    | _, [] => missingOperand
    | some path, paths => do
      match ← ask (.status path true) with
      | .error e => fail ("failed to get attributes of " ++ shellQuoted path ++ ": " ++ faultText e)
      | .ok _ => pure (ofRoot, paths)
    | none, [operand] => missingAfter operand
    | none, text :: paths => do
      let goal ← reads text
      pure (goal, paths)
  pure (⟨goal, expected, recursive, walk == some "H", walk == some "L", changesTarget,
    a.last? ["c", "v"] == some "v", a.has "f", a.last? ["root", "anyroot"] == some "root"⟩, paths)

/-- changes the owners of some paths -/
def changeOwners (k : OwnerPlan) (paths : List OctetText) : Work Unit :=
  paths.forM fun path =>
    if k.recursive then k.change FileTree.pathLimit [] path else k.changeOne path

def chown (args : List OctetText) : Work Unit := do
  let a ← readArguments (ownerOptions [("from", .value, "from")]) 1 args
  let (k, paths) ← ownerPlan a ownershipOrFail
    ⟨some 0, some 0, some (accountText 0), some (partyText 0)⟩
  let userText := if k.goal.partyText.isSome then k.goal.userText.or (some "")
    else k.goal.userText
  changeOwners { k with goal := { k.goal with userText := userText } } paths

/-- the group that a text names, or the end of the utility -/
def partyOrFail (text : OctetText) : Work Ownership := do
  if text.isEmpty then pure Ownership.unspecified
  else
    match ((partyNamed? text).map (·.number)).or (Ownership.number? text) with
    | some n => pure ⟨none, if n < Ownership.numberLimit then some n else none, none,
      some text⟩
    | none => fail ("invalid group: " ++ quoted text)

def chgrp (args : List OctetText) : Work Unit := do
  let a ← readArguments (ownerOptions []) 1 args
  let (k, paths) ← ownerPlan a partyOrFail ⟨none, some 0, none, some (partyText 0)⟩
  changeOwners k paths

/-! ## security contexts -/

/-- how security contexts are to be changed: to a whole one, or in parts -/
structure ContextPlan where
  whole? : Option OctetText
  recursive : Bool
  changesTarget : Bool
  tells : Bool

namespace ContextPlan

/-- tries to change the context of a file; files have none, and none can be given to them -/
def changeOne (k : ContextPlan) (path : OctetText) : Work Unit := do
  match ← ask (.status path false) with
  | .error e => warn ("cannot access " ++ shellQuoted path ++ ": " ++ faultText e)
  | .ok s => do
    let reached ← if k.changesTarget && s.kind = .link then ask (.status path true)
      else pure (.ok s)
    if k.tells then putLine ("changing security context of " ++ shellQuoted path)
    match reached, k.whole? with
    | .error e, none =>
      warn ("failed to get security context of " ++ shellQuoted path ++ ": " ++ faultText e)
    | .ok _, none =>
      warn ("can't apply partial context to unlabeled file " ++ shellQuoted path)
    | reached, some whole =>
      let fault := match reached with
        | .error e => faultText e
        | .ok _ => SystemFault.codeText 1
      warn ("failed to change context of " ++ shellQuoted path ++ " to " ++ quoted whole ++ ": "
        ++ fault)

/-- tries all that a path holds, and then the path -/
def change (k : ContextPlan) : (fuel : Nat) → OctetText → Work Unit
  | 0, _ => pure ()
  | fuel + 1, path => do
    match ← ask (.status path false) with
    | .error _ => k.changeOne path
    | .ok s => do
      if k.recursive && s.kind = .directory then
        for name in ← namesByAge path do
          change k fuel (joinPath path name)
      k.changeOne path

end ContextPlan

def contextOptions : OptionTable where
  letters := "HLPRhvu:r:t:l:"
  names := [("recursive", .nothing, "R"), ("dereference", .nothing, "dereference"),
    ("no-dereference", .nothing, "h"), ("no-preserve-root", .nothing, "anyroot"),
    ("preserve-root", .nothing, "root"), ("reference", .value, "reference"),
    ("user", .value, "u"), ("role", .value, "r"), ("type", .value, "t"), ("range", .value, "l"),
    ("verbose", .nothing, "v")]
  strict := false

def chcon (args : List OctetText) : Work Unit := do
  let a ← readArguments contextOptions 1 args
  let inParts := ["u", "r", "t", "l"].any a.has
  let walk := a.last? ["H", "L", "P"]
  let isPhysical := walk == none || walk == some "P"
  let follows := a.last? ["dereference", "h"]
  if a.has "R" && isPhysical && follows == some "dereference" then
    fail "-R --dereference requires either -H or -L"
  if a.has "R" && !isPhysical && follows == some "h" then fail "-R -h requires -P"
  let (whole?, paths) ← match a.value? "reference", a.operands with
    | _, [] => missingOperand
    | some path, _ => do
      match ← ask (.status path true) with
      | .error e =>
        fail ("failed to get security context of " ++ shellQuoted path ++ ": " ++ faultText e)
      | .ok _ =>
        fail ("failed to get security context of " ++ shellQuoted path ++ ": No data available")
    | none, first :: rest =>
      if inParts then pure (none, first :: rest)
      else if rest.isEmpty then missingAfter first
      else pure (some first, rest)
  let k : ContextPlan :=
    ⟨whole?, a.has "R", follows != some "h" && !(a.has "R" && isPhysical), a.has "v"⟩
  for path in paths do k.change FileTree.pathLimit path

end ShellWorkers.Utility
