import ShellWorkers.SystemFault
import ShellWorkers.Text.Utf8

/-!
# The files of a machine

A `FileTree` is a table of nodes: files, directories, symbolic links, devices, queues with a name,
and names for what a process has opened.  Node `0` is the root directory; nodes are never removed
from the table, so a file whose last name is gone can still be read through an open descriptor.

Names are octets too.  `FileTree.find` walks a path from a directory to an `Entry`: a
name in a directory, and the node behind it if there is one.  Every node has permission bits and
the instant of its last change; `FileTree.now` is the instant of the next one.
-/

namespace ShellWorkers.Machine

open Text (OctetText)

abbrev NodeId := Nat

inductive Device where
  /-- is empty, and swallows what is written to it -/
  | sink
  /-- is zeros without end, and swallows what is written to it -/
  | zeros
  /-- the same, but nothing can be written to it -/
  | full
  /-- is octets in no particular order without end, and swallows what is written to it -/
  | random
  /-- a terminal that is not there -/
  | terminal
  deriving DecidableEq, Repr

inductive Body where
  | file (content : ByteArray)
  /-- the entries in the order of their names -/
  | directory (parent : NodeId) (entries : List (OctetText × NodeId))
  | link (target : OctetText)
  | device (kind : Device)
  /-- what a process has opened under a descriptor -/
  | opened (fd : Nat)
  /-- what flows from those who write to those who read -/
  | queue

structure Node where
  body : Body
  /-- nine bits, and three special ones before them -/
  mode : Nat
  /-- the instant of the last change, in nanoseconds since the epoch -/
  modified : Int

/-- a name in a directory and what it stands for -/
structure Entry where
  dir : NodeId
  name : OctetText
  node? : Option NodeId
  deriving Repr

structure FileTree where
  nodes : Array Node
  now : Int

/-! ## permission bits -/

namespace Mode

def plainFile : Nat := 0o644
def program : Nat := 0o755
def directory : Nat := 0o755
def link : Nat := 0o777

/-- whether somebody may execute it -/
def isExecutable (mode : Nat) : Bool := mode &&& 0o111 != 0

/-- what the owner may be allowed to do: to read, to write, and to execute or, in a directory, to
reach what has a name there -/
def reading : Nat := 4
def writing : Nat := 2
def reaching : Nat := 1

/-- whether the owner of a file, which is whoever asks, may do something with it -/
def permits (mode bits : Nat) : Bool := mode / 64 &&& bits == bits

end Mode

namespace FileTree

/-! ## nodes -/

def nowhere : Node := ⟨.device .sink, 0, 0⟩

def node (t : FileTree) (id : NodeId) : Node := t.nodes.getD id nowhere

def body (t : FileTree) (id : NodeId) : Body := (t.node id).body

/-- another body for a node, which is changed by that -/
def setBody (t : FileTree) (id : NodeId) (b : Body) : FileTree :=
  { t with nodes := t.nodes.setIfInBounds id { t.node id with body := b, modified := t.now } }

def setMode (t : FileTree) (id : NodeId) (mode : Nat) : FileTree :=
  { t with nodes := t.nodes.setIfInBounds id { t.node id with mode := mode } }

def setModified (t : FileTree) (id : NodeId) (instant : Int) : FileTree :=
  { t with nodes := t.nodes.setIfInBounds id { t.node id with modified := instant } }

def root : NodeId := 0

/-- a tree with nothing but its root -/
def empty (now : Int) : FileTree := ⟨#[⟨.directory 0 [], Mode.directory, now⟩], now⟩

def isDirectoryNode (t : FileTree) (id : NodeId) : Bool :=
  match t.body id with
  | .directory _ _ => true
  | _ => false

/-- whether something may be done with a node -/
def permits (t : FileTree) (id : NodeId) (bits : Nat) : Bool := Mode.permits (t.node id).mode bits

/-- whether a node is a file that can be executed -/
def isProgram (t : FileTree) (id : NodeId) : Bool :=
  match t.body id with
  | .file _ => t.permits id Mode.reaching
  | _ => false

/-! ## paths -/

/-- the nonempty components of a path; a separator at its end asks for a directory -/
def pathComponents (path : OctetText) : List OctetText :=
  (path.splitOn "/").filter (· ≠ "") ++ (if path.endsWith "/" then ["."] else [])

/-- the components of a path as they are walked; an empty one at its end asks for a directory, which
nothing has to be reached in -/
def pathSteps (path : OctetText) : List OctetText :=
  (path.splitOn "/").filter (· ≠ "") ++ (if path.endsWith "/" then [""] else [])

/-- the greatest length of a name, and of a path with the octet that ends it -/
def nameLimit : Nat := 255
def pathLimit : Nat := 4096

/-- how many links may be followed -/
def linkLimit : Nat := 40

/-- Walks components from a directory.  A link is followed unless it is the last component and
`follow` is false.  The fuel bounds the number of components, those of links included. -/
def walk (t : FileTree) (follow : Bool) :
    (fuel links : Nat) → NodeId → List OctetText → Except SystemFault Entry
  | 0, _, _, _ => .error .tooManyLinks
  | _ + 1, _, dir, [] => .ok ⟨dir, ".", some dir⟩
  | fuel + 1, links, dir, name :: rest =>
    match t.body dir with
    | .directory parent entries =>
      if name = "" then t.walk follow fuel links dir rest
      else if !t.permits dir Mode.reaching then .error .accessDenied
      else if name = "." then t.walk follow fuel links dir rest
      else if name = ".." then t.walk follow fuel links parent rest
      else if nameLimit < name.length then .error .nameTooLong
      else
        match entries.lookup name with
        | none => if rest.isEmpty then .ok ⟨dir, name, none⟩ else .error .notFound
        | some id =>
          match t.body id with
          | .link target =>
            if rest.isEmpty && !follow then .ok ⟨dir, name, some id⟩
            else
              match links with
              | 0 => .error .tooManyLinks
              | links + 1 =>
                t.walk follow fuel links (if target.startsWith "/" then root else dir)
                  (pathSteps target ++ rest)
          | _ =>
            if rest.isEmpty then .ok ⟨dir, name, some id⟩ else t.walk follow fuel links id rest
    | _ => .error .notDirectory

/-- the entry of a path seen from the directory `cwd` -/
def find (t : FileTree) (cwd : NodeId) (path : OctetText) (follow : Bool) :
    Except SystemFault Entry :=
  if path.isEmpty then .error .notFound
  else if pathLimit ≤ path.length then .error .nameTooLong
  else t.walk follow (pathLimit * (linkLimit + 1)) linkLimit
    (if path.startsWith "/" then root else cwd) (pathSteps path)

/-- the node of a path that exists -/
def findNode (t : FileTree) (cwd : NodeId) (path : OctetText) (follow : Bool) :
    Except SystemFault NodeId := do
  match (← t.find cwd path follow).node? with
  | some id => .ok id
  | none => .error .notFound

/-- a path without the separators at its end -/
def withoutSlashes (path : OctetText) : OctetText :=
  match (path.toList.reverse.dropWhile (· == '/')).reverse with
  | [] => if path.isEmpty then "" else "/"
  | cs => String.ofList cs

/-- whether a directory still has its place in the tree -/
def isPlaced (t : FileTree) (id : NodeId) : Bool :=
  id == root ||
    match t.body id with
    | .directory parent _ =>
      match t.body parent with
      | .directory _ entries => entries.any (·.2 == id)
      | _ => false
    | _ => false

/-- the entry where something new is to get a name -/
def findPlace (t : FileTree) (cwd : NodeId) (path : OctetText) (follow : Bool) :
    Except SystemFault Entry := do
  let e ← t.find cwd path follow
  if e.node?.isNone && !t.isPlaced e.dir then .error .notFound
  else if e.node?.isNone && !t.permits e.dir Mode.writing then .error .accessDenied
  else .ok e

/-! ## entries -/

/-- whether a name comes before another: by their octets, a shorter name before one it begins -/
def precedes : List Char → List Char → Bool
  | _, [] => false
  | [], _ :: _ => true
  | a :: as, b :: bs => a.toNat < b.toNat || (a == b && precedes as bs)

/-- an entry at its place in the order of names, in place of one of the same name -/
def insertEntry (name : OctetText) (id : NodeId) :
    List (OctetText × NodeId) → List (OctetText × NodeId)
  | [] => [(name, id)]
  | e :: es =>
    if name = e.1 then (name, id) :: es
    else if precedes name.toList e.1.toList then (name, id) :: e :: es
    else e :: insertEntry name id es

def modifyEntries (t : FileTree) (dir : NodeId)
    (f : List (OctetText × NodeId) → List (OctetText × NodeId)) : FileTree :=
  match t.body dir with
  | .directory parent entries => t.setBody dir (.directory parent (f entries))
  | _ => t

def addEntry (t : FileTree) (dir : NodeId) (name : OctetText) (id : NodeId) : FileTree :=
  t.modifyEntries dir (insertEntry name id)

def removeEntry (t : FileTree) (dir : NodeId) (name : OctetText) : FileTree :=
  t.modifyEntries dir (·.filter (·.1 ≠ name))

/-- a new node under a name -/
def addNode (t : FileTree) (dir : NodeId) (name : OctetText) (b : Body) (mode : Nat) :
    NodeId × FileTree :=
  let id := t.nodes.size
  (id, FileTree.addEntry { t with nodes := t.nodes.push ⟨b, mode, t.now⟩ } dir name id)

/-! ## operations -/

/-- the content of a file; a device that can be read to its end is empty -/
def contentOf (t : FileTree) (id : NodeId) : Except SystemFault ByteArray :=
  match t.body id with
  | .file content => .ok content
  | .directory _ _ => .error .isDirectory
  | .link _ => .error .tooManyLinks
  | _ => .ok .empty

def setContent (t : FileTree) (id : NodeId) (content : ByteArray) : FileTree :=
  match t.body id with
  | .file _ => t.setBody id (.file content)
  | _ => t

def readFile (t : FileTree) (cwd : NodeId) (path : OctetText) : Except SystemFault ByteArray := do
  let id ← t.findNode cwd path true
  if t.permits id Mode.reading then t.contentOf id else .error .accessDenied

/-- makes a file hold `content`, creating it if need be -/
def writeFile (t : FileTree) (cwd : NodeId) (path : OctetText) (content : ByteArray) :
    Except SystemFault FileTree := do
  let e ← t.findPlace cwd path true
  match e.node? with
  | none => .ok (t.addNode e.dir e.name (.file content) Mode.plainFile).2
  | some id =>
    if t.isDirectoryNode id then .error .isDirectory
    else if !t.permits id Mode.writing then .error .accessDenied
    else .ok (t.setContent id content)

/-- removes a name that is not a directory's -/
def remove (t : FileTree) (cwd : NodeId) (path : OctetText) : Except SystemFault FileTree := do
  let e ← t.find cwd path false
  match e.node? with
  | none => .error .notFound
  | some id =>
    if !t.permits e.dir Mode.writing then .error .accessDenied
    else if t.isDirectoryNode id then .error .isDirectory
    else .ok (t.removeEntry e.dir e.name)

def makeDirectory (t : FileTree) (cwd : NodeId) (path : OctetText) (mode : Nat) :
    Except SystemFault FileTree := do
  let e ← t.findPlace cwd (withoutSlashes path) false
  match e.node? with
  | some _ => .error .fileExists
  | none => .ok (t.addNode e.dir e.name (.directory e.dir []) mode).2

/-- the last component of a path -/
def lastName (path : OctetText) : OctetText := ((withoutSlashes path).splitOn "/").getLastD ""

def removeDirectory (t : FileTree) (cwd : NodeId) (path : OctetText) :
    Except SystemFault FileTree := do
  let e ← t.find cwd (withoutSlashes path) false
  match e.node? with
  | none => .error .notFound
  | some id =>
    if lastName path = "." then .error .invalidArgument
    else if lastName path = ".." then .error .notEmpty
    else if id = root then .error .busy
    else if !t.permits e.dir Mode.writing then .error .accessDenied
    else
      match t.body id with
      | .directory _ [] => .ok (t.removeEntry e.dir e.name)
      | .directory _ _ => .error .notEmpty
      | _ => .error .notDirectory

/-- the directory takes a new parent when it is moved -/
def setParent (t : FileTree) (id dir : NodeId) : FileTree :=
  match t.body id with
  | .directory _ entries => t.setBody id (.directory dir entries)
  | _ => t

/-- whether a directory is another one or lies below it; the fuel bounds the way up -/
def isBelow (t : FileTree) (ancestor : NodeId) : (fuel : Nat) → NodeId → Bool
  | 0, _ => false
  | fuel + 1, id =>
    id == ancestor ||
      match t.body id with
      | .directory parent _ => parent != id && t.isBelow ancestor fuel parent
      | _ => false

/-- moves what one path names to another, over a file that stands there -/
def rename (t : FileTree) (cwd : NodeId) (source target : OctetText) :
    Except SystemFault FileTree := do
  let s ← t.find cwd (withoutSlashes source) false
  let d ← t.findPlace cwd (withoutSlashes target) false
  if [".", ".."].contains (lastName source) || [".", ".."].contains (lastName target) then
    .error .busy
  else
    match s.node?, d.node? with
    | none, _ => .error .notFound
    | some id, some old =>
      if id = old then .ok t
      else if t.isDirectoryNode id && t.isBelow id t.nodes.size d.dir then .error .invalidArgument
      else if !mayMove id s d then .error .accessDenied
      else
        match t.body id, t.body old with
        | .directory _ _, .directory _ [] => move id s d
        | .directory _ _, .directory _ _ => .error .notEmpty
        | .directory _ _, _ => .error .notDirectory
        | _, .directory _ _ => .error .isDirectory
        | _, _ => move id s d
    | some id, none =>
      if t.isDirectoryNode id then
        if t.isBelow id t.nodes.size d.dir then .error .invalidArgument
        else if !mayMove id s d then .error .accessDenied
        else move id s d
      else if source.endsWith "/" || target.endsWith "/" then .error .notDirectory
      else if !mayMove id s d then .error .accessDenied
      else move id s d
where
  mayMove (id : NodeId) (s d : Entry) : Bool :=
    t.permits s.dir Mode.writing && t.permits d.dir Mode.writing
      && (s.dir == d.dir || !t.isDirectoryNode id || t.permits id Mode.writing)
  move (id : NodeId) (s d : Entry) : Except SystemFault FileTree :=
    .ok (((t.removeEntry s.dir s.name).addEntry d.dir d.name id).setParent id d.dir)

def makeLink (t : FileTree) (cwd : NodeId) (target path : OctetText) :
    Except SystemFault FileTree := do
  let e ← t.findPlace cwd path false
  match e.node? with
  | some _ => .error .fileExists
  | none =>
    if target.isEmpty then .error .notFound
    else .ok (t.addNode e.dir e.name (.link target) Mode.link).2

def makeQueue (t : FileTree) (cwd : NodeId) (path : OctetText) (mode : Nat) :
    Except SystemFault FileTree := do
  let e ← t.findPlace cwd path false
  match e.node? with
  | some _ => .error .fileExists
  | none => .ok (t.addNode e.dir e.name .queue mode).2

/-- a second name for a file -/
def addName (t : FileTree) (cwd : NodeId) (path name : OctetText) :
    Except SystemFault FileTree := do
  let id ← t.findNode cwd path false
  let e ← t.findPlace cwd name false
  match e.node? with
  | some _ => .error .fileExists
  | none =>
    if t.isDirectoryNode id then .error .notPermitted else .ok (t.addEntry e.dir e.name id)

/-- the names in a directory, in order -/
def names (t : FileTree) (id : NodeId) : Except SystemFault (List OctetText) :=
  match t.body id with
  | .directory _ entries =>
    if t.permits id Mode.reading then .ok (entries.map Prod.fst) else .error .accessDenied
  | _ => .error .notDirectory

/-- how many names a node has; a directory has its own name for itself, and its directories have
names for it -/
def nameCount (t : FileTree) (id : NodeId) : Nat :=
  match t.body id with
  | .directory _ entries => 2 + (entries.filter (t.isDirectoryNode ·.2)).length
  | _ =>
    t.nodes.foldl (fun n node =>
      match node.body with
      | .directory _ entries => n + (entries.filter (·.2 == id)).length
      | _ => n) 0

/-- the absolute path of a directory, from its last component up; the fuel bounds the way up -/
def pathFrom (t : FileTree) : (fuel : Nat) → NodeId → Option (List OctetText)
  | 0, _ => none
  | fuel + 1, id =>
    if id = root then some []
    else
      match t.body id with
      | .directory parent _ =>
        match t.body parent with
        | .directory _ entries => do
          let (name, _) ← entries.find? (·.2 = id)
          return name :: (← t.pathFrom fuel parent)
        | _ => none
      | _ => none

/-- the absolute path of a directory that has its place in the tree -/
def pathOf? (t : FileTree) (id : NodeId) : Option OctetText :=
  (t.pathFrom (t.nodes.size + 1) id).map fun names => "/" ++ "/".intercalate names.reverse

/-! ## building a tree -/

/-- the directory of a path, with every directory on the way created -/
def ensureDirectory (t : FileTree) (dir : NodeId) : List OctetText → NodeId × FileTree
  | [] => (dir, t)
  | name :: rest =>
    match (t.find dir name true).toOption.bind Entry.node? with
    | some id => t.ensureDirectory id rest
    | none =>
      let (id, t) := t.addNode dir name (.directory dir []) Mode.directory
      t.ensureDirectory id rest

/-- puts a node at a path, with every directory on the way; a directory that exists stays -/
def install (t : FileTree) (dir : NodeId) (path : OctetText) (b : Body) (mode : Nat) : FileTree :=
  match ((path.splitOn "/").filter (· ≠ "")).reverse with
  | [] => t
  | name :: before =>
    let (dir, t) := t.ensureDirectory (if path.startsWith "/" then root else dir) before.reverse
    match b with
    | .directory _ _ => (t.ensureDirectory dir [name]).2
    | b => (t.addNode dir name b mode).2

/-! ## listings -/

/-- what a listing shows of a name -/
inductive Listed where
  | content (octets : ByteArray)
  | directory

/-- everything below a directory by its path from there, links followed; what cannot be read is
empty -/
def listing (t : FileTree) : (fuel : Nat) → NodeId → (before : OctetText) →
    List (OctetText × Listed)
  | 0, _, _ => []
  | fuel + 1, dir, before =>
    match t.body dir with
    | .directory _ entries =>
      entries.flatMap fun (name, _) =>
        match t.findNode dir name true with
        | .error _ => [(before ++ name, .content .empty)]
        | .ok id =>
          match t.body id with
          | .directory _ _ =>
            (before ++ name ++ "/", Listed.directory)
              :: t.listing fuel id (before ++ name ++ "/")
          | .file content => [(before ++ name, .content content)]
          | _ => [(before ++ name, .content .empty)]
    | _ => []

end FileTree

end ShellWorkers.Machine
