import ShellWorkers.Json.Reader
import ShellWorkers.Json.Writer
import ShellWorkers.Recipe.Template
import ShellWorkers.Text.Quoted

/-!
# Recipes as text

A recipe is written as an object with eight fields, or as a list of eight items in their order;
a source is a path, or an object with a path.  `Template.ofText` reads one: what is met first
in the text decides, so a field is judged where its key or its value stands, and fields that are
missing are found at the end of the object.

`Template.toText` writes all eight fields in order.
-/

namespace ShellWorkers

/-! ## kinds of values -/

/-- a value as a message names it -/
def Json.describe : Json → String
  | .broken fault => fault.message
  | .null => "null"
  | .bool b => "boolean " ++ FormatError.marked (if b then "true" else "false")
  | .number (.float x) => "floating point " ++ FormatError.marked (Decimal.floatText x)
  | .number n => "integer " ++ FormatError.marked n.text
  | .string s => "string " ++ Text.quoted s
  | .list _ => "sequence"
  | .object _ => "map"

/-- refuses a value of the wrong kind; a fault in it comes first -/
def refuse {α : Type} (wanted : String) : Json → Except FormatError α
  | .broken fault => .error (.unreadable fault)
  | v => .error (.unexpected v.describe wanted)

/-! ## the values of fields -/

def readText : Json → Except FormatError String
  | .string s => .ok s
  | v => refuse "a string" v

def Shell.ofJson : Json → Except FormatError Shell
  | .string line =>
    match Shell.ofLine? line with
    | some shell => .ok shell
    | none => .error .blankShell
  | v => refuse "a string" v

/-- the values of the members with the key `path` -/
def pathsOf : Json.Members → List Json
  | .closed => []
  | .broken _ => []
  | .next key value rest => if key = "path" then value :: pathsOf rest else pathsOf rest

/-- a source: read to its end first, then judged -/
def sourceOf (v : Json) : Except FormatError String :=
  match v.fault? with
  | some fault => .error (.unreadable fault)
  | none =>
    match v with
    | .string path => .ok path
    | .object members =>
      match pathsOf members with
      | [.string path] => .ok path
      | _ => .error .notSource
    | _ => .error .notSource

def sourcesOf : Json.Items → Except FormatError (List String)
  | .closed => .ok []
  | .broken fault => .error (.unreadable fault)
  | .next item rest => do return (← sourceOf item) :: (← sourcesOf rest)

def readSources : Json → Except FormatError (List String)
  | .list items => sourcesOf items
  | v => refuse "a sequence" v

/-! ## fields -/

inductive Field where
  | shell
  | initCommand
  | objectCommand
  | libraryCommand
  | target
  | objectExt
  | libraryExt
  | sources
  deriving DecidableEq, Repr

namespace Field

/-- in order -/
def all : List Field :=
  [shell, initCommand, objectCommand, libraryCommand, target, objectExt, libraryExt, sources]

def name : Field → String
  | shell => "shell"
  | initCommand => "init_command"
  | objectCommand => "object_command"
  | libraryCommand => "library_command"
  | target => "target"
  | objectExt => "object_ext"
  | libraryExt => "library_ext"
  | sources => "sources"

def ofName? (name : String) : Option Field := all.find? (·.name = name)

/-- whether a recipe may leave it out -/
def hasDefault : Field → Bool
  | shell => true
  | initCommand => true
  | objectExt => true
  | libraryExt => true
  | _ => false

end Field

theorem fieldNames_eq : FormatError.fieldNames = Field.all.map Field.name := rfl

/-- the fields that have been read -/
structure Draft where
  shell : Option Shell
  initCommand : Option String
  objectCommand : Option String
  libraryCommand : Option String
  target : Option String
  objectExt : Option String
  libraryExt : Option String
  sources : Option (List String)

namespace Draft

def empty : Draft := ⟨none, none, none, none, none, none, none, none⟩

def has (d : Draft) : Field → Bool
  | .shell => d.shell.isSome
  | .initCommand => d.initCommand.isSome
  | .objectCommand => d.objectCommand.isSome
  | .libraryCommand => d.libraryCommand.isSome
  | .target => d.target.isSome
  | .objectExt => d.objectExt.isSome
  | .libraryExt => d.libraryExt.isSome
  | .sources => d.sources.isSome

/-- a field with its value -/
def put (d : Draft) (f : Field) (v : Json) : Except FormatError Draft :=
  match f with
  | .shell => do return { d with shell := some (← Shell.ofJson v) }
  | .initCommand => do return { d with initCommand := some (← readText v) }
  | .objectCommand => do return { d with objectCommand := some (← readText v) }
  | .libraryCommand => do return { d with libraryCommand := some (← readText v) }
  | .target => do return { d with target := some (← readText v) }
  | .objectExt => do return { d with objectExt := some (← readText v) }
  | .libraryExt => do return { d with libraryExt := some (← readText v) }
  | .sources => do return { d with sources := some (← readSources v) }

def required {α : Type} (f : Field) : Option α → Except FormatError α
  | some a => .ok a
  | none => .error (.missingField f.name)

/-- the template of the fields, the first one missing being reported -/
def template (d : Draft) (defaultShell : Shell) : Except FormatError Template := do
  return {
    shell := d.shell.getD defaultShell
    initCommand := d.initCommand.getD ""
    objectCommand := ← required .objectCommand d.objectCommand
    libraryCommand := ← required .libraryCommand d.libraryCommand
    target := ← required .target d.target
    objectExt := d.objectExt.getD ".o"
    libraryExt := d.libraryExt.getD ".so"
    sources := ← required .sources d.sources }

/-- the members of an object -/
def readMembers (d : Draft) : Json.Members → Except FormatError Draft
  | .closed => .ok d
  | .broken fault => .error (.unreadable fault)
  | .next key value rest =>
    match Field.ofName? key with
    | none => .error (.unknownField key)
    | some f =>
      if d.has f then .error (.duplicateField f.name)
      else
        match d.put f value with
        | .error e => .error e
        | .ok d => readMembers d rest

/-- the items of a list, for the fields in order; `index` of them have been read -/
def readItems (d : Draft) (index : Nat) : List Field → Json.Items → Except FormatError Draft
  | [], .closed => .ok d
  | [], .broken fault => .error (.unreadable fault)
  | [], .next (.broken .trailingComma) _ => .error (.unreadable .trailingComma)
  | [], .next _ _ => .error (.unreadable .trailingText)
  | f :: fs, .closed =>
    if f.hasDefault then readItems d (index + 1) fs .closed else .error (.wrongLength index)
  | _ :: _, .broken fault => .error (.unreadable fault)
  | f :: fs, .next item rest =>
    match d.put f item with
    | .error e => .error e
    | .ok d => readItems d (index + 1) fs rest

end Draft

/-! ## documents -/

/-- what stands behind a value is judged last -/
def atEnd {α : Type} (document : Json.Document) (r : Except FormatError α) :
    Except FormatError α := do
  let a ← r
  match document.trailing with
  | some fault => .error (.unreadable fault)
  | none => .ok a

namespace Template

def ofJson (defaultShell : Shell) : Json → Except FormatError Template
  | .object members => do (← Draft.empty.readMembers members).template defaultShell
  | .list items => do (← Draft.empty.readItems 0 Field.all items).template defaultShell
  | v => refuse FormatError.wholeName v

/-- the recipe that a text holds -/
def ofText (defaultShell : Shell) (text : String) : Except FormatError Template :=
  let document := Json.read text
  atEnd document (ofJson defaultShell document.value)

/-- a source as it is written -/
def sourceJson (path : String) : Json := .object (.next "path" (.string path) .closed)

def toJson (t : Template) : Json :=
  .object (.ofList [("shell", .string t.shell.toLine), ("init_command", .string t.initCommand),
    ("object_command", .string t.objectCommand), ("library_command", .string t.libraryCommand),
    ("target", .string t.target), ("object_ext", .string t.objectExt),
    ("library_ext", .string t.libraryExt),
    ("sources", .list (.ofList (t.sources.map sourceJson)))])

def toText (t : Template) : String := t.toJson.write

end Template

/-- the shell that a text holds -/
def Shell.ofText (text : String) : Except FormatError Shell :=
  let document := Json.read text
  atEnd document (Shell.ofJson document.value)

def Shell.toText (s : Shell) : String := Json.write (.string s.toLine)

/-- the source that a text holds -/
def sourceOfText (text : String) : Except FormatError String :=
  let document := Json.read text
  atEnd document (sourceOf document.value)

def sourceText (path : String) : String := (Template.sourceJson path).write

end ShellWorkers
