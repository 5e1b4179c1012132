/-!
# Paths as text

A path is a text in which `/` separates components; nothing is looked up.  Empty components and
single dots are skipped where a component is counted, but stay in the text.

* `join`              a name inside a directory (an absolute name stands alone);
* `parent`            the path without its last component;
* `absolute`          a path seen from a working directory;
* `replaceExtension?` another extension for the last component.

A path is handled from its right end, so the functions on characters take it reversed.
-/

namespace ShellWorkers.Path

def isAbsolute (path : String) : Bool := path.toList.head? == some '/'

/-! ## joining -/

def joinChars (dir name : List Char) : List Char :=
  if name.head? = some '/' then name
  else if dir.isEmpty || dir.getLast? == some '/' then dir ++ name
  else dir ++ '/' :: name

/-- `name` inside `dir` -/
def join (dir name : String) : String := String.ofList (joinChars dir.toList name.toList)

theorem joinChars_absolute (dir name : List Char) : joinChars dir ('/' :: name) = '/' :: name := by
  simp [joinChars]

/-! ## the last component -/

/-- a reversed path without the separators and single dots at its end -/
def dropJunk : List Char → List Char
  | '/' :: r => dropJunk r
  | '.' :: '/' :: r => dropJunk r
  | r => r

/-- the last component of a path and the text before it -/
structure Last where
  before : List Char
  name : List Char

/-- the last component, when it names a file: not `.`, not `..` -/
def last? (path : List Char) : Option Last :=
  let r := dropJunk path.reverse
  let name := (r.takeWhile (· != '/')).reverse
  if name = [] || name = ['.'] || name = ['.', '.'] then none
  else some ⟨(r.dropWhile (· != '/')).reverse, name⟩

/-- the path without its last component; nothing for the empty path and for the root -/
def parent? (path : String) : Option String :=
  let r := dropJunk path.toList.reverse
  if r.isEmpty then none
  else
    let p := (dropJunk (r.dropWhile (· != '/'))).reverse
    some (if p.isEmpty && isAbsolute path then "/" else String.ofList p)

/-! ## stem and extension -/

/-- a file name cut at its last dot; a dot that begins the name cuts nothing -/
def splitExtension (name : List Char) : List Char × Option (List Char) :=
  let r := name.reverse
  match r.dropWhile (· != '.') with
  | [] => (name, none)
  | [_] => (name, none)
  | _ :: stem => (stem.reverse, some (r.takeWhile (· != '.')).reverse)

/-- a file name made of a stem and an extension, with a dot between unless the extension is
empty -/
def withExtension (stem ext : List Char) : List Char :=
  if ext.isEmpty then stem else stem ++ '.' :: ext

/-- `path` with another extension, or nothing when `ext` holds a separator.

Separators after the last component go.  A name of two dots and more (`..x`) has the stem `.`;
without its extension it no longer names a file, and the path ends in `..`. -/
def replaceExtension? (path ext : List Char) : Option (List Char) :=
  if '/' ∈ ext then none
  else
    match last? path with
    | none => some path
    | some ⟨before, name⟩ =>
      match splitExtension name with
      | (['.'], some _) =>
        if path.getLast? = some '/' || path.reverse.take 2 = ['.', '/'] then
          some (before ++ withExtension ['.'] ext)
        else some (before ++ ['.', '.'])
      | (stem, _) => some (before ++ withExtension stem ext)

theorem replaceExtension?_eq_none_iff (path ext : List Char) :
    replaceExtension? path ext = none ↔ '/' ∈ ext := by
  unfold replaceExtension?
  by_cases h : '/' ∈ ext
  · simp [h]
  · simp only [h, if_false, iff_false]
    split
    · simp
    · split
      · split <;> simp
      · simp

/-! ## absolute paths -/

/-- the components that count, in order: neither empty nor a single dot -/
def components (path : List Char) : List (List Char) :=
  (path.splitOn '/').filter fun c => c ≠ [] && c ≠ ['.']

/-- where an absolute path starts: two leading separators are kept when there are exactly two -/
def root (path : List Char) : List Char :=
  match path with
  | '/' :: '/' :: '/' :: _ => ['/']
  | '/' :: '/' :: _ => ['/', '/']
  | _ => ['/']

/-- `path` seen from the working directory `cwd`; a separator at its end is kept -/
def absoluteChars (cwd path : List Char) : List Char :=
  let start := if path.head? = some '/' then root path else cwd
  let joined := (components path).foldl joinChars start
  if path.getLast? = some '/' then joinChars joined [] else joined

def absolute (cwd path : String) : String :=
  String.ofList (absoluteChars cwd.toList path.toList)

end ShellWorkers.Path
