import ShellWorkers.Utility.Dates
import ShellWorkers.Utility.Records.Memory
import ShellWorkers.Utility.Records.Reader
import ShellWorkers.Utility.Records.Value

/-!
# Programs for records

A program is run on the records of its files.
-/

/-!
## Running programs for records

Expressions have values and effects; statements go on or leave a loop.  `runProgram` does what a
program says before the first record, for each record, and behind the last one.
-/

namespace ShellWorkers.Utility.Records

open Machine
open Text (OctetText)
open ShellWorkers.Decimal

/-! ### numbers -/

/-- what is left of a number when another one has been taken away as often as possible; it has the
sign of the number -/
def remainderOf (x y : Float) : Float :=
  match (floatingOf x).magnitude, (floatingOf y).magnitude with
  | .finite m d, .finite n e =>
    if n = 0 then 0.0 / 0.0
    else
      let least := if d < e then d else e
      let rest := Floating.shifted m (d - least) % Floating.shifted n (e - least)
      let z := Float.scaleB rest.toFloat least
      if x < 0 then -z else z
  | .finite .., .infinite => x
  | _, _ => 0.0 / 0.0

def Arithmetic.apply (a : Arithmetic) (x y : Float) : Float :=
  match a with
  | .add => x + y
  | .subtract => x - y
  | .multiply => x * y
  | .divide => x / y
  | .remainder => remainderOf x y
  | .power => Float.pow x y

/-- a number without its fraction -/
def truncated (x : Float) : Float := if x < 0 then x.ceil else x.floor

/-- What is computed from values.  What is no number makes all that is computed from it no number,
with the same sign; any other that is none has a sign. -/
def computed (first : Value) (others : List Value) (z : Float) : Value :=
  if z.isNaN then
    match (first :: others).find? fun v => v.toNumber.isNaN with
    | some v => v.toNumeric
    | none => .number z
  else .number z

def Arithmetic.onValues (a : Arithmetic) (v w : Value) : Value :=
  computed v [w] (a.apply v.toNumber w.toNumber)

/-- the value on the other side of zero -/
def opposite (v : Value) : Value :=
  match v.toNumeric with
  | .number x => if x.isNaN then .noNumber else .number (-x)
  | _ => .number (0.0 / 0.0)

/-! ### random numbers -/

/-- one more number: the sum of the third and of the thirty-first before it -/
def moreRandom (numbers : List Nat) : List Nat :=
  (numbers.getD 2 0 + numbers.getD 30 0) % Nat.pow 2 32 :: numbers.take 30

/-- the numbers that random ones come from when a seed has been set -/
def seeded (seed : Nat) : List Nat :=
  let first := if seed = 0 then 1 else seed
  let numbers := (List.range 30).foldl (fun (numbers : List Nat) _ =>
    16807 * numbers.headD 0 % 2147483647 :: numbers) [first]
  let numbers := (List.range 3).foldl (fun (numbers : List Nat) _ =>
    numbers.getD 30 0 :: numbers.take 30) numbers
  (List.range 310).foldl (fun numbers _ => moreRandom numbers) numbers

/-- a random number from zero to one -/
def random : Run Value := do
  let numbers := moreRandom (← get).randoms
  modify ({ · with randoms := numbers })
  return .number ((numbers.headD 0 / 2).toFloat / 2147483647.0)

/-- sets the seed of random numbers, and answers the one before -/
def setSeed (seed : Value) : Run Value := do
  let before := (← get).seed
  let n := (wholeOf seed.toNumber % 4294967296).toNat
  modify fun m => { m with seed := seed, randoms := seeded n }
  pure before

/-! ### texts -/

/-- a part of a text from a place on, counted from one; what lies before the text counts too -/
def part (text : List Char) (start : Float) (length : Option Float) : List Char :=
  let first := wholeOf start - 1
  let length := (length.map wholeOf).getD 2147483647
  if first < 0 then text.take (length + first).toNat
  else (text.drop first.toNat).take length.toNat

/-- where a text stands in another one, counted from one; zero if it does not -/
def placeIn (sought : List Char) : (place : Nat) → List Char → Nat
  | place, [] => if sought.isEmpty then place else 0
  | place, c :: cs => if sought.isPrefixOf (c :: cs) then place else placeIn sought (place + 1) cs

/-- six numbers between blanks as an instant in seconds -/
def instantOf (z : Clock.Zone) (text : OctetText) : Float :=
  match (blankParts text.toList).map fun t => wholeOf (numberIn t) with
  | year :: month :: day :: hour :: minute :: second :: _ =>
    Float.ofInt ((z.seconds? none ⟨year, month, day, hour, minute, second, 0⟩).getD (-1))
  | _ => -1

/-- the seconds since the beginning of 1970 -/
def seconds : Run Int := do return Int.fdiv (← work (ask .now)) Clock.nanosPerSecond

/-- writes what a format has given, and ends the program if it could not be followed -/
def followed (function format : OctetText) (f : Formatted) (write : OctetText → Run Unit) :
    Run OctetText := do
  let text := String.ofList f.text.reverse
  match f.fault with
  | none => pure text
  | some fault =>
    write text
    match fault with
    | .tooFew =>
      failedRunning ("not enough arguments passed to " ++ function ++ "(\"" ++ format ++ "\")")
    | .improper n =>
      failedRunning ("improper conversion(number " ++ toString n ++ ") in " ++ function ++ "(\""
        ++ format ++ "\")")

/-- values as a format writes them -/
def formatted (function : OctetText) (write : OctetText → Run Unit) (values : List Value) :
    Run OctetText := do
  match values with
  | [] => pure ""
  | format :: values =>
    let format ← textOf format
    let conversion ← conversion
    followed function format
      (formatValues Value.toNumber (Value.toText conversion) (format.length + 1) 0 [] values
        format.toList) write

/-- what a format gives for a value has to be shorter -/
def spliceLimit : Nat := 8191

/-! ### functions of every program -/

/-- the value of a function that needs nothing but its arguments -/
def builtinValue (f : Builtin) (args : List Value) : Run Value := do
  let first := args.headD .unset
  let x := first.toNumber
  let second := (args.drop 1).headD .unset
  match f with
  | .length =>
    let text ← if args.isEmpty then textOf (← loadField 0) else textOf first
    return .ofNat text.length
  | .substr =>
    let text ← textOf first
    let length := (args[2]?).map Value.toNumber
    return .text (String.ofList (part text.toList second.toNumber length))
  | .index => return .ofNat (placeIn (← textOf second).toList 1 (← textOf first).toList)
  | .sprintf => do
    let text ← formatted "sprintf" (fun _ => pure ()) args
    if spliceLimit ≤ text.length then
      failedAt "program limit exceeded: sprintf buffer size=8192"
    return .text text
  | .sin => return computed first [] x.sin
  | .cos => return computed first [] x.cos
  | .atan2 => return computed first [second] (Float.atan2 x second.toNumber)
  | .exp => return computed first [] x.exp
  | .log => return computed first [] x.log
  | .sqrt => return computed first [] x.sqrt
  | .int => return computed first [] (truncated x)
  | .rand => random
  | .srand => do
    if args.isEmpty then setSeed (.number (Float.ofInt (← seconds))) else setSeed first
  | .close =>
    match ← closeStream (← textOf first) with
    | some n => return .ofNat n
    | none => return .number (-1)
  | .system => do
    flushAll
    return .ofNat (endNumber (← work (runShell "sh" (← textOf first))))
  | .fflush => do
    if args.isEmpty then do
      work flush
      return .number 0
    else
      let name ← textOf first
      let known := (← get).outputs.any (·.name == name)
      flushAll
      return .number (if known then 0 else -1)
  | .toupper => return .text (String.ofList ((← textOf first).toList.map Char.toUpper))
  | .tolower => return .text (String.ofList ((← textOf first).toList.map Char.toLower))
  | .systime => return .number (Float.ofInt (← seconds))
  | .mktime => return .number (instantOf (← work localZone) (← textOf first))
  | .strftime => do
    let format ← if args.isEmpty then pure "%c" else textOf first
    let instant ← if args.length < 2 then seconds else pure (naturalOf second.toNumber : Int)
    let third ← match args.drop 2 with
      | v :: _ => pure v.isTrue
      | [] => pure false
    let z ← if third then pure Clock.Zone.universal else work localZone
    return .text (Clock.write .plain z (instant * Clock.nanosPerSecond) format)

/-! ### expressions and statements -/

/-- where a value is stored -/
inductive Spot where
  | name (name : OctetText)
  | element (array : Nat) (key : Key)
  | field (number : Nat)

def Spot.load : Spot → Run Value
  | .name n => loadName n
  | .element array key => Records.element array key
  | .field n => loadField n

def Spot.store (v : Value) : Spot → Run Unit
  | .name n => storeName n v
  | .element array key => modifyArray array (·.insert key v)
  | .field n => storeField n v

/-- how many elements an array has -/
def sizeOf (id : Nat) : Run Value := do
  let t ← takeArray id
  putArray id t
  return .ofNat t.size

/-- how a statement ends -/
inductive Flow where
  | onward
  | broken
  | continued
  deriving DecidableEq

/-- the parts of a text become the elements of an array -/
def splitInto (array text : OctetText) (separator : Separator) : Run Value := do
  let parts := (separator.cut text).map Value.input
  let id ← openArray array
  putArray id (.ofParts parts)
  pure (.ofNat parts.length)

/-- more steps than any program has -/
def stepFuel : Nat := 1000000000000000

mutual

def evaluate : (fuel : Nat) → Expression → Run Value
  | 0, _ => throw .failed
  | fuel + 1, e => do
    match e with
    | .number x => pure (.number x)
    | .text t => pure (.text t)
    | .pattern r => return .ofBool (r.isIn (← textOf (← loadField 0)).toList)
    | .target (.name name) => loadName name
    | .target (.field (.number x)) => loadField (← fieldNumber x)
    | .target t => do
      let spot ← resolve fuel t
      spot.load
    | .assign t operator e => do
      let spot ← resolve fuel t
      let v ← evaluate fuel e
      let v ← match operator with
        | none => pure v
        | some a => do
          let before ← spot.load
          pure (a.onValues before v)
      spot.store v
      pure v
    | .step t isUp isAfter => do
      let spot ← resolve fuel t
      let before := (← spot.load).toNumeric
      let after := (if isUp then Arithmetic.add else .subtract).onValues before (.number 1)
      spot.store after
      pure (if isAfter then after else before)
    | .arithmetic a first second => do
      let x ← evaluate fuel first
      let y ← evaluate fuel second
      pure (a.onValues x y)
    | .compare relation first second => do
      let x ← evaluate fuel first
      let y ← evaluate fuel second
      return .ofBool (relation.holds (x.order (← conversion) y))
    | .concat first second => do
      let x ← textOf (← evaluate fuel first)
      let y ← textOf (← evaluate fuel second)
      pure (.text (x ++ y))
    | .both first second => do
      if (← evaluate fuel first).isTrue then return .ofBool (← evaluate fuel second).isTrue
      else pure (.ofBool false)
    | .either first second => do
      if (← evaluate fuel first).isTrue then pure (.ofBool true)
      else return .ofBool (← evaluate fuel second).isTrue
    | .choice c whenTrue whenFalse => do
      if (← evaluate fuel c).isTrue then evaluate fuel whenTrue else evaluate fuel whenFalse
    | .not e => return .ofBool !(← evaluate fuel e).isTrue
    | .negative e => return opposite (← evaluate fuel e)
    | .positive e => return (← evaluate fuel e).toNumeric
    | .isMatch expected text pattern => do
      let text ← textOf (← evaluate fuel text)
      let r ← patternValue fuel pattern
      return .ofBool (r.isIn text.toList == expected)
    | .isMember subscripts array => do
      let key ← keyOf fuel subscripts
      let id ← openArray array
      return .ofBool (← element? id key).isSome
    | .call name args => callFunction fuel name args
    | .builtin f args => do
      let values ← evaluateAll fuel args
      builtinValue f values
    | .size name => do
      match ← binding? name with
      | some (.array id) => sizeOf id
      | some (.undecided id) => sizeOf id
      | _ => return .ofNat (← textOf (← loadName name)).length
    | .find text pattern => do
      let text ← textOf (← evaluate fuel text)
      let r ← patternValue fuel pattern
      let (start, length) : Float × Float := match r.find? text.toList with
        | some m => ((m.start.offset + 1).toFloat, (m.stop.offset - m.start.offset).toFloat)
        | none => (0, -1)
      bind "RSTART" (.value (.number start))
      bind "RLENGTH" (.value (.number length))
      pure (.number start)
    | .split text array separator => do
      let text ← textOf (← evaluate fuel text)
      match separator with
      | none => do splitInto array text (← get).nextSeparator
      | some (.pattern r) => splitInto array text (.pattern r)
      | some e => do
        let v ← evaluate fuel e
        let separator ← separatorOf v
        splitInto array text separator
    | .replace everywhere pattern replacement target => do
      let r ← patternValue fuel pattern
      let replacement ← textOf (← evaluate fuel replacement)
      let spot ← match target with
        | some t => resolve fuel t
        | none => pure (.field 0)
      let text ← textOf (← spot.load)
      let (text, count) := replaceFound r everywhere replacement text
      if count ≠ 0 then spot.store (.text text)
      pure (.ofNat count)
    | .read source target => do
      let record ← match source with
        | .input => some <$> nextRecord? streamFuel
        | .file path => do
          let name ← textOf (← evaluate fuel path)
          recordOf false name
        | .command command => do
          let name ← textOf (← evaluate fuel command)
          recordOf true name
      match record with
      | none => pure (.number (-1))
      | some none => pure (.number 0)
      | some (some record) => do
        match target with
        | none => setRecord (.input record)
        | some t => do
          let spot ← resolve fuel t
          spot.store (.input record)
        pure (.number 1)

def evaluateAll : (fuel : Nat) → List Expression → Run (List Value)
  | 0, _ => throw .failed
  | _ + 1, [] => pure []
  | fuel + 1, e :: es => do
    let v ← evaluate fuel e
    return v :: (← evaluateAll fuel es)

/-- the key that subscripts are: several of them are one text -/
def keyOf : (fuel : Nat) → List Expression → Run Key
  | 0, _ => throw .failed
  | fuel + 1, subscripts => do
    match ← evaluateAll fuel subscripts with
    | [v] => return v.toKey (← conversion)
    | vs =>
      let texts ← vs.mapM textOf
      return .text ((← globalText "SUBSEP").intercalate texts)

/-- the regular expression that an expression is -/
def patternValue : (fuel : Nat) → Expression → Run Regex
  | 0, _ => throw .failed
  | fuel + 1, e =>
    match e with
    | .pattern r => pure r
    | e => do
      let text ← textOf (← evaluate fuel e)
      compiled text

/-- the place that a target is; an element is there from now on -/
def resolve : (fuel : Nat) → Target → Run Spot
  | 0, _ => throw .failed
  | fuel + 1, t => do
    match t with
    | .name name => pure (.name name)
    | .element array subscripts => do
      let key ← keyOf fuel subscripts
      let id ← openArray array
      let _ ← element id key
      pure (.element id key)
    | .field e => do
      let v ← evaluate fuel e
      return .field (← fieldNumber v.toNumber)

/-- what a function gets for an argument: an array is the same one inside of the function -/
def passed : (fuel : Nat) → Expression → Run Binding
  | 0, _ => throw .failed
  | fuel + 1, e => do
    match e with
    | .target (.name name) =>
      match ← binding? name with
      | some (.array id) => pure (.array id)
      | some (.undecided id) => pure (.undecided id)
      | some (.value v) => if name == "NF" then .value <$> loadName name else pure (.value v)
      | none => do
        if name == "NF" then .value <$> loadName name
        else
          let id ← newArray
          bind name (.undecided id)
          pure (.undecided id)
    | e => .value <$> evaluate fuel e

def passedAll : (fuel : Nat) → List Expression → Run (List Binding)
  | 0, _ => throw .failed
  | _ + 1, [] => pure []
  | fuel + 1, e :: es => do
    let b ← passed fuel e
    return b :: (← passedAll fuel es)

/-- runs a function of the program -/
def callFunction : (fuel : Nat) → OctetText → List Expression → Run Value
  | 0, _, _ => throw .failed
  | fuel + 1, name, args => do
    let m ← get
    match m.program.functions.find? (·.name == name) with
    | none => pure .unset
    | some f => do
      let given ← passedAll fuel args
      let count := (← get).arrayCount
      let others := (f.parameters.drop given.length).mapIdx fun i name =>
        (name, Binding.undecided (count + i))
      let locals := f.parameters.zip given ++ others
      let before := (← get).locals
      modify fun m => { m with locals := locals, arrayCount := count + others.length }
      let result : Value ← tryCatch
        (do
          let _ ← execute fuel f.body
          pure .unset)
        fun
        | .return v => pure v
        | leave => do
          modify ({ · with locals := before })
          throw leave
      modify fun m => { m with
        locals := before
        arrays := others.foldl (fun arrays (other : OctetText × Binding) =>
          match other.2 with
          | .undecided id => arrays.erase id
          | _ => arrays) m.arrays }
      pure result

def execute : (fuel : Nat) → Statement → Run Flow
  | 0, _ => throw .failed
  | fuel + 1, s => do
    match s with
    | .nothing => pure .onward
    | .block all => executeAll fuel all
    | .expression e => do
      let _ ← evaluate fuel e
      pure .onward
    | .print args place => do
      let values ← if args.isEmpty then pure [← loadField 0] else evaluateAll fuel args
      let place ← outputPlace fuel place
      let numbers ← globalText "OFMT"
      let between ← globalText "OFS"
      let behind ← globalText "ORS"
      write place (between.intercalate (values.map (Value.toText numbers)) ++ behind)
      pure .onward
    | .printf args place => do
      let values ← evaluateAll fuel args
      let place ← outputPlace fuel place
      let text ← formatted "printf" (write place) values
      write place text
      pure .onward
    | .branch c whenTrue whenFalse => do
      if (← evaluate fuel c).isTrue then execute fuel whenTrue
      else
        match whenFalse with
        | some s => execute fuel s
        | none => pure .onward
    | .while c body => loop fuel (some c) none body
    | .doWhile body c => do
      if (← execute fuel body) = .broken then pure .onward else loop fuel (some c) none body
    | .for first c step body => do
      match first with
      | some e => do
        let _ ← evaluate fuel e
      | none => pure ()
      loop fuel c step body
    | .forEach name array body => do
      let id ← openArray array
      let t ← takeArray id
      let (keys, t) := t.keys
      putArray id t
      loopThrough fuel name keys body
    | .break => pure .broken
    | .continue => pure .continued
    | .next => throw .next
    | .nextFile => throw .nextFile
    | .exit code => do
      match code with
      | some e => do
        let v ← evaluate fuel e
        modify ({ · with code := (wholeOf v.toNumber % 256).toNat })
      | none => pure ()
      throw .exit
    | .return result => do
      match result with
      | some e => do
        let v ← evaluate fuel e
        throw (.return v)
      | none => throw (.return .unset)
    | .delete array subscripts => do
      let id ← openArray array
      match subscripts with
      | none => putArray id .empty
      | some subscripts => do
        let key ← keyOf fuel subscripts
        modifyArray id (·.erase key)
      pure .onward

def executeAll : (fuel : Nat) → List Statement → Run Flow
  | 0, _ => throw .failed
  | _ + 1, [] => pure .onward
  | fuel + 1, s :: ss => do
    match ← execute fuel s with
    | .onward => executeAll fuel ss
    | flow => pure flow

/-- where an output statement writes to -/
def outputPlace : (fuel : Nat) → Option (Direction × Expression) →
    Run (Option (Direction × OctetText))
  | 0, _ => throw .failed
  | _ + 1, none => pure none
  | fuel + 1, some (d, e) => do
    let name ← textOf (← evaluate fuel e)
    pure (some (d, name))

/-- a loop as long as a condition holds -/
def loop : (fuel : Nat) → Option Expression → Option Expression → Statement → Run Flow
  | 0, _, _, _ => throw .failed
  | fuel + 1, c, step, body => do
    let goesOn ← match c with
      | some e => Value.isTrue <$> evaluate fuel e
      | none => pure true
    if !goesOn then pure .onward
    else
      match ← execute fuel body with
      | .broken => pure .onward
      | _ => do
        match step with
        | some e => do
          let _ ← evaluate fuel e
        | none => pure ()
        loop fuel c step body

/-- a loop for all keys -/
def loopThrough : (fuel : Nat) → OctetText → List OctetText → Statement → Run Flow
  | 0, _, _, _ => throw .failed
  | _ + 1, _, [], _ => pure .onward
  | fuel + 1, name, key :: keys, body => do
    storeName name (.text key)
    match ← execute fuel body with
    | .broken => pure .onward
    | _ => loopThrough fuel name keys body

end

/-! ### programs -/

/-- whether something is done for the record; `number` is that of the rule -/
def applies (number : Nat) : Condition → Run Bool
  | .always => pure true
  | .when e => Value.isTrue <$> evaluate stepFuel e
  | .range first last => do
    let isInside ← if (← get).ranges.contains number then pure true
      else Value.isTrue <$> evaluate stepFuel first
    if isInside then
      let isLast := (← evaluate stepFuel last).isTrue
      modify fun m => { m with
        ranges := if isLast then m.ranges.filter (· ≠ number)
          else if m.ranges.contains number then m.ranges else number :: m.ranges }
    pure isInside

/-- does what the rules say for the record -/
def applyRules : (number : Nat) → List Rule → Run Unit
  | _, [] => pure ()
  | number, rule :: rules => do
    if ← applies number rule.condition then
      let _ ← execute stepFuel rule.body
    applyRules (number + 1) rules

/-- does what the rules say for all records -/
def forRecords (rules : List Rule) : (fuel : Nat) → Run Unit
  | 0 => pure ()
  | fuel + 1 => do
    match ← nextRecord? streamFuel with
    | none => pure ()
    | some record => do
      setRecord (.input record)
      tryCatch (applyRules 0 rules) fun
        | .next => pure ()
        | .nextFile => leaveOperand
        | leave => throw leave
      forRecords rules fuel

/-- statements up to the end of the program; whether it goes on -/
def untilExit (run : Run Unit) : Run Bool :=
  tryCatch
    (do
      run
      pure true)
    fun
    | .failed => throw .failed
    | _ => pure false

/-- runs a program, and closes its streams -/
def runProgram (p : Program) : Run Unit := do
  tryCatch
    (do
      let all (statements : List Statement) : Run Unit := do
        let _ ← executeAll stepFuel statements
      let goesOn ← untilExit (all p.before)
      if !p.rules.isEmpty || !p.behind.isEmpty then
        if goesOn then
          let _ ← untilExit (forRecords p.rules streamFuel)
        let _ ← untilExit (all p.behind))
    fun _ => modify ({ · with code := 2 })
  closeAll

end ShellWorkers.Utility.Records

/-!
## Programs for records

`awk` cuts its input into records and these into fields, and does what a program says for each of
them.  The program is the first argument, or stands in files.
-/

namespace ShellWorkers.Utility

open Machine
open Text (OctetText)

namespace Records

/-- what the options say -/
structure Plan where
  /-- the files of the program -/
  files : List OctetText
  /-- variables that are set before all else, in their order -/
  settings : List (OctetText × OctetText)
  operands : List OctetText

/-- how the arguments are written -/
def usageLines : List OctetText :=
  ["Usage: awk [Options] [Program] [file ...]",
    "",
    "Program:",
    "    The -f option value is the name of a file containing program text.",
    "    If no -f option is given, a \"--\" ends option processing; the following",
    "    parameters are the program text.",
    "",
    "Options:",
    "    -f program-file  Program  text is read from file instead of from the",
    "                     command-line.  Multiple -f options are accepted.",
    "    -F value         sets the field separator, FS, to value.",
    "    -v var=value     assigns value to program variable var.",
    "    --               unambiguous end of options.",
    "",
    "    Implementation-specific options are prefixed with \"-W\".  They can be",
    "    abbreviated:",
    "",
    "    -W version       show version information and exit.",
    "    -W dump          show assembler-like listing of program and exit.",
    "    -W help          show this message and exit.",
    "    -W interactive   set unbuffered output, line-buffered input.",
    "    -W exec file     use file as program as well as last option.",
    "    -W random=number set initial random seed.",
    "    -W sprintf=number adjust size of sprintf buffer.",
    "    -W posix_space   do not consider \"\\n\" a space.",
    "    -W usage         show this message and exit."]

def usage : OctetText := String.join (usageLines.map (· ++ "\n"))

/-- names of settings that have no meaning here -/
def idleSettings : List OctetText := ["dump", "interactive", "posix", "posix_space", "traditional"]

/-- takes an option with its argument -/
def takeOption (p : Plan) (letter : Char) (text : OctetText) : Work Plan := do
  match letter with
  | 'F' => pure { p with settings := p.settings ++ [("FS", Scanner.unescaped text)] }
  | 'f' => pure { p with files := p.files ++ [text] }
  | 'v' =>
    match operandAssignment? text with
    | some setting => pure { p with settings := p.settings ++ [setting] }
    | none => do
      noteAhead ("improper assignment: -v " ++ text)
      stop 2
  | _ => do
    if text == "help" || text == "usage" then do
      let _ ← ask (.write 2 usage)
      stop 0
    else if text == "version" then do
      putLine "mawk 1.3.4 20200120"
      stop 0
    else if idleSettings.contains text || text.contains '=' then pure p
    else do
      noteAhead ("vacuous option: -W \"" ++ text ++ "\"")
      pure p

/-- reads the options up to what is none -/
def readPlan : List OctetText → Plan → Work Plan
  | [], p => pure p
  | arg :: args, p => do
    match arg.toList with
    | '-' :: letter :: text =>
      if arg == "--" then pure { p with operands := args }
      else if letter == '-' then
        let name := String.ofList text
        if idleSettings.contains name || ["help", "usage", "version"].contains name then do
          let p ← takeOption p 'W' name
          readPlan args p
        else do
          noteAhead ("not an option: " ++ arg)
          stop 2
      else if !(['F', 'f', 'v', 'W'].contains letter) then do
        noteAhead ("not an option: " ++ arg)
        stop 2
      else if !text.isEmpty then do
        let p ← takeOption p letter (String.ofList text)
        readPlan args p
      else
        match args with
        | [] => do
          noteAhead ("option -" ++ String.singleton letter ++ " lacks argument")
          stop 2
        | value :: args => do
          let p ← takeOption p letter value
          readPlan args p
    | _ => pure { p with operands := arg :: args }

/-- the text of the program in a file -/
def programText (path : OctetText) : Work OctetText := do
  match ← readOperand path with
  | .ok text => pure text
  | .error e => do
    noteAhead ("cannot open \"" ++ path ++ "\" (" ++ faultText e ++ ")")
    stop 2

/-- the variables that every program has -/
def startVariables (args : List OctetText) (vars : Variables) :
    List (OctetText × Value) × List (OctetText × Table Value) :=
  let elements (all : List (Key × OctetText)) : Table Value :=
    all.foldl (fun t p => t.insert p.1 (.input p.2)) .empty
  ([("FS", .text " "), ("RS", .text "\n"), ("OFS", .text " "), ("ORS", .text "\n"),
      ("SUBSEP", .text "\x1c"), ("CONVFMT", .text "%.6g"), ("OFMT", .text "%.6g"),
      ("NR", .number 0), ("FNR", .number 0), ("ARGC", .ofNat args.length)],
    [("ARGV", elements (args.mapIdx fun i arg => (.number i, arg))),
      ("ENVIRON", elements (vars.map fun v => (.text v.1, v.2)))])

/-- the memory with which a program starts -/
def startMemory (p : Program) (args : List OctetText) (vars : Variables) : Memory :=
  let (values, tables) := startVariables args vars
  let named := values.map (fun v => (v.1, Binding.value v.2))
    ++ tables.mapIdx fun i t => (t.1, Binding.array i)
  { program := p
    globals := .ofList named
    locals := []
    arrays := .ofList (tables.mapIdx fun i t => (i, t.2))
    arrayCount := tables.length
    record := .text ""
    recordIsCurrent := true
    fields := #[]
    fieldsAreCurrent := true
    separator := .blanks
    nextSeparator := .blanks
    recordEnd := .char '\n'
    operands := ⟨1, none, false⟩
    inputs := []
    outputs := [.standard, .messages]
    ranges := []
    randoms := seeded 1
    seed := .number 0
    code := 0 }

/-- runs a program with its operands -/
def runWith (p : Program) (settings : List (OctetText × OctetText)) (operands : List OctetText) :
    Work Unit := do
  let s ← get
  let run : Run Unit := do
    settings.forM fun setting => storeName setting.1 (.input setting.2)
    runProgram p
  let (_, m) ← run.run.run (startMemory p (s.name :: operands) s.vars)
  stop m.code

end Records

/-- cuts the input into records and does what a program says for them -/
def awk (args : List OctetText) : Work Unit := do
  modify fun s => { s with name := baseOf s.name }
  let plan ← Records.readPlan args ⟨[], [], []⟩
  let (text, operands) ← match plan.files, plan.operands with
    | [], text :: operands => pure (text, operands)
    | [], [] => do
      let _ ← ask (.write 2 Records.usage)
      stop 0
    | files, operands => do
      let texts ← files.mapM Records.programText
      pure ("\n".intercalate texts, operands)
  let place := match plan.files.getLast? with
    | some file => file ++ ": "
    | none => ""
  match Records.readProgram text with
  | .error faults => do
    faults.forM fun fault => noteAhead (place ++ fault)
    stop 2
  | .ok p => Records.runWith p plan.settings operands

end ShellWorkers.Utility
