import ScriptBatch.Options.Usage

/-!
# Reading command lines

Arguments are read from left to right. A switch, and an option with its value attached, take effect
at once. An option whose value stands in an argument of its own stays pending: whether it has a
value, whether it is repeated and whether its value is allowed is checked when the next known flag
or the end is reached. An argument without meaning is refused before that.
-/

namespace ScriptBatch.Options

/-- What has been read so far. -/
structure Reading where
  options : Options := {}
  /-- The flags that have taken effect, in order. -/
  given : List Flag := []
  /-- An option that has not yet taken effect, with its value if that has been read. -/
  pending : Option (ValueOption × Option String) := none
  /-- Two dashes have ended the options. -/
  ended : Bool := false

namespace Reading

/-- Notes that a flag takes effect, which it can do only once. -/
def note (r : Reading) (flag : Flag) : Except Stop Reading :=
  if flag ∈ r.given then .error (.misuse (.repeated flag))
  else .ok { r with given := r.given ++ [flag] }

def assign (r : Reading) (option : ValueOption) (text : String) : Except Stop Reading := do
  let r ← r.note (.value option)
  match r.options.setValue? option text with
  | some options => .ok { r with options }
  | none =>
    .error (.misuse (if text.isEmpty then .missingValue option else .badValue option text))

/-- Lets the pending option take effect. -/
def settle (r : Reading) : Except Stop Reading :=
  match r.pending with
  | none => .ok r
  | some (option, none) => .error (.misuse (.missingValue option))
  | some (option, some text) => assign { r with pending := none } option text

/-- The flags that have taken effect, and the pending option if it has a value. -/
def named (r : Reading) : List Flag :=
  match r.pending with
  | some (option, some _) =>
    if .value option ∈ r.given then r.given else r.given ++ [.value option]
  | _ => r.given

def readFlag (r : Reading) (flag : Flag) (attached : Option String) : Except Stop Reading :=
  match flag, attached with
  | .value option, some text => do (← r.settle).assign option text
  | .value option, none => do .ok { ← r.settle with pending := some (option, none) }
  | flag, some text => .error (.misuse (.unneededValue flag text r.given))
  | .switch s, none => do
    let r ← (← r.settle).note (.switch s)
    .ok { r with options := r.options.setSwitch s }
  | .inquiry .help, none => do
    let _ ← r.settle
    .error (.help true)
  | .inquiry .version, none => do
    let _ ← r.settle
    .error .version

def readLong (r : Reading) (body : List Char) : Except Stop Reading :=
  let name := String.ofList (body.takeWhile (· != '='))
  let attached := (body.dropWhile (· != '=')).tail?.map String.ofList
  match Flag.ofName? name with
  | some flag => r.readFlag flag attached
  | none => .error (.misuse (.unexpected ("--" ++ name) r.named))

/-- Reads a group of one-letter flags. Both letters that there are end the reading. -/
def readShort (r : Reading) (letter : Char) : Except Stop Reading := do
  match letter with
  | 'h' =>
    let _ ← r.settle
    .error (.help false)
  | 'V' =>
    let _ ← r.settle
    .error .version
  | _ => .error (.misuse (.unexpected (String.ofList ['-', letter]) []))

/-- An argument can be the value of the option before it, unless it looks like a flag. -/
def isValue (arg : List Char) : Bool := arg == ['-'] || arg.head? != some '-'

def read (r : Reading) (arg : String) : Except Stop Reading :=
  let unexpected : Except Stop Reading := .error (.misuse (.unexpected arg []))
  if r.ended then unexpected
  else
    match r.pending, isValue arg.toList with
    | some (option, none), true => .ok { r with pending := some (option, some arg) }
    | _, true => unexpected
    | _, false =>
      match arg.toList with
      | ['-', '-'] => .ok { r with ended := true }
      | '-' :: '-' :: body => r.readLong body
      | '-' :: letter :: _ => r.readShort letter
      | _ => unexpected

/-- The last check: running with and without an interpreter exclude each other. -/
def finish (r : Reading) : Except Stop Options := do
  let r ← r.settle
  let interpreter : Flag := .value .interpreter
  let direct : Flag := .switch .noInterpreter
  if interpreter ∈ r.given ∧ direct ∈ r.given then
    let (first, second) :=
      if r.given.idxOf interpreter < r.given.idxOf direct then (interpreter, direct)
      else (direct, interpreter)
    .error (.misuse (.conflict first second (r.given.filter (· != second))))
  else .ok r.options

end Reading

def parse (args : List String) : Except Stop Options := do
  (← args.foldlM Reading.read {}).finish

end ScriptBatch.Options
