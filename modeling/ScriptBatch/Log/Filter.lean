import ScriptBatch.Log
import ScriptBatch.Log.Pattern
import ScriptBatch.Text.Alphanumeric

/-!
# Log filters

A filter decides which events are written. It is a list of directives, each of which lets events of
some part of the program pass up to a threshold. The most specific directive that applies decides;
without one the event is dropped.
-/

namespace ScriptBatch.Log

abbrev Threshold := Option Severity

def Threshold.admits (t : Threshold) (s : Severity) : Bool :=
  t.any fun least => s.rank ≤ least.rank

/-- The threshold with this number, from `0` for nothing to `5` for everything. -/
def Threshold.ofRank? (n : Nat) : Option Threshold :=
  if n == 0 then some none else (Severity.all.find? (·.rank == n)).map some

/-- A whole number, which may have a plus sign before it. -/
def digitsValue? (cs : List Char) : Option Nat :=
  let digits := match cs with
    | '+' :: rest => rest
    | _ => cs
  if digits.isEmpty || !digits.all Char.isDigit then none
  else some (digits.foldl (fun n c => 10 * n + (c.toNat - '0'.toNat)) 0)

def Threshold.ofText? (s : String) : Option Threshold :=
  match (digitsValue? s.toList).bind Threshold.ofRank? with
  | some t => some t
  | none =>
    let word := String.ofList (s.toList.map Char.toLower)
    if word == "off" then some none else (Severity.ofName? word).map some

/-- Events of the parts whose names start with `target` pass up to the threshold. If a field is
named, only events that have it are meant. -/
structure Directive where
  target : String
  field : Option String := none
  threshold : Threshold
  deriving Repr, DecidableEq

/-- A list of directives; of two about the same events the later one counts. -/
structure Filter where
  directives : List Directive := []
  deriving Repr, DecidableEq

namespace Directive

def everywhere (t : Threshold) : Directive := { target := "", threshold := t }

def everything : Threshold := some .trace

/-- Letters, digits and a few marks may start a directive. -/
def canStart (c : Char) : Bool := Text.isAlphanumeric c || c == '-' || c == ':' || c == '_'

/-- The threshold behind an equals sign. Without a sign, or with nothing behind it,
everything passes. -/
def level? (cs : List Char) : Option Threshold :=
  match cs with
  | [] | ['='] => some everything
  | '=' :: level => Threshold.ofText? (String.ofList level)
  | _ => none

/-- What stands between brackets: a field between braces, or the name of a span of time, or both.
The result is the field that events have to have, if the brackets are about events at all, and what
follows the brackets. No events happen in spans, and none is judged by the value of a field, but the
value has to be one that can be read. -/
def brackets? (cs : List Char) : Option (Option String × List Char) :=
  let span := cs.takeWhile fun c => c != ']' && c != '\x7b'
  match cs.dropWhile fun c => c != ']' && c != '\x7b' with
  | ']' :: rest => some (none, rest)
  | '\x7b' :: body =>
    let field := body.takeWhile (· != '\x7d')
    match body.dropWhile (· != '\x7d') with
    | '\x7d' :: ']' :: rest =>
      let value? := (field.splitOn '=')[1]?
      if field.isEmpty || !(value?.all Pattern.isValue) then none
      else if !span.isEmpty || value?.isSome then some (none, rest)
      else some (some (String.ofList field), rest)
    | _ => none
  | _ => none

/-- Reads a directive: a threshold, or a target that brackets, an equals sign and a threshold may
follow. The result is empty if the directive concerns no event. Blanks belong to what they stand in,
and a threshold with blanks is none; behind blanks no equals sign is allowed, and brackets there
concern nothing. -/
def parse? (s : String) : Option (List Directive) :=
  let blanks := s.toList.takeWhile Text.isBlank
  let body := s.toList.dropWhile Text.isBlank
  let isPlain (c : Char) : Bool := c != '=' && c != '['
  let target := String.ofList (body.takeWhile isPlain)
  if !(body.head?.any fun c => canStart c || c == '[') then none
  else
    match body.dropWhile isPlain with
    | [] =>
      match Threshold.ofText? s with
      | some t => some [everywhere t]
      | none => some [{ target := s, threshold := everything }]
    | '[' :: inside => do
      let (field, rest) ← brackets? inside
      let rest := if rest.all Text.isBlank then [] else rest
      let threshold ← level? rest
      if blanks.isEmpty then
        some (field.toList.map fun f => { target, field := some f, threshold })
      else if rest.isEmpty then some []
      else none
    | level =>
      if blanks.isEmpty then (level? level).map fun threshold => [{ target, threshold }] else none

def appliesTo (d : Directive) (e : Event) : Bool :=
  d.target.toList.isPrefixOf e.topic.path.toList && d.field.all (e.fields.contains ·)

/-- A directive is at least as specific as another one: its target is longer, or it asks for a
field, or for one whose name comes later in the alphabet. -/
def refines (d e : Directive) : Bool :=
  if d.target.length != e.target.length then e.target.length < d.target.length
  else
    match d.field, e.field with
    | _, none => true
    | none, some _ => false
    | some f, some g => g ≤ f

end Directive

namespace Filter

def upTo (s : Severity) : Filter := ⟨[.everywhere (some s)]⟩

def parse? (s : String) : Option Filter := do
  let pieces := (s.toList.splitOn ',').map String.ofList
  some ⟨(← (pieces.filter (!·.isEmpty)).mapM Directive.parse?).flatten⟩

/-- The directive that decides about an event: the most specific one that applies, and the last of
those. -/
def decisive? (f : Filter) (e : Event) : Option Directive :=
  (f.directives.filter (·.appliesTo e)).foldl
    (fun best d => if best.all (d.refines ·) then some d else best) none

def admits (f : Filter) (e : Event) : Bool :=
  (f.decisive? e).any fun d => d.threshold.admits e.severity

/-- The filter of a run: the severity given on the command line, or else the value of the
environment variable if it can be read, or else everything that is not for debugging. -/
def choose (given : Option Severity) (environment : Option String) : Filter :=
  match given with
  | some s => upTo s
  | none => (((environment.map Text.trim).filter (!·.isEmpty)).bind parse?).getD (upTo .info)

end Filter

end ScriptBatch.Log
