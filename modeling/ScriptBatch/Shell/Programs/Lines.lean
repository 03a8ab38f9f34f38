import ScriptBatch.Shell.Programs.Call

/-!
# Programs for text

Programs that show, cut, count, sort and search lines of text.
-/

namespace ScriptBatch.Shell.Programs

/-- Writes texts, each changed by `f`. With `titled` more than one text has its name before it. -/
def showEach (s : State) (name : String) (operands : List String) (titled : Bool)
    (f : String → String) : State × Flow :=
  let (texts, s, ok) := readEach s name operands
  let blocks := texts.map fun (path, text) =>
    let path := if path == "-" then "standard input" else path
    (if titled && 1 < operands.length then s!"==> {path} <==\n" else "") ++ f text
  let divider := if titled && 1 < operands.length then "\n" else ""
  done (s.write (divider.intercalate blocks)) (if ok then 0 else 1)

/-- Writes texts one after the other, with numbers before the lines if that is asked for. -/
def concatenate (s : State) (args : List String) : State × Flow :=
  withCall s "cat" { plain := "AbeEnstTuv" } 1 args fun call =>
    if call.has 'n' then
      let (texts, s, ok) := readEach s "cat" call.operands
      let ls := linesOf (String.join (texts.map (·.2)))
      let numbered := ls.zipIdx.map fun (l, i) =>
        String.ofList (List.replicate (6 - (i + 1).repr.length) ' ') ++ (i + 1).repr ++ "\t" ++ l
      done (s.write (String.join numbered)) (if ok then 0 else 1)
    else
      -- Each file is written before the next one is complained about.
      forEach s (orInput call.operands) 1 fun s path =>
        match source s path with
        | .ok (text, s) => (s.write text, true)
        | .error e => (complainAs s "cat" s!"{path}: {reason e}", false)

def oldCount (args : List String) : List String :=
  match args with
  | first :: rest =>
    match first.toList with
    | '-' :: d :: digits => if (d :: digits).all Char.isDigit then
        "-n" :: String.ofList (d :: digits) :: rest else args
    | _ => args
  | [] => []

def excerpt (s : State) (name : String) (fromEnd : Bool) (args : List String) : State × Flow :=
  withCall s name { plain := "qvf", valued := "nc" } 1 (oldCount args) fun call =>
    let take {α : Type} (count : String) (xs : List α) : List α :=
      let digits := count.toList.filter Char.isDigit
      let n := (String.ofList digits).toNat?.getD 0
      match count.toList.head?, fromEnd with
      | some '+', true => xs.drop (n - 1)
      | some '-', false => xs.take (xs.length - n)
      | _, true => xs.drop (xs.length - n)
      | _, false => xs.take n
    showEach s name call.operands (!(call.has 'q')) fun text =>
      match call.value? 'c' with
      | some count => String.ofList (take count text.toList)
      | none => String.join (take ((call.value? 'n').getD "10") (linesOf text))

def count (s : State) (args : List String) : State × Flow :=
  withCall s "wc" { plain := "clmLw" } 1 args fun call =>
    let (texts, s, ok) := readEach s "wc" call.operands
    let all := !(call.has 'l' || call.has 'w' || call.has 'c' || call.has 'm')
    let countsOf (text : String) : List Nat :=
      let words := (text.toList.splitBy fun a b => a.isWhitespace == b.isWhitespace).filter
        fun w => !(w.head?.any Char.isWhitespace)
      (if all || call.has 'l' then [text.toList.count '\n'] else []) ++
      (if all || call.has 'w' then [words.length] else []) ++
      (if call.has 'm' then [text.length] else []) ++
      (if all || call.has 'c' then [text.utf8ByteSize] else [])
    let rows := texts.map fun (path, text) => (countsOf text, path)
    let total := rows.foldl
      (fun sums row => if sums.isEmpty then row.1 else List.zipWith (· + ·) sums row.1) []
    let rows := if 1 < rows.length then rows ++ [(total, "total")] else rows
    let size := texts.foldl (fun n t => n + t.2.utf8ByteSize) 0
    let width :=
      if total.length == 1 && texts.length ≤ 1 then 1
      else if texts.any (·.1 == "-") then 7
      else size.repr.length
    let pad (n : Nat) : String :=
      String.ofList (List.replicate (width - n.repr.length) ' ') ++ n.repr
    let ls := rows.map fun (counts, path) =>
      " ".intercalate (counts.map pad) ++ (if path == "-" then "" else " " ++ path)
    done (s.write (joinLines ls)) (if ok then 0 else 1)

def sort (s : State) (args : List String) : State × Flow :=
  withCall s "sort" { plain := "bfnru", valued := "kt" } 2 args fun call =>
    let (texts, s, ok) := readEach s "sort" call.operands
    let ls := (texts.map fun t => bareLines t.2).flatten
    let number (l : String) : Int :=
      let cs := l.toList.dropWhile Char.isWhitespace
      let (negative, cs) := match cs with
        | '-' :: rest => (true, rest)
        | _ => (false, cs)
      let n : Int := ((String.ofList (cs.takeWhile Char.isDigit)).toNat?.getD 0 : Nat)
      if negative then -n else n
    let before (a b : String) : Bool :=
      if call.has 'n' then number a < number b || (number a == number b && a ≤ b) else a ≤ b
    let ordered := ls.mergeSort before
    let ordered := if call.has 'r' then ordered.reverse else ordered
    let ordered := if call.has 'u' then ordered.eraseDups else ordered
    done (s.write (joinLines ordered)) (if ok then 0 else 2)

def unique (s : State) (args : List String) : State × Flow :=
  withCall s "uniq" { plain := "cdu" } 1 args fun call =>
    let (texts, s, ok) := readEach s "uniq" (call.operands.take 1)
    let groups := (String.join (texts.map (·.2)) |> bareLines).splitBy (· == ·)
    let groups := if call.has 'd' then groups.filter (1 < ·.length) else groups
    let groups := if call.has 'u' then groups.filter (·.length == 1) else groups
    let ls := groups.map fun g =>
      let n := g.length.repr
      let tally := String.ofList (List.replicate (7 - n.length) ' ') ++ n ++ " "
      (if call.has 'c' then tally else "") ++ g.headD ""
    done (s.write (joinLines ls)) (if ok then 0 else 1)

def ranges (text : String) : List (Nat × Option Nat) :=
  (text.toList.splitOn ',').map fun piece =>
    let first := piece.takeWhile Char.isDigit
    let n := (String.ofList first).toNat?.getD 1
    match piece.drop first.length with
    | '-' :: last => (n, (String.ofList last).toNat?)
    | _ => (n, some n)

def cut (s : State) (args : List String) : State × Flow :=
  withCall s "cut" { plain := "sn", valued := "bcdf" } 1 args fun call =>
    let chosen := ranges ((call.value? 'f').getD ((call.value? 'c').getD
      ((call.value? 'b').getD "")))
    let isChosen (i : Nat) : Bool := chosen.any fun (a, b) => a ≤ i && b.all (i ≤ ·)
    let pick {α : Type} (xs : List α) : List α :=
      (xs.zipIdx.filter fun (_, i) => isChosen (i + 1)).map (·.1)
    let delimiter := (((call.value? 'd').getD "\t").toList.head?).getD '\t'
    let line (l : String) : Option String :=
      if (call.value? 'f').isSome then
        if l.toList.contains delimiter then
          some (delimiter.toString.intercalate
            (pick ((l.toList.splitOn delimiter).map String.ofList)))
        else if call.has 's' then none
        else some l
      else some (String.ofList (pick l.toList))
    if chosen == [(1, some 1)] && (call.value? 'f').isNone && (call.value? 'c').isNone &&
        (call.value? 'b').isNone then
      misuse s "cut" "you must specify a list of bytes, characters, or fields" 1
    else
      showEach s "cut" call.operands false fun text => joinLines ((bareLines text).filterMap line)

/-- A set of characters, with ranges, classes and escapes. Each round takes at least one character.
-/
def characters : Nat → List Char → List Char
  | 0, _ => []
  | _, [] => []
  | n + 1, '\\' :: c :: rest => (Printing.escape? c).getD c :: characters n rest
  | n + 1, '[' :: ':' :: rest =>
    let name := rest.takeWhile Char.isAlpha
    let members := (Pattern.namedClass (String.ofList name)).flatMap fun (a, b) =>
      (List.range (b.toNat + 1 - a.toNat)).map fun i => Char.ofNat (a.toNat + i)
    members ++ characters n (rest.drop (name.length + 2))
  | n + 1, a :: '-' :: b :: rest =>
    ((List.range (b.toNat + 1 - a.toNat)).map fun i => Char.ofNat (a.toNat + i)) ++
      characters n rest
  | n + 1, c :: rest => c :: characters n rest

def replaceCharacters (s : State) (args : List String) : State × Flow :=
  withCall s "tr" { plain := "cCdst" } 1 args fun call =>
    let set (text : String) : List Char := characters (text.length + 1) text.toList
    match call.operands.map set with
    | [] => misuse s "tr" "missing operand" 1
    | first :: others =>
      let isMember (c : Char) : Bool := first.contains c != (call.has 'c' || call.has 'C')
      let targets := others.headD []
      let target (c : Char) : Char :=
        if targets.isEmpty || call.has 'd' || !(isMember c) then c
        else if call.has 'c' || call.has 'C' then targets.getLast?.getD c
        else (targets[first.idxOf c]?).getD (targets.getLast?.getD c)
      let text := s.input.filter fun c => !(call.has 'd' && isMember c)
      let replaced := text.map target
      let squeezed := if targets.isEmpty then first else targets
      let text :=
        if call.has 's' then
          ((replaced.splitBy fun a b => a == b && squeezed.contains a).map
            fun run => run.take 1).flatten
        else replaced
      done ((s.withInput []).write (String.ofList text)) 0

def duplicate (s : State) (args : List String) : State × Flow :=
  withCall s "tee" { plain := "aip" } 1 args fun call =>
    let text := String.ofList s.input
    forEach ((s.withInput []).write text) call.operands 1 fun s path =>
      match s.tree.openForWriting s.cwd path (call.has 'a') with
      | .ok (p, tree) => ({ s with tree := tree.append p text }, true)
      | .error e => (complainAs s "tee" s!"{path}: {reason e}", false)

/-- A piece of a search pattern, and whether it may be repeated any number of times. -/
structure Piece where
  /-- `none` stands for any character. -/
  set : Option (Bool × List (Char × Char))
  repeated : Bool := false

/-- The pieces of a search pattern. Each round takes at least one character. -/
def pieces (fixed : Bool) : Nat → List Char → List Piece
  | 0, _ => []
  | _, [] => []
  | n + 1, c :: rest =>
    let (set, rest) : Option (Bool × List (Char × Char)) × List Char :=
      match fixed, c, rest with
      | false, '.', _ => (none, rest)
      | false, '\\', e :: rest => (some (false, [(e, e)]), rest)
      | false, '[', _ =>
        let (negated, inside) :=
          match rest with
          | '^' :: inside => (true, inside)
          | _ => (false, rest)
        match Pattern.ranges (inside.length + 1) true (Marked.ofText inside false) with
        | some (rs, after) => (some (negated, rs), after.map (·.1))
        | none => (some (false, [('[', '[')]), rest)
      | _, c, rest => (some (false, [(c, c)]), rest)
    match fixed, rest with
    | false, '*' :: rest => ⟨set, true⟩ :: pieces fixed n rest
    | _, _ => ⟨set, false⟩ :: pieces fixed n rest

namespace Piece

def accepts (p : Piece) (c : Char) : Bool :=
  match p.set with
  | none => true
  | some (negated, rs) => rs.any (fun r => r.1 ≤ c && c ≤ r.2) != negated

def start (whole : Bool) : List Piece → List Char → Bool
  | [], text => !whole || text.isEmpty
  | p :: ps, text =>
    if p.repeated then
      let run := text.takeWhile p.accepts
      (List.range (run.length + 1)).any fun k => start whole ps (text.drop k)
    else
      match text with
      | c :: rest => p.accepts c && start whole ps rest
      | [] => false

end Piece

/-- A line contains what a search pattern describes. A caret ties it to the start, a dollar sign to
the end. -/
def found (fixed ignoreCase wholeLine : Bool) (pattern line : String) : Bool :=
  let fold (t : String) : List Char := if ignoreCase then t.toList.map Char.toLower else t.toList
  let cs := fold pattern
  let (atStart, cs) :=
    match fixed, cs with
    | false, '^' :: rest => (true, rest)
    | _, _ => (wholeLine, cs)
  let (atEnd, cs) :=
    if !fixed && cs.getLast? == some '$' then (true, cs.dropLast) else (wholeLine, cs)
  let ps := pieces fixed (cs.length + 1) cs
  let starts := if atStart then [fold line] else Pattern.tails (fold line)
  starts.any (Piece.start atEnd ps)

def search (s : State) (args : List String) : State × Flow :=
  withCall s "grep" { plain := "cEFGhHilnoqsvwx", valued := "em" } 2 args fun call =>
    let (pattern, operands) :=
      match call.value? 'e', call.operands with
      | some p, operands => (some p, operands)
      | none, p :: operands => (some p, operands)
      | none, [] => (none, [])
    match pattern with
    | none =>
      done ((s.writeError "Usage: grep [OPTION]... PATTERNS [FILE]...\n").writeError
        "Try 'grep --help' for more information.\n") 2
    | some pattern =>
      let (texts, s, ok) := readEach s "grep" operands
      let isHit (l : String) : Bool :=
        found (call.has 'F') (call.has 'i') (call.has 'x') pattern l != call.has 'v'
      let titled := 1 < operands.length && !(call.has 'h')
      let blocks := texts.map fun (path, text) =>
        let hits := (bareLines text).zipIdx.filter fun (hit : String × Nat) => isHit hit.1
        let title := if titled then path ++ ":" else ""
        let shown :=
          if call.has 'q' then []
          else if call.has 'l' then if hits.isEmpty then [] else [path]
          else if call.has 'c' then [title ++ hits.length.repr]
          else hits.map fun ((l, i) : String × Nat) =>
            title ++ (if call.has 'n' then (i + 1).repr ++ ":" else "") ++ l
        ((joinLines shown, !hits.isEmpty) : String × Bool)
      let any := blocks.any (·.2)
      done (s.write (String.join (blocks.map (·.1))))
        (if any && (ok || call.has 'q') then 0 else if ok then 1 else 2)

end ScriptBatch.Shell.Programs
