import ScriptBatch.Shell.Lexer

/-!
# Reading scripts

Reads the commands of a script from its text. Commands can stand inside of words and words inside of
commands, so words and commands are read by functions that call each other. A command is read when
its first token is known, and leaves the first token behind it.
-/

namespace ScriptBatch.Shell.Parser

/-- A token and the position behind it. -/
structure Position where
  token : Token
  src : Source

/-- What reading gives, or the line and the fault at which it ends. -/
abbrev Reading (α : Type) := Except (Nat × SyntaxFault) α

def refuse {α : Type} (p : Position) (expected : Option String) : Reading α :=
  .error (p.src.line, .unexpected p.token.describe expected)

def marked (text : String) : String := "\"" ++ text ++ "\""

/-- Where the text of a word stands. -/
inductive Context where
  | plain
  /-- Between double quotes. -/
  | doubled
  /-- Between braces, which themselves can stand between double quotes. -/
  | braced (doubled : Bool)
  /-- In input that stands in the script. -/
  | document
  /-- In an expression, between this many parentheses of its own. -/
  | arithmetic (depth : Nat)
  deriving Repr, DecidableEq

namespace Context

def isQuoted : Context → Bool
  | plain | braced false => false
  | _ => true

def takesQuotes : Context → Bool
  | plain | braced _ => true
  | _ => false

def endsBefore (ctx : Context) (c : Char) (rest : List Char) : Bool :=
  match ctx with
  | plain => Lexer.isSeparator c
  | doubled => c == '"'
  | braced _ => c == '\x7d'
  | document => false
  | arithmetic depth => depth == 0 && c == ')' && rest.head? == some ')'

def fault? : Context → Option SyntaxFault
  | plain | document => none
  | doubled | braced true => some .openQuotation
  | braced false => some .openBrace
  | arithmetic _ => some .openExpression

def canEscape (ctx : Context) (c : Char) : Bool :=
  match ctx with
  | plain | braced false => true
  | document => "$\x60\\".toList.contains c
  | braced true => "$\x60\"\\\x7d".toList.contains c
  | _ => "$\x60\"\\".toList.contains c

def after (ctx : Context) (c : Char) : Context :=
  match ctx, c with
  | arithmetic depth, '(' => .arithmetic (depth + 1)
  | arithmetic depth, ')' => .arithmetic (depth - 1)
  | ctx, _ => ctx

end Context

def home : Part := .param "HOME" true (.default false) [.literal ['~'] true]

def startsHome : List Char → Bool
  | '~' :: rest => rest.head?.all fun c => c == '/' || Lexer.isSeparator c
  | _ => false

def assignment? : Word → Option (String × Word)
  | .literal text false :: rest =>
    let name := text.takeWhile Lexer.isNameChar
    match text.dropWhile Lexer.isNameChar with
    | '=' :: value =>
      if !(Lexer.isName name) then none
      else
        let word :=
          if startsHome value then home :: .literal value.tail false :: rest
          else if value.isEmpty then rest
          else .literal value false :: rest
        some (String.ofList name, word)
    | _ => none
  | _ => none

/-- The text of the literal parts of a word, and whether some of it is quoted. -/
def delimiter (word : Word) : List Char × Bool :=
  word.foldl
    (fun (text, quoted) part =>
      match part with
      | .literal t q => (text ++ t, quoted || q)
      | _ => (text, quoted))
    ([], false)

/-- Commands of the shell that no function can replace. -/
def specialCommands : List String :=
  [".", ":", "break", "continue", "eval", "exec", "exit", "export", "local", "readonly", "return",
   "set", "shift", "times", "trap", "unset"]

def endsList (t : Token) : Bool :=
  match t with
  | .eof => true
  | .operator text => text == ")" || text == ";;"
  | _ =>
    t.keyword?.any
      ["do", "done", "elif", "else", "esac", "fi", "then", "\x7d"].contains

/-- Quoted text that is nothing if the script has no parameters. -/
def isAllParams (word : Word) : Bool :=
  !word.isEmpty && word.all fun part =>
    match part with
    | .param "@" _ .plain _ => true
    | _ => false

def isOperator (p : Position) (text : String) : Bool :=
  match p.token with
  | .operator t => t == text
  | _ => false

def isKeyword (p : Position) (text : String) : Bool := p.token.keyword? == some text

def withRedirects (line : Nat) (c : Cmd) (rs : List Redirect) : Cmd :=
  if rs.isEmpty then c else .redirected line c rs

/-- What a line leaves behind when reading runs out of steps, which it does not. -/
def exhausted {α : Type} (src : Source) : Reading α :=
  .error (src.line, .unexpected Token.eof.describe none)

mutual

def parts (ctx : Context) : Nat → Source → Reading (Word × Source)
  | 0, src => exhausted src
  | n + 1, src =>
    match src.rest with
    | [] =>
      match ctx.fault? with
      | some fault => .error (src.line, fault)
      | none => .ok ([], src)
    | c :: rest =>
      if ctx.endsBefore c rest then .ok ([], src)
      else
        let next := Lexer.advance src 1
        match c, rest with
        | '\\', '\n' :: _ => parts ctx n (Lexer.advance src 2)
        | '\\', e :: _ =>
          if ctx.canEscape e then do
            let (word, last) ← parts ctx n (Lexer.advance src 2)
            .ok (Lexer.addLiteral e true word, last)
          else do
            let (word, last) ← parts ctx n next
            .ok (Lexer.addLiteral '\\' true word, last)
        | '$', _ => do
          let (part, next) ← dollar ctx n next
          let (word, last) ← parts ctx n next
          .ok (part :: word, last)
        | '\x60', rest =>
          match Lexer.untilBackquote ctx.isQuoted rest with
          | none => .error (src.line + rest.count '\n', .openBackquote)
          | some (text, size) => do
            let (commands, p) ← list n true (← token n { rest := text, line := src.line })
            match p.token with
            | .eof =>
              let (word, last) ← parts ctx n (Lexer.advance src (size + 1))
              .ok (.output commands ctx.isQuoted :: word, last)
            | _ => refuse p none
        | '"', _ =>
          if ctx.takesQuotes then do
            let (inner, next) ← parts .doubled n next
            let (word, last) ← parts ctx n (Lexer.advance next 1)
            let marked := if isAllParams inner then inner else .literal [] true :: inner
            .ok (marked ++ word, last)
          else do
            let (word, last) ← parts ctx n next
            .ok (if ctx == .document then Lexer.addLiteral c true word else word, last)
        | '\'', rest =>
          if ctx.isQuoted then do
            let (word, last) ← parts ctx n next
            .ok (Lexer.addLiteral c true word, last)
          else
            let text := rest.takeWhile (· != '\'')
            if text.length == rest.length then
              .error (src.line + rest.count '\n', .openQuotation)
            else do
              let (word, last) ← parts ctx n (Lexer.advance src (text.length + 2))
              .ok (.literal text true :: word, last)
        | c, _ => do
          let (word, last) ← parts (ctx.after c) n next
          .ok (Lexer.addLiteral c ctx.isQuoted word, last)
termination_by structural n => n

def dollar (ctx : Context) : Nat → Source → Reading (Part × Source)
  | 0, src => exhausted src
  | n + 1, src =>
    let quoted := ctx.isQuoted
    match src.rest with
    | '(' :: '(' :: _ => do
      let (word, next) ← parts (.arithmetic 0) n (Lexer.advance src 2)
      .ok (.arithmetic word quoted, Lexer.advance next 2)
    | '(' :: _ => do
      let (commands, p) ← list n true (← token n (Lexer.advance src 1))
      if isOperator p ")" then .ok (.output commands quoted, p.src)
      else refuse p (some (marked ")"))
    | '\x7b' :: rest =>
      match Lexer.braced? rest with
      | some (name, use, after) => do
        let isPattern := match use with
          | .dropEnd _ | .dropStart _ => true
          | _ => false
        let (word, next) ← parts (.braced (quoted && !isPattern)) n
          (Lexer.advance src (src.rest.length - after.length))
        .ok (.param (String.ofList name) quoted use word, Lexer.advance next 1)
      | none => do
        let (_, next) ← parts (.braced quoted) n (Lexer.advance src 1)
        .ok (.malformed, Lexer.advance next 1)
    | c :: rest =>
      if Lexer.isSpecial c then .ok (.param c.toString quoted .plain [], { src with rest })
      else if Lexer.isNameStart c then
        let name := src.rest.takeWhile Lexer.isNameChar
        .ok (.param (String.ofList name) quoted .plain [], Lexer.advance src name.length)
      else .ok (.literal ['$'] quoted, src)
    | [] => .ok (.literal ['$'] quoted, src)
termination_by structural n => n

def token : Nat → Source → Reading Position
  | 0, src => exhausted src
  | n + 1, src =>
    let src := Lexer.skipBlanks (src.rest.length + 1) src
    match src.rest with
    | [] => .ok ⟨.eof, src⟩
    | '\n' :: rest => .ok ⟨.newline, { rest, line := src.line + 1 + src.skipped }⟩
    | cs =>
      match Lexer.operator? cs with
      | some text => .ok ⟨.operator text, Lexer.advance src text.length⟩
      | none =>
        match Lexer.redirect? cs with
        | some (fd, direction, size) => .ok ⟨.redirect fd direction, Lexer.advance src size⟩
        | none =>
          if startsHome cs then do
            let (word, next) ← parts .plain n (Lexer.advance src 1)
            .ok ⟨.word (home :: word), next⟩
          else do
            let (word, next) ← parts .plain n src
            .ok ⟨.word word, next⟩
termination_by structural n => n

def skipNewlines : Nat → Position → Reading Position
  | 0, p => exhausted p.src
  | n + 1, p =>
    match p.token with
    | .newline => do skipNewlines n (← token n p.src)
    | _ => .ok p
termination_by structural n => n

/-- Commands up to a token that ends them. At least one has to be there, unless `allowEmpty`. -/
def list : Nat → Bool → Position → Reading (List Cmd × Position)
  | 0, _, p => exhausted p.src
  | n + 1, allowEmpty, p => do
    let p ← skipNewlines n p
    match p.token with
    | .eof => .ok ([], p)
    | t =>
      if allowEmpty && endsList t then .ok ([], p)
      else
        let (c, p) ← andOr n p
        match p.token with
        | .operator "&" =>
          let (rest, p) ← list n true (← token n p.src)
          .ok (.background c :: rest, p)
        | .operator ";" | .newline =>
          let (rest, p) ← list n true (← token n p.src)
          .ok (c :: rest, p)
        | _ => .ok ([c], p)
termination_by structural n => n

def andOr : Nat → Position → Reading (Cmd × Position)
  | 0, p => exhausted p.src
  | n + 1, p => do
    let (first, p) ← pipeline n p
    andOrRest n first p
termination_by structural n => n

def andOrRest : Nat → Cmd → Position → Reading (Cmd × Position)
  | 0, _, p => exhausted p.src
  | n + 1, first, p =>
    if isOperator p "&&" then do
      let (second, p) ← pipeline n (← skipNewlines n (← token n p.src))
      andOrRest n (.both first second) p
    else if isOperator p "||" then do
      let (second, p) ← pipeline n (← skipNewlines n (← token n p.src))
      andOrRest n (.either first second) p
    else .ok (first, p)
termination_by structural n => n

def pipeline : Nat → Position → Reading (Cmd × Position)
  | 0, p => exhausted p.src
  | n + 1, p => do
    let negated := isKeyword p "!"
    let p ← if negated then token n p.src else .ok p
    let (first, p) ← command n p
    let (rest, p) ← pipelineRest n p
    let c := if rest.isEmpty then first else .pipeline (first :: rest)
    .ok (if negated then .negation c else c, p)
termination_by structural n => n

def pipelineRest : Nat → Position → Reading (List Cmd × Position)
  | 0, p => exhausted p.src
  | n + 1, p =>
    if isOperator p "|" then do
      let (c, p) ← command n (← skipNewlines n (← token n p.src))
      let (rest, p) ← pipelineRest n p
      .ok (c :: rest, p)
    else .ok ([], p)
termination_by structural n => n

def keyword : Nat → String → Position → Reading Position
  | 0, _, p => exhausted p.src
  | n + 1, text, p => if isKeyword p text then token n p.src else refuse p (some (marked text))
termination_by structural n => n

def redirect : Nat → Nat → Direction → Position → Reading (Redirect × Position)
  | 0, _, _, p => exhausted p.src
  | n + 1, fd, direction, p =>
    let indented := direction == .here && p.src.rest.head? == some '-'
    let start := if indented then Lexer.advance p.src 1 else p.src
    do
      let p ← token n start
      match p.token with
      | .word target =>
        match direction with
        | .here =>
          let (mark, quoted) := delimiter target
          let (text, src) := Lexer.Here.take ⟨mark, indented, quoted⟩ p.src
          let word ← if quoted then .ok [.literal text true]
            else (parts .document n { rest := text, line := src.line + 1 }).map (·.1)
          .ok (.mk fd .here word, ← token n src)
        | _ => .ok (.mk fd direction target, ← token n p.src)
      | _ => refuse p none
termination_by structural n => n

def redirects : Nat → Position → Reading (List Redirect × Position)
  | 0, p => exhausted p.src
  | n + 1, p =>
    match p.token with
    | .redirect fd direction => do
      let (r, p) ← redirect n fd direction p
      let (rs, p) ← redirects n p
      .ok (r :: rs, p)
    | _ => .ok ([], p)
termination_by structural n => n

def branches : Nat → Position → Reading (Cmd × Position)
  | 0, p => exhausted p.src
  | n + 1, p => do
    let (test, p) ← list n false p
    let (yes, p) ← list n false (← keyword n "then" p)
    if isKeyword p "elif" then
      let (no, p) ← branches n (← token n p.src)
      .ok (.conditional test yes [no], p)
    else if isKeyword p "else" then
      let (no, p) ← list n false (← token n p.src)
      .ok (.conditional test yes no, ← keyword n "fi" p)
    else .ok (.conditional test yes [], ← keyword n "fi" p)
termination_by structural n => n

def body : Nat → Position → Reading (List Cmd × Position)
  | 0, p => exhausted p.src
  | n + 1, p => do
    let (cs, p) ← list n false (← keyword n "do" p)
    .ok (cs, ← keyword n "done" p)
termination_by structural n => n

def words : Nat → Position → Reading (List Word × Position)
  | 0, p => exhausted p.src
  | n + 1, p =>
    match p.token with
    | .word w => do
      let (ws, p) ← words n (← token n p.src)
      .ok (w :: ws, p)
    | _ => .ok ([], p)
termination_by structural n => n

def eachLoop : Nat → Nat → Position → Reading (Cmd × Position)
  | 0, _, p => exhausted p.src
  | n + 1, line, p =>
    match p.token.bare?.filter fun name => Lexer.isName name.toList with
    | none => .error (p.src.line, .loopName)
    | some name => do
      let p ← skipNewlines n (← token n p.src)
      if isKeyword p "in" then
        let (ws, p) ← words n (← token n p.src)
        match p.token with
        | .newline | .operator ";" =>
          let (cs, p) ← body n (← skipNewlines n (← token n p.src))
          .ok (.each line name (some ws) cs, p)
        | _ => refuse p none
      else
        let p ← if isOperator p ";" then token n p.src else .ok p
        let (cs, p) ← body n (← skipNewlines n p)
        .ok (.each line name none cs, p)
termination_by structural n => n

def patterns : Nat → Position → Reading (List Word × Position)
  | 0, p => exhausted p.src
  | n + 1, p =>
    match p.token with
    | .word w => do
      let p ← token n p.src
      if isOperator p "|" then
        let (ws, p) ← patterns n (← token n p.src)
        .ok (w :: ws, p)
      else if isOperator p ")" then .ok ([w], ← token n p.src)
      else refuse p (some (marked ")"))
    | _ => refuse p (some (marked ")"))
termination_by structural n => n

def clauses : Nat → Position → Reading (List (List Word × List Cmd) × Position)
  | 0, p => exhausted p.src
  | n + 1, p => do
    let p ← skipNewlines n p
    if isKeyword p "esac" then .ok ([], ← token n p.src)
    else
      let p ← if isOperator p "(" then token n p.src else .ok p
      let (ps, p) ← patterns n p
      let (cs, p) ← list n true p
      if isOperator p ";;" then
        let (rest, p) ← clauses n (← token n p.src)
        .ok ((ps, cs) :: rest, p)
      else if isKeyword p "esac" then .ok ([(ps, cs)], ← token n p.src)
      else refuse p (some (marked ";;"))
termination_by structural n => n

def choice : Nat → Nat → Position → Reading (Cmd × Position)
  | 0, _, p => exhausted p.src
  | n + 1, line, p =>
    match p.token with
    | .word subject => do
      let p ← skipNewlines n (← token n p.src)
      let (cs, p) ← clauses n (← keyword n "in" p)
      .ok (.choice line subject cs, p)
    | _ => refuse p (some "word")
termination_by structural n => n

/-- The rest of a simple command. Assignments come before words, and parentheses behind a single
word make it the name of a function. -/
def simple : Nat → Nat → List (String × Word) → List Word → List Redirect → Position →
    Reading (Cmd × Position)
  | 0, _, _, _, _, p => exhausted p.src
  | n + 1, line, as, ws, rs, p =>
    match p.token with
    | .word w => do
      let q ← token n p.src
      match ws, assignment? w with
      | [], some a => simple n line (as ++ [a]) [] rs q
      | ws, _ => simple n line as (ws ++ [w]) rs q
    | .redirect fd direction => do
      let (r, q) ← redirect n fd direction p
      simple n line as ws (rs ++ [r]) q
    | .operator "(" =>
      match as, ws, rs with
      | [], [w], [] => do
        let q ← token n p.src
        if !(isOperator q ")") then
          -- Keywords have no meaning here.
          let found := if q.token.keyword?.isSome then "word" else q.token.describe
          .error (q.src.line, .unexpected found (some (marked ")")))
        else
          match ((Token.word w).bare?).filter fun name =>
              Lexer.isName name.toList && !(specialCommands.contains name) with
          | none => .error (q.src.line, .functionName)
          | some name =>
            let (c, q) ← command n (← skipNewlines n (← token n q.src))
            .ok (.define name c, q)
      | _, _, _ => .ok (.simple line as ws rs, p)
    | _ => .ok (.simple line as ws rs, p)
termination_by structural n => n

def command : Nat → Position → Reading (Cmd × Position)
  | 0, p => exhausted p.src
  | n + 1, p =>
    let line := p.src.line
    let finish (c : Cmd) (p : Position) : Reading (Cmd × Position) := do
      let (rs, p) ← redirects n p
      .ok (withRedirects line c rs, p)
    match p.token with
    | .redirect .. => simple n line [] [] [] p
    | .word _ =>
      match p.token.keyword? with
      | none => simple n line [] [] [] p
      | some "if" => do
        let (c, p) ← branches n (← token n p.src)
        finish c p
      | some "while" => do
        let (test, p) ← list n false (← token n p.src)
        let (cs, p) ← body n p
        finish (.loop false test cs) p
      | some "until" => do
        let (test, p) ← list n false (← token n p.src)
        let (cs, p) ← body n p
        finish (.loop true test cs) p
      | some "for" => do
        let (c, p) ← eachLoop n line (← token n p.src)
        finish c p
      | some "case" => do
        let (c, p) ← choice n line (← token n p.src)
        finish c p
      | some "\x7b" => do
        let (cs, p) ← list n false (← token n p.src)
        finish (.group cs) (← keyword n "\x7d" p)
      | some _ => refuse p none
    | .operator "(" => do
      let (cs, p) ← list n false (← token n p.src)
      if isOperator p ")" then finish (.subshell cs) (← token n p.src)
      else refuse p (some (marked ")"))
    | _ => refuse p none
termination_by structural n => n

end

def line : Nat → Position → Reading (List Cmd × Position)
  | 0, p => exhausted p.src
  | n + 1, p =>
    match p.token with
    | .newline | .eof => .ok ([], p)
    | _ => do
      let (c, p) ← andOr n p
      match p.token with
      | .operator "&" =>
        let (rest, p) ← line n (← token n p.src)
        .ok (.background c :: rest, p)
      | .operator ";" =>
        let (rest, p) ← line n (← token n p.src)
        .ok (c :: rest, p)
      | .newline | .eof => .ok ([c], p)
      | _ => refuse p none

/-- The lines of a script from a position. Each round takes at least one character. -/
def lines : Nat → Source → Script
  | 0, _ => ⟨[], none⟩
  | n + 1, src =>
    let first : Reading (List Cmd × Position) := do line n (← token n src)
    match first with
    | .error fault => ⟨[], some fault⟩
    | .ok (cs, p) =>
      match p.token with
      | .eof => ⟨[cs], none⟩
      | _ =>
        let script := lines n p.src
        { script with lines := cs :: script.lines }

def script (source : List Char) : Script := lines (16 * (source.length + 4)) { rest := source }

end ScriptBatch.Shell.Parser
