/-!
# Shell scripts

The commands that a batch starts are shell scripts. This module holds the syntax of the part of the
POSIX shell language that is understood: simple commands with redirections, lists, pipelines,
background commands, conditionals, loops, case distinctions, groups and functions.
-/

namespace ScriptBatch.Shell

/-- How a parameter and the word behind its name are put together. With `orEmpty` an empty value
counts as missing. -/
inductive Substitution where
  | plain
  /-- The word, if there is no value. -/
  | default (orEmpty : Bool)
  /-- The word, if there is no value, which is then also assigned. -/
  | assign (orEmpty : Bool)
  /-- The value, which has to be there; the word is the complaint. -/
  | require (orEmpty : Bool)
  /-- The word, if there is a value. -/
  | alternative (orEmpty : Bool)
  /-- The number of characters. -/
  | length
  /-- The value without a part at its end that matches the word. -/
  | dropEnd (longest : Bool)
  /-- The value without a part at its start that matches the word. -/
  | dropStart (longest : Bool)
  deriving Repr, DecidableEq

/-- What is done with a file descriptor. -/
inductive Direction where
  | read
  | write
  /-- Writes even if the file exists and existing files are protected. -/
  | overwrite
  | append
  | readWrite
  | duplicate
  /-- Input that stands in the script itself. -/
  | here
  deriving Repr, DecidableEq

mutual

/-- A part of a word. Quoted parts are neither split into fields nor read as patterns. -/
inductive Part where
  | literal (text : List Char) (quoted : Bool)
  | param (name : String) (quoted : Bool) (use : Substitution) (word : List Part)
  /-- Braces behind a dollar sign that say nothing. -/
  | malformed
  /-- The output of commands. -/
  | output (commands : List Cmd) (quoted : Bool)
  /-- The value of an expression. -/
  | arithmetic (expression : List Part) (quoted : Bool)

/-- A descriptor, what is done with it, and the word that names the file. -/
inductive Redirect where
  | mk (descriptor : Nat) (direction : Direction) (target : List Part)

/-- A command. Commands that can complain by themselves remember the line on which they stand. -/
inductive Cmd where
  | simple (line : Nat) (assignments : List (String × List Part)) (words : List (List Part))
      (redirects : List Redirect)
  | pipeline (commands : List Cmd)
  | background (command : Cmd)
  | negation (command : Cmd)
  | both (first second : Cmd)
  | either (first second : Cmd)
  | conditional (test yes no : List Cmd)
  | loop (untilTrue : Bool) (test body : List Cmd)
  /-- Without words the loop goes over the parameters of the script. -/
  | each (line : Nat) (name : String) (words : Option (List (List Part))) (body : List Cmd)
  | choice (line : Nat) (subject : List Part) (clauses : List (List (List Part) × List Cmd))
  | group (body : List Cmd)
  | subshell (body : List Cmd)
  | redirected (line : Nat) (body : Cmd) (redirects : List Redirect)
  | define (name : String) (body : Cmd)

end

abbrev Word := List Part

/-- Why a script, or a part of it, cannot be read. -/
inductive SyntaxFault where
  /-- Something else was called for, possibly something in particular. -/
  | unexpected (found : String) (expected : Option String)
  | openQuotation
  | openBackquote
  | openBrace
  | openExpression
  | loopName
  | functionName
  | descriptor
  deriving Repr, DecidableEq

def SyntaxFault.message : SyntaxFault → String
  | unexpected found none => s!"Syntax error: {found} unexpected"
  | unexpected found (some expected) =>
    s!"Syntax error: {found} unexpected (expecting {expected})"
  | openQuotation => "Syntax error: Unterminated quoted string"
  | openBackquote => "Syntax error: EOF in backquote substitution"
  | openBrace => "Syntax error: Missing '\x7d'"
  | openExpression => "Syntax error: Missing '))'"
  | loopName => "Syntax error: Bad for loop variable"
  | functionName => "Syntax error: Bad function name"
  | descriptor => "Syntax error: Bad fd number"

/-- What can be read of a script: the commands of each line, and if something is wrong with it, the
line and the fault at which reading ends. -/
structure Script where
  lines : List (List Cmd)
  fault : Option (Nat × SyntaxFault)

end ScriptBatch.Shell
