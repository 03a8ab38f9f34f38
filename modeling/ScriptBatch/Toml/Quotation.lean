import ScriptBatch.Toml.Cursor

/-!
# Strings

There are four ways to write a string: between double quotes with escapes, between single quotes as
it is, and each of the two over several lines between triple quotes. The functions start behind the
opening quotes and return the text and the position behind the closing ones.
-/

namespace ScriptBatch.Toml

def hexDigit? (c : Char) : Option Nat :=
  if '0' ≤ c && c ≤ '9' then some (c.toNat - '0'.toNat)
  else if 'a' ≤ c && c ≤ 'f' then some (c.toNat - 'a'.toNat + 10)
  else if 'A' ≤ c && c ≤ 'F' then some (c.toNat - 'A'.toNat + 10)
  else none

/-- The character with the hexadecimal code point `cs`, unless there is none. -/
def charOfHex? (cs : List Char) : Option Char := do
  let n ← cs.foldlM (fun n c => (hexDigit? c).map (16 * n + ·)) 0
  if n < 0xD800 || (0xDFFF < n && n < 0x110000) then some (Char.ofNat n) else none

def shortEscape? : Char → Option Char
  | 'b' => some '\x08'
  | 't' => some '\t'
  | 'n' => some '\n'
  | 'f' => some '\x0c'
  | 'r' => some '\r'
  | 'e' => some '\x1b'
  | '"' => some '"'
  | '\\' => some '\\'
  | _ => none

/-- Only blanks stand before the next line end, and there is one. -/
def blankToLineEnd (cs : List Char) : Bool :=
  match cs.dropWhile (fun c => c == ' ' || c == '\t') with
  | '\n' :: _ => true
  | '\r' :: '\n' :: _ => true
  | _ => false

namespace Quotation

def push (c : Char) (r : Option (List Char × Cursor)) : Option (List Char × Cursor) :=
  r.map fun (text, next) => (c :: text, next)

def basic (offset : Nat) : List Char → Option (List Char × Cursor)
  | [] => none
  | '"' :: rest => some ([], ⟨offset + 1, rest⟩)
  | '\\' :: 'x' :: a :: b :: rest => do
    push (← charOfHex? [a, b]) (basic (offset + 4) rest)
  | '\\' :: 'u' :: a :: b :: c :: d :: rest => do
    push (← charOfHex? [a, b, c, d]) (basic (offset + 6) rest)
  | '\\' :: 'U' :: a :: b :: c :: d :: e :: f :: g :: h :: rest => do
    push (← charOfHex? [a, b, c, d, e, f, g, h]) (basic (offset + 10) rest)
  | '\\' :: c :: rest => do push (← shortEscape? c) (basic (offset + 2) rest)
  | c :: rest =>
    if Cursor.isControl c || c == '\\' then none else push c (basic (offset + c.utf8Size) rest)

def literal (offset : Nat) : List Char → Option (List Char × Cursor)
  | [] => none
  | '\'' :: rest => some ([], ⟨offset + 1, rest⟩)
  | c :: rest => if Cursor.isControl c then none else push c (literal (offset + c.utf8Size) rest)

/-- A string between triple double quotes. A backslash at the end of a line drops all blanks and
line ends up to the next visible character; `dropping` holds while that goes on. -/
def basicLines (offset : Nat) (dropping : Bool) : List Char → Option (List Char × Cursor)
  | [] => none
  | '"' :: '"' :: '"' :: '"' :: '"' :: rest => some (['"', '"'], ⟨offset + 5, rest⟩)
  | '"' :: '"' :: '"' :: '"' :: rest => some (['"'], ⟨offset + 4, rest⟩)
  | '"' :: '"' :: '"' :: rest => some ([], ⟨offset + 3, rest⟩)
  | '\\' :: 'x' :: a :: b :: rest => do
    push (← charOfHex? [a, b]) (basicLines (offset + 4) false rest)
  | '\\' :: 'u' :: a :: b :: c :: d :: rest => do
    push (← charOfHex? [a, b, c, d]) (basicLines (offset + 6) false rest)
  | '\\' :: 'U' :: a :: b :: c :: d :: e :: f :: g :: h :: rest => do
    push (← charOfHex? [a, b, c, d, e, f, g, h]) (basicLines (offset + 10) false rest)
  | '\\' :: c :: rest =>
    match shortEscape? c with
    | some escaped => push escaped (basicLines (offset + 2) false rest)
    | none =>
      if blankToLineEnd (c :: rest) then basicLines (offset + 1) true (c :: rest) else none
  | '\r' :: '\n' :: rest =>
    if dropping then basicLines (offset + 2) true rest
    else push '\r' (push '\n' (basicLines (offset + 2) false rest))
  | '\n' :: rest =>
    if dropping then basicLines (offset + 1) true rest
    else push '\n' (basicLines (offset + 1) false rest)
  | c :: rest =>
    if Cursor.isControl c || c == '\\' then none
    else if dropping && (c == ' ' || c == '\t') then basicLines (offset + 1) true rest
    else push c (basicLines (offset + c.utf8Size) false rest)

def literalLines (offset : Nat) : List Char → Option (List Char × Cursor)
  | [] => none
  | '\'' :: '\'' :: '\'' :: '\'' :: '\'' :: rest => some (['\'', '\''], ⟨offset + 5, rest⟩)
  | '\'' :: '\'' :: '\'' :: '\'' :: rest => some (['\''], ⟨offset + 4, rest⟩)
  | '\'' :: '\'' :: '\'' :: rest => some ([], ⟨offset + 3, rest⟩)
  | '\r' :: '\n' :: rest => push '\r' (push '\n' (literalLines (offset + 2) rest))
  | '\n' :: rest => push '\n' (literalLines (offset + 1) rest)
  | c :: rest =>
    if Cursor.isControl c then none else push c (literalLines (offset + c.utf8Size) rest)

/-- Skips the line end right behind opening triple quotes. -/
def afterOpening (c : Cursor) : Cursor := c.newline?.getD c

/-- A string of any kind; `none` if the cursor stands before no quote. -/
def any? (c : Cursor) : Option (String × Cursor) := do
  let (text, next) ←
    match c.rest with
    | '"' :: '"' :: '"' :: rest =>
      let c := afterOpening ⟨c.offset + 3, rest⟩
      basicLines c.offset false c.rest
    | '\'' :: '\'' :: '\'' :: rest =>
      let c := afterOpening ⟨c.offset + 3, rest⟩
      literalLines c.offset c.rest
    | '"' :: rest => basic (c.offset + 1) rest
    | '\'' :: rest => literal (c.offset + 1) rest
    | _ => none
  some (String.ofList text, next)

def oneLine? (c : Cursor) : Option (String × Cursor) := do
  let (text, next) ←
    match c.rest with
    | '"' :: rest => basic (c.offset + 1) rest
    | '\'' :: rest => literal (c.offset + 1) rest
    | _ => none
  some (String.ofList text, next)

end Quotation

end ScriptBatch.Toml
