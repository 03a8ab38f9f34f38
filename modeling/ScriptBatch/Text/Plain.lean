/-!
# Text for people

A message that repeats what somebody has typed may contain characters that control a terminal. Plain
text has none: control sequences are left out, and so are control characters other than blanks and
line ends.
-/

namespace ScriptBatch.Text

/-- What the characters that come next belong to. -/
inductive TerminalMode where
  | text
  /-- A sequence that has just started. -/
  | escape
  /-- A sequence that a character of its own range ends. -/
  | intermediate
  /-- A sequence with parameters, which a letter ends. -/
  | control
  /-- A command with text in it, which a bell ends. -/
  | command
  /-- The start of a sequence for a device. -/
  | deviceStart
  /-- The parameters of a sequence for a device. -/
  | deviceParameters
  /-- The characters between the parameters and the text of a sequence for a device. -/
  | deviceIntermediate
  /-- Text for a device, which a string terminator ends. -/
  | device
  deriving Repr, DecidableEq

def isLayout (c : Char) : Bool := c == '\t' || c == '\n' || c == '\x0c' || c == '\r'

def isControlChar (c : Char) : Bool := c.toNat < 0x20 || c.toNat == 0x7F

/-- The byte `0x9C`, which terminates text for a device, is part of the character's encoding. It
cannot be the first byte, and the others carry six bits each. -/
def hasTerminator (c : Char) : Bool :=
  let n := c.toNat
  let carries (bits : Nat) : Bool := bits % 64 == 0x1C
  (0x80 ≤ n && carries n) || (0x800 ≤ n && carries (n / 64)) || (0x10000 ≤ n && carries (n / 4096))

namespace TerminalMode

/-- Blanks and line ends belong to the text even inside of a sequence, unless that has text of its
own. -/
def hidesLayout : TerminalMode → Bool
  | command | deviceStart | deviceParameters | deviceIntermediate | device => true
  | _ => false

/-- The mode behind a character at the start of a sequence for a device: parameters, which have a
mark of their own only at the start, then intermediate characters, then the text. What does not fit
is text too. -/
def deviceStep (m : TerminalMode) (c : Char) : TerminalMode :=
  if ' ' ≤ c && c ≤ '/' then .deviceIntermediate
  else if '0' ≤ c && c ≤ ';' then if m == .deviceIntermediate then .device else .deviceParameters
  else if '<' ≤ c && c ≤ '?' then if m == .deviceStart then .deviceParameters else .device
  else if '@' ≤ c && c ≤ '~' then .device
  else m

/-- The mode behind a character, and whether the character is part of the text. -/
def step (m : TerminalMode) (c : Char) : TerminalMode × Bool :=
  if c == '\x1b' then (.escape, false)
  else if c == '\x18' || c == '\x1a' then (.text, false)
  else if isLayout c && !m.hidesLayout then (.text, true)
  else
    match m with
    | text => (.text, !isControlChar c)
    | escape =>
      if c == '[' then (.control, false)
      else if c == ']' then (.command, false)
      else if c == 'P' then (.deviceStart, false)
      else if c == 'X' || c == '^' || c == '_' then (.device, false)
      else if ' ' ≤ c && c ≤ '/' then (.intermediate, false)
      else if '0' ≤ c && c ≤ '~' then (.text, false)
      else (.escape, false)
    | intermediate => if '0' ≤ c && c ≤ '~' then (.text, false) else (.intermediate, false)
    | control => if '@' ≤ c && c ≤ '~' then (.text, false) else (.control, false)
    | command => if c == '\x07' then (.text, false) else (.command, false)
    | deviceStart | deviceParameters | deviceIntermediate => (m.deviceStep c, false)
    | device => if hasTerminator c then (.text, false) else (.device, false)

/-- A control character that is part of the text is there for the layout. -/
theorem isLayout_of_step {m next : TerminalMode} {c : Char} (h : m.step c = (next, true)) :
    isLayout c = true ∨ isControlChar c = false := by
  unfold step at h
  by_cases hl : isLayout c = true
  · exact Or.inl hl
  · right
    cases m <;> grind

end TerminalMode

def plainFrom (m : TerminalMode) : List Char → List Char
  | [] => []
  | c :: rest =>
    match m.step c with
    | (next, true) => c :: plainFrom next rest
    | (next, false) => plainFrom next rest

theorem isLayout_of_mem_plainFrom {m : TerminalMode} {cs : List Char} {c : Char}
    (h : c ∈ plainFrom m cs) : isLayout c = true ∨ isControlChar c = false := by
  induction cs generalizing m with
  | nil => simp [plainFrom] at h
  | cons d rest ih =>
    rw [plainFrom] at h
    split at h
    next next hstep =>
      obtain rfl | h := List.mem_cons.mp h
      · exact TerminalMode.isLayout_of_step hstep
      · exact ih h
    next => exact ih h

/-- Leaves out what controls a terminal. -/
def plain (s : String) : String := String.ofList (plainFrom .text s.toList)

/-- Plain text has no control characters but those for the layout, whatever the text was. -/
theorem isLayout_of_mem_plain {s : String} {c : Char} (h : c ∈ (plain s).toList) :
    isLayout c = true ∨ isControlChar c = false := by
  rw [plain, String.toList_ofList] at h
  exact isLayout_of_mem_plainFrom h

end ScriptBatch.Text
