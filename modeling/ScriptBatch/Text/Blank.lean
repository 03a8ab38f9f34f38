/-!
# Blank characters

A property of characters that comes from a table is kept as a list of closed ranges of code points.
One such property is `White_Space`, which makes a character blank. Trimming, the test for text that
says nothing, and the decision to put quotes around an argument all use this one class.
-/

namespace ScriptBatch.Text

abbrev Ranges := List (Nat × Nat)

/-- A character belongs to the set if one of the ranges covers its code point. -/
def Ranges.covers (rs : Ranges) (c : Char) : Bool :=
  rs.any fun r => r.1 ≤ c.toNat && c.toNat ≤ r.2

theorem Ranges.covers_iff {rs : Ranges} {c : Char} :
    rs.covers c = true ↔ ∃ r ∈ rs, r.1 ≤ c.toNat ∧ c.toNat ≤ r.2 := by
  simp [covers]

/-- The blank code points: the ASCII blanks, the next-line and no-break characters, and the spaces
and separators of the general punctuation and ideographic blocks. -/
def blankRanges : Ranges :=
  [(0x9, 0xD), (0x20, 0x20), (0x85, 0x85), (0xA0, 0xA0), (0x1680, 0x1680), (0x2000, 0x200A),
   (0x2028, 0x2029), (0x202F, 0x202F), (0x205F, 0x205F), (0x3000, 0x3000)]

def isBlank (c : Char) : Bool := blankRanges.covers c

/-- Text without a character that is not blank, the empty text included. -/
def isBlankText (s : String) : Bool := s.toList.all isBlank

def trimChars (cs : List Char) : List Char :=
  ((cs.dropWhile isBlank).reverse.dropWhile isBlank).reverse

def trim (s : String) : String := String.ofList (trimChars s.toList)

@[simp] theorem toList_trim (s : String) : (trim s).toList = trimChars s.toList := by
  simp [trim]

end ScriptBatch.Text
