/-
This file sorts characters into the classes that names, numbers and blanks are made of.
Characters below 128 are decided by comparison, all others by their range tables.
-/

import TableStore.Text.Alphabetic
import TableStore.Text.Numeric
import TableStore.Text.Unprintable

namespace TableStore.Text

/-- A range is given by its first and its last code point. -/
def inRanges (ranges : List (Nat × Nat)) (c : Char) : Bool :=
  ranges.any fun range => range.1 ≤ c.toNat && c.toNat ≤ range.2

/-- Each range holds characters with the Unicode property White_Space. -/
def blankRanges : List (Nat × Nat) :=
  [(0x9, 0xD), (0x20, 0x20), (0x85, 0x85), (0xA0, 0xA0), (0x1680, 0x1680), (0x2000, 0x200A),
   (0x2028, 0x2029), (0x202F, 0x202F), (0x205F, 0x205F), (0x3000, 0x3000)]

/-- Blanks separate words and are dropped at the ends of lines. -/
def isBlank (c : Char) : Bool := inRanges blankRanges c

/-- Letters begin names. -/
def isAlphabetic (c : Char) : Bool :=
  if c.toNat < 128 then c.isAlpha else inRanges alphabeticRanges c

/-- Number characters of every script continue names. -/
def isNumeric (c : Char) : Bool :=
  if c.toNat < 128 then c.isDigit else inRanges numericRanges c

/-- A name goes on with letters, number characters and underscores. -/
def isNamePart (c : Char) : Bool := isAlphabetic c || isNumeric c || c == '_'

/-- A name starts with a letter or an underscore. -/
def isNameStart (c : Char) : Bool := isAlphabetic c || c == '_'

/-- Invisible characters cannot be told apart on a page. -/
def isInvisible (c : Char) : Bool :=
  if c.toNat < 128 then c.toNat < 32 || c.toNat == 127
  else inRanges combiningRanges c || inRanges unprintableRanges c

theorem isAlphabetic_ascii {c : Char} (ascii : c.toNat < 128) : isAlphabetic c = c.isAlpha := by
  simp [isAlphabetic, ascii]

theorem isNumeric_ascii {c : Char} (ascii : c.toNat < 128) : isNumeric c = c.isDigit := by
  simp [isNumeric, ascii]

/-- A name may go on with whatever may start it. -/
theorem isNamePart_of_isNameStart {c : Char} (start : isNameStart c = true) :
    isNamePart c = true := by
  simp only [isNameStart, Bool.or_eq_true] at start
  rcases start with letter | line
  · simp [isNamePart, letter]
  · simp [isNamePart, line]

end TableStore.Text
