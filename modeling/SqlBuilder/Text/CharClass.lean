/-!
A class of characters as closed ranges of code points, the class of white space, and the class of blanks. A
blank is what surrounds a clause without being part of it: the Unicode white space together with the
four separators U+001C to U+001F.
-/

namespace SqlBuilder.Text

/-- Closed ranges of code points, in rising order. -/
abbrev CharClass := List (Nat × Nat)

namespace CharClass

/-- Some range of the class holds the character. -/
def has (ranges : CharClass) (c : Char) : Bool :=
  ranges.any fun range => range.1 ≤ c.toNat && c.toNat ≤ range.2

end CharClass

/-- The Unicode white space and the separators U+001C to U+001F. -/
def blanks : CharClass := [
  (0x9, 0xD), (0x1C, 0x20), (0x85, 0x85), (0xA0, 0xA0), (0x1680, 0x1680), (0x2000, 0x200A),
  (0x2028, 0x2029), (0x202F, 0x202F), (0x205F, 0x205F), (0x3000, 0x3000)]

def isBlank (c : Char) : Bool := blanks.has c

/-- The Unicode white space. -/
def spaces : CharClass := [
  (0x9, 0xD), (0x20, 0x20), (0x85, 0x85), (0xA0, 0xA0), (0x1680, 0x1680), (0x2000, 0x200A),
  (0x2028, 0x2029), (0x202F, 0x202F), (0x205F, 0x205F), (0x3000, 0x3000)]

def isSpace (c : Char) : Bool := spaces.has c

end SqlBuilder.Text
