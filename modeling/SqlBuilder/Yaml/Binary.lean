/-!
Bytes that are written with sixty-four characters. Each character stands for six bits, so four of them make up
three bytes. Other characters are passed over. Equals signs fill up the last four characters, and end the
bytes when they do.
-/

namespace SqlBuilder.Yaml.Binary

/-- The six bits that a character stands for. -/
def sextet? (c : Char) : Option Nat :=
  if 'A' ≤ c && c ≤ 'Z' then some (c.toNat - 'A'.toNat)
  else if 'a' ≤ c && c ≤ 'z' then some (c.toNat - 'a'.toNat + 26)
  else if c.isDigit then some (c.toNat - '0'.toNat + 52)
  else if c = '+' then some 62
  else if c = '/' then some 63
  else none

/-- What of four characters has been read. -/
structure Group where
  /-- How many of the four characters have been read. -/
  count : Nat
  /-- The bits that are not part of a byte yet. -/
  bits : Nat
  /-- How many equals signs stand behind them. -/
  fillers : Nat

def Group.start : Group := ⟨0, 0, 0⟩

/-- The byte that six more bits complete, and what is left of them. -/
def Group.add (g : Group) (bits : Nat) : List UInt8 × Group :=
  match g.count with
  | 0 => ([], ⟨1, bits, 0⟩)
  | 1 => ([(4 * g.bits + bits / 16).toUInt8], ⟨2, bits % 16, 0⟩)
  | 2 => ([(16 * g.bits + bits / 4).toUInt8], ⟨3, bits % 4, 0⟩)
  | _ => ([(64 * g.bits + bits).toUInt8], .start)

/-- The bytes that the characters stand for behind a group that has been begun. It must not be left open. -/
def bytesFrom? : Group → List Char → Option (List UInt8)
  | g, [] => if g.count = 0 then some [] else none
  | g, c :: rest =>
    if c = '=' then
      if g.count < 2 then bytesFrom? g rest
      else if 4 ≤ g.count + g.fillers + 1 then some []
      else bytesFrom? { g with fillers := g.fillers + 1 } rest
    else match sextet? c with
      | none => bytesFrom? g rest
      | some bits =>
        let (front, g) := g.add bits
        (bytesFrom? g rest).map (front ++ ·)

def bytes? (cs : List Char) : Option (List UInt8) := bytesFrom? .start cs

end SqlBuilder.Yaml.Binary
