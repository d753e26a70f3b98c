import SqlBuilder.Text.CaseTable

/-!
Text in upper and in lower case, by the full case mappings of Unicode. They are the same in every
language, and a character may become several. The one rule that looks at the surroundings is that
of the Greek capital sigma, which has a form of its own at the end of a word.
-/

namespace SqlBuilder.Text

/-- The image under the first run that covers the code point, and the character itself if none does. -/
def shiftCase (runs : List CaseRun) (c : Char) : Char :=
  match runs.findSome? fun run => run.image? c.toNat with
  | some code => Char.ofNat code
  | none => c

def upperChar (c : Char) : List Char :=
  if c.toNat < 0x80 then [c.toUpper]
  else match upperSequences.find? fun entry => entry.1 == c.toNat with
    | some entry => entry.2.map Char.ofNat
    | none => [shiftCase upperRuns c]

/-- The text in upper case. -/
def upper (s : String) : String := String.ofList (s.toList.flatMap upperChar)

/-- The first character that takes part in the search for the letters of a word is a cased one. -/
def metCased (cs : List Char) : Bool :=
  match cs.dropWhile caseIgnorable.has with
  | [] => false
  | c :: _ => casedChars.has c

/-- One character in lower case between the characters in front of it, last one first, and those
behind it. -/
def lowerChar (before : List Char) (c : Char) (after : List Char) : List Char :=
  if c.toNat < 0x80 then [c.toLower]
  else if c = 'Σ' then [if metCased before && !metCased after then 'ς' else 'σ']
  else if c = 'İ' then ['i', '\u0307']
  else [shiftCase lowerRuns c]

def lowerChars (before : List Char) : List Char → List Char
  | [] => []
  | c :: after => lowerChar before c after ++ lowerChars (c :: before) after

/-- The text in lower case. -/
def lower (s : String) : String := String.ofList (lowerChars [] s.toList)

end SqlBuilder.Text
