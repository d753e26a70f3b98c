import SqlBuilder.Text.Strip
import SqlBuilder.Yaml.Fault

/-!
The tokens of a YAML document. Indentation becomes tokens for the start and the end of blocks. That a
scalar is a key is known only at the colon behind it, so the place where a key may have begun is kept in
mind, and the token for the key is put there later. A token is settled when no key can be put in front of it
any more; where a text is not well formed the settled tokens in front of the fault can still be read.
-/

namespace SqlBuilder.Yaml

/-- A declaration in front of a document. -/
inductive Directive where
  | version (major : Nat)
  /-- A handle for the tags that begin with a text. -/
  | tag (handle lead : String)
  | other
  deriving DecidableEq, Repr

inductive Token where
  | directive (d : Directive)
  | documentStart
  | documentEnd
  | blockSequenceStart
  | blockMappingStart
  | blockEnd
  | flowSequenceStart
  | flowSequenceEnd
  | flowMappingStart
  | flowMappingEnd
  | blockEntry
  | flowEntry
  | key
  | value
  | reference (name : String)
  | anchor (name : String)
  | tag (handle : Option String) (suffix : String)
  /-- A scalar, plain or in quotes or in a block, and whether code points of surrogates occur in it. -/
  | scalar (text : String) (isPlain hasSurrogates : Bool)
  deriving DecidableEq, Repr

/-- A place where a key may have begun. -/
structure KeyPlace where
  /-- The number of the token that would be the key. -/
  number : Nat
  /-- Nothing else than a key can stand there. -/
  isRequired : Bool
  index : Nat
  line : Nat
  column : Nat

structure Scanner where
  rest : List Char
  index : Nat := 0
  line : Nat := 0
  column : Nat := 0
  tokens : List Token := []
  flowLevel : Nat := 0
  indent : Int := -1
  /-- The indents around the present one, the nearest first. -/
  outer : List Int := []
  allowsKey : Bool := true
  /-- The places of keys, by flow level. -/
  keys : List (Nat × KeyPlace) := []

/-- A step of scanning, which fails where the text is not well formed. -/
abbrev Scan := StateT Scanner (Except LoadFault)

def isBreak (c : Char) : Bool := c = '\n' || c = '\x85' || c = '\u2028' || c = '\u2029'

/-- A line ends here, or the text. -/
def endsLine (c : Option Char) : Bool := c.all isBreak

/-- A word ends here. -/
def endsWord (c : Option Char) : Bool := c.all fun c => c = ' ' || c = '\t' || isBreak c

/-- A word ends here that is not followed by a tab. -/
def endsAtSpace (c : Option Char) : Bool := c.all fun c => c = ' ' || isBreak c

def isNameChar (c : Char) : Bool := c.isAlphanum || c = '-' || c = '_'

namespace Scanner

/-- The position behind the next character. -/
def advance (s : Scanner) : Scanner :=
  match s.rest with
  | [] => s
  | c :: rest =>
    if isBreak c then { s with rest, index := s.index + 1, line := s.line + 1, column := 0 }
    else { s with rest, index := s.index + 1, column := if c = '\uFEFF' then s.column else s.column + 1 }

/-- The place is too far away for a key that ends here. -/
def isStale (s : Scanner) (k : KeyPlace) : Bool := k.line ≠ s.line || k.index + 1024 < s.index

/-- The tokens in front of which no key can be put any more. -/
def settled (s : Scanner) : List Token :=
  let pending := (s.keys.filter fun entry => !s.isStale entry.2).map (·.2.number)
  s.tokens.take (pending.foldl min s.tokens.length)

/-- Three dashes or dots at the beginning of a line stand for themselves. -/
def isAtMarker (s : Scanner) : Bool :=
  s.column = 0 && (s.rest.take 3 = ['-', '-', '-'] || s.rest.take 3 = ['.', '.', '.']) && endsWord s.rest[3]?

end Scanner

namespace Scan

variable {α : Type}

/-- The text is not well formed. -/
def fail : Scan α := throw .malformed

def peek (n : Nat) : Scan (Option Char) := do pure (← get).rest[n]?

def forward : Nat → Scan Unit
  | 0 => pure ()
  | n + 1 => do
    modify Scanner.advance
    forward n

/-- The characters up to the first one that fails the test. -/
def takeWhile (test : Char → Bool) : Scan (List Char) := do
  let run := (← get).rest.takeWhile test
  forward run.length
  pure run

/-- Goes on only if the condition holds. -/
def require (condition : Bool) : Scan Unit := if condition then pure () else fail

def push (token : Token) : Scan Unit := modify fun s => { s with tokens := s.tokens ++ [token] }

/-- A break of a line, if there is one here. Most of them count as the first kind. -/
def lineBreak : Scan (List Char) := do
  match ← peek 0 with
  | some c =>
    if isBreak c then
      forward 1
      pure [if c = '\x85' then '\n' else c]
    else pure []
  | none => pure []

/-! ### Keys and indents -/

/-- Places of keys are given up at the end of their line, and when the key grows too long. -/
def dropStaleKeys : Scan Unit := do
  let s ← get
  require (!s.keys.any fun entry => s.isStale entry.2 && entry.2.isRequired)
  set { s with keys := s.keys.filter fun entry => !s.isStale entry.2 }

/-- The place of a key in the present flow level is given up. -/
def dropKey : Scan Unit := do
  let s ← get
  require (!s.keys.any fun entry => entry.1 = s.flowLevel && entry.2.isRequired)
  set { s with keys := s.keys.filter fun entry => entry.1 ≠ s.flowLevel }

/-- The next token may be a key. -/
def saveKey : Scan Unit := do
  let s ← get
  if s.allowsKey then
    dropKey
    let place : KeyPlace := {
      number := s.tokens.length
      isRequired := s.flowLevel = 0 && s.indent = s.column
      index := s.index, line := s.line, column := s.column }
    modify fun s => { s with keys := (s.flowLevel, place) :: s.keys }

/-- The number of blocks that end in front of a column, and the indents that remain. -/
def unwound (column indent : Int) : List Int → Nat × Int × List Int
  | [] => (0, indent, [])
  | next :: outer =>
    if indent > column then
      let (count, indent, outer) := unwound column next outer
      (count + 1, indent, outer)
    else (0, indent, next :: outer)

def unwind (column : Int) : Scan Unit := do
  let s ← get
  if s.flowLevel = 0 then
    let (count, indent, outer) := unwound column s.indent s.outer
    set { s with indent, outer, tokens := s.tokens ++ List.replicate count Token.blockEnd }

/-- A deeper indent is entered. -/
def addIndent (column : Nat) : Scan Bool := do
  let s ← get
  if s.indent < column then
    set { s with indent := (column : Int), outer := s.indent :: s.outer }
    pure true
  else pure false

def allowKey (allowed : Bool) : Scan Unit := modify fun s => { s with allowsKey := allowed }

/-! ### What is passed over -/

/-- Spaces, comments and breaks in front of a token. -/
def skip : Nat → Scan Unit
  | 0 => pure ()
  | fuel + 1 => do
    let _ ← takeWhile (· = ' ')
    if (← peek 0) = some '#' then
      let _ ← takeWhile fun c => !isBreak c
    unless (← lineBreak).isEmpty do
      if (← get).flowLevel = 0 then allowKey true
      skip fuel

/-- The rest of a line that holds nothing but a comment. -/
def skipLine : Scan Unit := do
  let _ ← takeWhile (· = ' ')
  if (← peek 0) = some '#' then
    let _ ← takeWhile fun c => !isBreak c
  require (endsLine (← peek 0))
  let _ ← lineBreak

/-! ### Directives, anchors and tags -/

def hexValue (digits : List Char) : Option Nat :=
  digits.foldl (fun n c => do
    let n ← n
    if c.isDigit then some (16 * n + (c.toNat - '0'.toNat))
    else if 'a' ≤ c && c ≤ 'f' then some (16 * n + (c.toNat - 'a'.toNat + 10))
    else if 'A' ≤ c && c ≤ 'F' then some (16 * n + (c.toNat - 'A'.toNat + 10))
    else none) (some 0)

/-- A handle of tags: a mark alone, or a name between two. -/
def tagHandle : Scan String := do
  require ((← peek 0) = some '!')
  forward 1
  if (← peek 0) = some ' ' then pure "!"
  else
    let name ← takeWhile isNameChar
    require ((← peek 0) = some '!')
    forward 1
    pure ("!" ++ String.ofList name ++ "!")

/-- The bytes that percent signs stand for. -/
def escapedBytes : Nat → Scan (List UInt8)
  | 0 => pure []
  | fuel + 1 => do
    if (← peek 0) = some '%' then
      let some n := hexValue ((← get).rest.drop 1 |>.take 2) | fail
      require ((← get).rest.length ≥ 3)
      forward 3
      pure (n.toUInt8 :: (← escapedBytes fuel))
    else pure []

def isUriChar (c : Char) : Bool := c.isAlphanum || "-;/?:@&=+$,_.!~*'()[]".toList.contains c

/-- The pieces of a tag, in which bytes may be written with percent signs. -/
def uriPieces : Nat → Scan (List Char)
  | 0 => pure []
  | fuel + 1 => do
    let run ← takeWhile isUriChar
    let bytes ← escapedBytes fuel
    if bytes.isEmpty then pure run
    else
      let some text := String.fromUTF8? ⟨bytes.toArray⟩ | fail
      pure (run ++ text.toList ++ (← uriPieces fuel))

def uri : Scan String := do
  let text ← uriPieces ((← get).rest.length + 1)
  require (!text.isEmpty)
  pure (String.ofList text)

def number : Scan Nat := do
  let digits ← takeWhile Char.isDigit
  require (!digits.isEmpty)
  match Number.integerOfChars 10 digits with
  | .ok n => pure n.toNat
  | .error fault => throw (.numeral fault)

def directive : Scan Unit := do
  unwind (-1)
  dropKey
  allowKey false
  forward 1
  let name ← takeWhile isNameChar
  require (!name.isEmpty && endsAtSpace (← peek 0))
  let d : Directive ← match String.ofList name with
    | "YAML" => do
      let _ ← takeWhile (· = ' ')
      let major ← number
      require ((← peek 0) = some '.')
      forward 1
      let _ ← number
      require (endsAtSpace (← peek 0))
      pure (.version major)
    | "TAG" => do
      let _ ← takeWhile (· = ' ')
      let handle ← tagHandle
      require ((← peek 0) = some ' ')
      let _ ← takeWhile (· = ' ')
      let lead ← uri
      require (endsAtSpace (← peek 0))
      pure (.tag handle lead)
    | _ => do
      let _ ← takeWhile fun c => !isBreak c
      pure .other
  skipLine
  push (.directive d)

/-- The name behind an anchor or an alias. -/
def anchorName : Scan String := do
  saveKey
  allowKey false
  forward 1
  let name ← takeWhile isNameChar
  let next ← peek 0
  require (!name.isEmpty && (endsWord next || next.all "?:,]\x7d%@`".toList.contains))
  pure (String.ofList name)

/-- The tag holds a second mark, which ends its handle. -/
def hasHandle (rest : List Char) : Bool :=
  ((rest.drop 1).takeWhile fun c => !endsAtSpace (some c)).contains '!'

def tag : Scan Unit := do
  saveKey
  allowKey false
  let next ← peek 1
  if next = some '<' then
    forward 2
    let suffix ← uri
    require ((← peek 0) = some '>')
    forward 1
    require (endsAtSpace (← peek 0))
    push (.tag none suffix)
  else if endsWord next then
    forward 1
    require (endsAtSpace (← peek 0))
    push (.tag none "!")
  else
    let handle ← if hasHandle (← get).rest then tagHandle else do
      forward 1
      pure "!"
    let suffix ← uri
    require (endsAtSpace (← peek 0))
    push (.tag (some handle) suffix)

/-! ### Scalars in blocks -/

/-- How a block ends: with its last break, without it, or with all of them. -/
inductive Chomping where
  | clip
  | strip
  | keep
  deriving DecidableEq

def chomping? : Option Char → Option Chomping
  | some '+' => some .keep
  | some '-' => some .strip
  | _ => none

/-- The signs behind the mark of a block, in either order: how it ends, and how far it is indented. -/
def blockSigns : Scan (Chomping × Option Nat) := do
  let indentation : Scan (Option Nat) := do
    match ← peek 0 with
    | some c =>
      if c.isDigit then
        require (c ≠ '0')
        forward 1
        pure (some (c.toNat - '0'.toNat))
      else pure none
    | none => pure none
  let chomping : Scan (Option Chomping) := do
    let found := chomping? (← peek 0)
    if found.isSome then forward 1
    pure found
  let first ← chomping
  let depth ← indentation
  let last ← if first.isNone && depth.isSome then chomping else pure none
  require (endsAtSpace (← peek 0))
  pure ((first.or last).getD .clip, depth)

/-- Spaces up to a column. -/
def indentTo (indent : Nat) : Scan Unit := do
  let s ← get
  forward ((s.rest.take (indent - s.column)).takeWhile (· = ' ')).length

/-- The empty lines in front of a line of a block. -/
def blockBreaks (indent : Nat) : Nat → Scan (List Char)
  | 0 => pure []
  | fuel + 1 => do
    indentTo indent
    match ← lineBreak with
    | [] => pure []
    | found => do pure (found ++ (← blockBreaks indent fuel))

/-- The empty lines in front of a block, and the deepest indent of its first lines. -/
def blockIndent : Nat → Nat → Scan (List Char × Nat)
  | 0, deepest => pure ([], deepest)
  | fuel + 1, deepest => do
    let _ ← takeWhile (· = ' ')
    let deepest := max deepest (← get).column
    match ← lineBreak with
    | [] => pure ([], deepest)
    | found => do
      let (breaks, deepest) ← blockIndent fuel deepest
      pure (found ++ breaks, deepest)

/-- A line of text may be folded into the next one. -/
def folds (c : Option Char) : Bool := c != some ' ' && c != some '\t'

/-- The lines of a block, with the last break and the empty lines behind it. -/
def blockLines (isFolded : Bool) (indent : Nat) :
    Nat → List Char → Scan (List Char × List Char × List Char)
  | 0, breaks => pure ([], [], breaks)
  | fuel + 1, breaks => do
    let s ← get
    if s.column = indent && !s.rest.isEmpty then
      let isText := folds (← peek 0)
      let line ← takeWhile fun c => !isBreak c
      let last ← lineBreak
      let behind ← blockBreaks indent fuel
      let s ← get
      if s.column = indent && !s.rest.isEmpty then
        let joint :=
          if isFolded && last = ['\n'] && isText && folds s.rest.head? then
            if behind.isEmpty then [' '] else []
          else last
        let (text, last, behind) ← blockLines isFolded indent fuel behind
        pure (breaks ++ line ++ joint ++ text, last, behind)
      else pure (breaks ++ line, last, behind)
    else pure ([], [], breaks)

def blockScalar (isFolded : Bool) : Scan Unit := do
  allowKey true
  dropKey
  forward 1
  let (chomping, depth) ← blockSigns
  skipLine
  let s ← get
  let fuel := s.rest.length + 1
  let least := (max (s.indent + 1) 1).toNat
  let (breaks, indent) ← match depth with
    | none => do
      let (breaks, deepest) ← blockIndent fuel 0
      pure (breaks, max least deepest)
    | some depth => do
      let indent := least + depth - 1
      pure (← blockBreaks indent fuel, indent)
  let (text, last, behind) ← blockLines isFolded indent fuel breaks
  let text := match chomping with
    | .strip => text
    | .clip => text ++ last
    | .keep => text ++ last ++ behind
  push (.scalar (String.ofList text) false false)

/-! ### Scalars in quotes -/

/-- What a letter behind a backslash stands for. -/
def escape? : Char → Option Char
  | '0' => some '\x00'
  | 'a' => some '\x07'
  | 'b' => some '\x08'
  | 't' => some '\t'
  | '\t' => some '\t'
  | 'n' => some '\n'
  | 'v' => some '\x0b'
  | 'f' => some '\x0c'
  | 'r' => some '\r'
  | 'e' => some '\x1b'
  | ' ' => some ' '
  | '"' => some '"'
  | '\\' => some '\\'
  | '/' => some '/'
  | 'N' => some '\x85'
  | '_' => some '\xa0'
  | 'L' => some '\u2028'
  | 'P' => some '\u2029'
  | _ => none

/-- The number of digits behind a letter that introduces the code of a character. -/
def codeLength? : Char → Option Nat
  | 'x' => some 2
  | 'u' => some 4
  | 'U' => some 8
  | _ => none

/-- The breaks behind the first one inside of quotes. A document must not end there. -/
def quotedBreaks : Nat → Scan (List Char)
  | 0 => pure []
  | fuel + 1 => do
    require (!(← get).isAtMarker)
    let _ ← takeWhile fun c => c = ' ' || c = '\t'
    match ← lineBreak with
    | [] => pure []
    | found => do pure (found ++ (← quotedBreaks fuel))

/-- Breaks of lines as they are joined: the first kind becomes a space, unless empty lines follow it. -/
def foldedBreaks (first behind : List Char) : List Char :=
  (if first = ['\n'] then (if behind.isEmpty then [' '] else []) else first) ++ behind

/-- The code points of characters. -/
def codesOf (cs : List Char) : List Nat := cs.map Char.toNat

/-- The code that a number of hexadecimal digits gives. -/
def escapedCode (length : Nat) : Scan Nat := do
  let digits := (← get).rest.take length
  require (digits.length = length)
  let some code := hexValue digits | fail
  if Nat.pow 2 31 ≤ code then throw .codeTooLarge
  if 0x110000 ≤ code then throw .noCharacter
  forward length
  pure code

/-- What a backslash and the characters behind it stand for. -/
def escapeSequence (fuel : Nat) : Scan (List Nat) := do
  forward 1
  let some c ← peek 0 | fail
  match escape? c, codeLength? c with
  | some image, _ => do
    forward 1
    pure [image.toNat]
  | none, some length => do
    forward 1
    pure [← escapedCode length]
  | none, none => do
    require (isBreak c)
    let _ ← lineBreak
    pure (codesOf (← quotedBreaks fuel))

/-- The code points up to the closing quote. -/
def quotedCodes (isDouble : Bool) : Nat → Scan (List Nat)
  | 0 => fail
  | fuel + 1 => do
    match ← peek 0 with
    | none => fail
    | some c =>
      let piece : Scan (List Nat) :=
        if c = ' ' || c = '\t' || isBreak c then do
          let spaces ← takeWhile fun c => c = ' ' || c = '\t'
          match ← lineBreak with
          | [] => do
            require !(← get).rest.isEmpty
            pure (codesOf spaces)
          | first => do pure (codesOf (foldedBreaks first (← quotedBreaks fuel)))
        else if isDouble && c = '\\' then escapeSequence fuel
        else if !isDouble && c = '\'' then do
          forward 2
          pure ['\''.toNat]
        else do
          forward 1
          pure [c.toNat]
      if isDouble && c = '"' then
        forward 1
        pure []
      else if !isDouble && c = '\'' && (← peek 1) != some '\'' then
        forward 1
        pure []
      else
        let front ← piece
        pure (front ++ (← quotedCodes isDouble fuel))

def isHighSurrogate (code : Nat) : Bool := 0xD800 ≤ code && code ≤ 0xDBFF

def isLowSurrogate (code : Nat) : Bool := 0xDC00 ≤ code && code ≤ 0xDFFF

/-- Pairs of surrogates as the characters that they stand for. One that stands alone has no character. -/
def charsOfCodes : List Nat → List Char
  | [] => []
  | [code] => [if Nat.isValidChar code then Char.ofNat code else '\uFFFD']
  | high :: low :: rest =>
    if isHighSurrogate high && isLowSurrogate low then
      Char.ofNat (0x10000 + 0x400 * (high - 0xD800) + (low - 0xDC00)) :: charsOfCodes rest
    else
      (if Nat.isValidChar high then Char.ofNat high else '\uFFFD') :: charsOfCodes (low :: rest)

def quotedScalar (isDouble : Bool) : Scan Unit := do
  saveKey
  allowKey false
  forward 1
  let codes ← quotedCodes isDouble ((← get).rest.length + 1)
  push (.scalar (String.ofList (charsOfCodes codes)) false (codes.any fun code => !Nat.isValidChar code))

/-! ### Plain scalars -/

/-- A plain scalar ends in front of this text. -/
def plainEnds (inFlow : Bool) : List Char → Bool
  | [] => true
  | c :: rest =>
    endsWord (some c) || (inFlow && ",?[]\x7b\x7d".toList.contains c) ||
      (c = ':' && (endsWord rest.head? || (inFlow && rest.head?.any ",[]\x7b\x7d".toList.contains)))

/-- The part of a plain scalar up to the next space. -/
def plainRun (inFlow : Bool) : List Char → List Char
  | [] => []
  | c :: rest => if plainEnds inFlow (c :: rest) then [] else c :: plainRun inFlow rest

/-- The breaks behind the first one inside of a plain scalar, or nothing where a document ends. -/
def plainBreaks : Nat → Scan (Option (List Char))
  | 0 => pure (some [])
  | fuel + 1 => do
    if (← get).isAtMarker then pure none
    else
      let _ ← takeWhile (· = ' ')
      match ← lineBreak with
      | [] => pure (some [])
      | found => do pure ((← plainBreaks fuel).map (found ++ ·))

/-- The space between two parts of a plain scalar, or nothing where a document ends. -/
def plainSpaces (fuel : Nat) : Scan (Option (List Char)) := do
  let spaces ← takeWhile (· = ' ')
  match ← lineBreak with
  | [] => pure (some spaces)
  | first => do
    allowKey true
    pure ((← plainBreaks fuel).map (foldedBreaks first))

/-- The parts of a plain scalar, behind the space that leads to the first of them. -/
def plainParts (indent : Int) : Nat → List Char → Scan (List Char)
  | 0, _ => pure []
  | fuel + 1, spaces => do
    let s ← get
    let run := plainRun (s.flowLevel ≠ 0) s.rest
    if run.isEmpty || s.rest.head? = some '#' then pure []
    else
      allowKey false
      forward run.length
      let next ← plainSpaces fuel
      let s ← get
      let more ← match next with
        | none => pure []
        | some next =>
          if next.isEmpty || s.rest.head? = some '#' || (s.flowLevel = 0 && (s.column : Int) < indent) then
            pure []
          else plainParts indent fuel next
      pure (spaces ++ run ++ more)

/-- A plain scalar can begin with this text. -/
def startsPlain (inFlow : Bool) : List Char → Bool
  | [] => false
  | c :: rest =>
    !(endsWord (some c) || "-?:,[]\x7b\x7d#&*!|>'\"%@`".toList.contains c) ||
      (!endsWord rest.head? && (c = '-' || (!inFlow && (c = '?' || c = ':'))))

def plainScalar : Scan Unit := do
  saveKey
  allowKey false
  let s ← get
  let text ← plainParts (s.indent + 1) (s.rest.length + 1) []
  push (.scalar (String.ofList text) true false)

/-! ### Marks -/

def documentMarker (token : Token) : Scan Unit := do
  unwind (-1)
  dropKey
  allowKey false
  forward 3
  push token

def openFlow (token : Token) : Scan Unit := do
  saveKey
  modify fun s => { s with flowLevel := s.flowLevel + 1 }
  allowKey true
  forward 1
  push token

/-- A bracket that closes nothing is never well formed. -/
def closeFlow (token : Token) : Scan Unit := do
  dropKey
  let level := (← get).flowLevel
  require (level ≠ 0)
  modify fun s => { s with flowLevel := level - 1 }
  allowKey false
  forward 1
  push token

def flowEntry : Scan Unit := do
  allowKey true
  dropKey
  forward 1
  push .flowEntry

def blockEntry : Scan Unit := do
  let s ← get
  if s.flowLevel = 0 then
    require s.allowsKey
    if ← addIndent s.column then push .blockSequenceStart
  allowKey true
  dropKey
  forward 1
  push .blockEntry

def key : Scan Unit := do
  let s ← get
  if s.flowLevel = 0 then
    require s.allowsKey
    if ← addIndent s.column then push .blockMappingStart
  allowKey (s.flowLevel = 0)
  dropKey
  forward 1
  push .key

/-- A token in front of the token with the given number. -/
def insertAt (number : Nat) (token : Token) : Scan Unit :=
  modify fun s => { s with tokens := s.tokens.take number ++ token :: s.tokens.drop number }

def value : Scan Unit := do
  let s ← get
  match s.keys.find? fun entry => entry.1 = s.flowLevel with
  | some (_, place) =>
    set { s with keys := s.keys.filter fun entry => entry.1 ≠ s.flowLevel }
    insertAt place.number .key
    if s.flowLevel = 0 then
      if ← addIndent place.column then insertAt place.number .blockMappingStart
    allowKey false
  | none =>
    if s.flowLevel = 0 then
      require s.allowsKey
      if ← addIndent s.column then push .blockMappingStart
    allowKey (s.flowLevel = 0)
    dropKey
  forward 1
  push .value

/-- The next token, or the end of the text. -/
def next (c : Char) : Scan Unit := do
  let s ← get
  let inFlow := s.flowLevel ≠ 0
  let isWord := endsWord (← peek 1)
  if c = '%' && s.column = 0 then directive
  else if c = '-' && s.isAtMarker then documentMarker .documentStart
  else if c = '.' && s.isAtMarker then documentMarker .documentEnd
  else if c = '[' then openFlow .flowSequenceStart
  else if c = '\x7b' then openFlow .flowMappingStart
  else if c = ']' then closeFlow .flowSequenceEnd
  else if c = '\x7d' then closeFlow .flowMappingEnd
  else if c = ',' then flowEntry
  else if c = '-' && isWord then blockEntry
  else if c = '?' && (inFlow || isWord) then key
  else if c = ':' && (inFlow || isWord) then value
  else if c = '*' then do push (.reference (← anchorName))
  else if c = '&' then do push (.anchor (← anchorName))
  else if c = '!' then tag
  else if c = '|' && !inFlow then blockScalar false
  else if c = '>' && !inFlow then blockScalar true
  else if c = '\'' then quotedScalar false
  else if c = '"' then quotedScalar true
  else if startsPlain inFlow s.rest then plainScalar
  else fail

/-- What stands in front of a token is passed over, and tells whether there is one. -/
def advance : Scan Bool := do
  skip ((← get).rest.length + 1)
  dropStaleKeys
  unwind (← get).column
  match ← peek 0 with
  | none => do
    unwind (-1)
    dropKey
    pure false
  | some c => do
    next c
    pure true

end Scan

/-- Tokens, and the fault that stands behind them if the text goes on and is not well formed. -/
structure Scanned where
  tokens : List Token
  fault : Option LoadFault

/-- All tokens from a state on. -/
def Scanner.run : Nat → Scanner → Scanned
  | 0, s => ⟨s.settled, some .malformed⟩
  | fuel + 1, s => match Scan.advance.run s with
    | .ok (true, s) => s.run fuel
    | .ok (false, s) => ⟨s.tokens, none⟩
    | .error fault => ⟨s.settled, some fault⟩

namespace Token

/-- A character that may stand in a document. -/
def isAllowed (c : Char) : Bool :=
  c = '\t' || c = '\n' || c = '\r' || c = '\x85' || (' ' ≤ c && c ≤ '~') ||
    ('\xa0' ≤ c && c ≠ '\uFFFE' && c ≠ '\uFFFF')

/-- Every break of a line in its shortest form. -/
def plainBreaks : List Char → List Char
  | [] => []
  | '\r' :: rest =>
    match rest with
    | '\n' :: later => '\n' :: plainBreaks later
    | later => '\n' :: plainBreaks later
  | c :: rest => c :: plainBreaks rest

/-- The tokens of a document. A mark of the byte order in front is passed over. -/
def scan (text : String) : Scanned :=
  let cs := plainBreaks text.toList
  if !cs.all isAllowed then ⟨[], some .malformed⟩
  else
    let cs := if cs.head? = some '\uFEFF' then cs.tail else cs
    Scanner.run (cs.length + 1) { rest := cs }

end Token

end SqlBuilder.Yaml
