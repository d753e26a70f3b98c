import SqlBuilder.Fault

/-!
The placeholders of compiled statements, which are question marks, in the style that a database
module declares. The text is cut into tokens first: quoted literals and quoted identifiers
are kept whole, so a question mark inside them is not a placeholder. A quoted token is the longest
that starts at its opening mark, and a mark that nothing closes opens no token.
-/

namespace SqlBuilder

/-- The styles of placeholders that database modules declare. -/
inductive PlaceholderStyle where
  /-- `?` -/
  | qmark
  /-- `%s` -/
  | format
  /-- `%(p1)s` -/
  | pyformat
  /-- `:1` -/
  | numeric
  /-- `:p1` -/
  | named
  deriving DecidableEq, Repr

/-- A piece of SQL text. -/
inductive SqlToken where
  /-- A quoted literal or identifier with its marks. -/
  | quoted (chars : List Char)
  | placeholder
  | plain (c : Char)
  deriving DecidableEq, Repr

namespace SqlToken

/-- What belongs to a quoted token behind its opening mark, and what follows. A doubled mark stands
for itself; where reading on would leave the token open, the first of the two closes it. -/
def closeDoubled? (mark : Char) : List Char → Option (List Char × List Char)
  | [] => none
  | c :: rest =>
    if c ≠ mark then (closeDoubled? mark rest).map fun (body, behind) => (c :: body, behind)
    else match rest with
      | [] => some ([c], [])
      | d :: later =>
        if d ≠ mark then some ([c], d :: later)
        else match closeDoubled? mark later with
          | some (body, behind) => some (c :: d :: body, behind)
          | none => some ([c], d :: later)

/-- The same for marks without an escape: the first closing mark closes the token. -/
def closeFirst? (mark : Char) : List Char → Option (List Char × List Char)
  | [] => none
  | c :: rest =>
    if c = mark then some ([c], rest)
    else (closeFirst? mark rest).map fun (body, behind) => (c :: body, behind)

/-- The rest of the quoted token that the character opens. -/
def close? (c : Char) (rest : List Char) : Option (List Char × List Char) :=
  if c = '\'' || c = '"' then closeDoubled? c rest
  else if c = '`' then closeFirst? '`' rest
  else if c = '[' then closeFirst? ']' rest
  else none

theorem closeDoubled?_append {mark : Char} {cs body behind : List Char}
    (h : closeDoubled? mark cs = some (body, behind)) : body ++ behind = cs := by
  fun_induction closeDoubled? mark cs generalizing body behind with
  | case1 => simp at h
  | case2 c rest hc ih =>
    obtain ⟨⟨body', behind'⟩, hr, he⟩ := Option.map_eq_some_iff.1 h
    cases he
    simp [ih hr]
  | case3 => cases h; rfl
  | case4 => cases h; rfl
  | case5 c hc d later hd body' behind' hr ih =>
    rw [hr] at ih
    cases h
    simp [ih rfl]
  | case6 => cases h; rfl

theorem closeFirst?_append {mark : Char} {cs body behind : List Char}
    (h : closeFirst? mark cs = some (body, behind)) : body ++ behind = cs := by
  fun_induction closeFirst? mark cs generalizing body behind with
  | case1 => simp at h
  | case2 => cases h; rfl
  | case3 c rest hc ih =>
    obtain ⟨⟨body', behind'⟩, hr, he⟩ := Option.map_eq_some_iff.1 h
    cases he
    simp [ih hr]

/-- A quoted token and what follows make up the text. -/
theorem close?_append {c : Char} {cs body behind : List Char}
    (h : close? c cs = some (body, behind)) : body ++ behind = cs := by
  unfold close? at h
  split at h
  · exact closeDoubled?_append h
  · split at h
    · exact closeFirst?_append h
    · split at h
      · exact closeFirst?_append h
      · simp at h

theorem length_le_of_close? {c : Char} {cs body behind : List Char}
    (h : close? c cs = some (body, behind)) : behind.length ≤ cs.length := by
  simp [← close?_append h]

/-- The tokens of a text, from left to right. -/
def ofChars : List Char → List SqlToken
  | [] => []
  | c :: rest =>
    match _h : close? c rest with
    | some (body, behind) => .quoted (c :: body) :: ofChars behind
    | none => (if c = '?' then .placeholder else .plain c) :: ofChars rest
termination_by cs => cs.length
decreasing_by
  · have := length_le_of_close? _h
    simp only [List.length_cons]
    omega
  · simp

end SqlToken

/-- Values as a database module takes them. -/
inductive Parameters where
  | positional (values : List Value)
  /-- Under the names `p1`, `p2` and so on. -/
  | named (values : List (String × Value))

namespace PlaceholderStyle

def all : List PlaceholderStyle := [qmark, format, pyformat, numeric, named]

def name : PlaceholderStyle → String
  | qmark => "qmark"
  | format => "format"
  | pyformat => "pyformat"
  | numeric => "numeric"
  | named => "named"

def ofName? (s : String) : Option PlaceholderStyle := all.find? fun style => style.name == s

def ofName (s : String) : Except Fault PlaceholderStyle :=
  match ofName? s with
  | some style => pure style
  | none => throw (.value (.unknownStyle s))

/-- The style that a value names. -/
def ofValue (v : Value) : Except Fault PlaceholderStyle :=
  match v with
  | .text s => ofName s
  | v => do throw (.value (.unknownStyle (← v.written)))

/-- The style that is asked for, or else the one that a database module declares. -/
def choose (asked declared : Value) : Except Fault PlaceholderStyle :=
  ofValue (if asked.isTruthy then asked else declared)

/-- A percent sign of the text is written twice, since the module would read it as a directive. -/
def doublesPercent : PlaceholderStyle → Bool
  | format => true
  | pyformat => true
  | _ => false

/-- The placeholder with the given number, the first being one. -/
def placeholder (style : PlaceholderStyle) (number : Nat) : String :=
  match style with
  | qmark => "?"
  | format => "%s"
  | pyformat => "%(p" ++ toString number ++ ")s"
  | numeric => ":" ++ toString number
  | named => ":p" ++ toString number

/-- Text that is kept, but for its percent signs. -/
def keep (style : PlaceholderStyle) (cs : List Char) : List Char :=
  if style.doublesPercent then cs.flatMap fun c => if c = '%' then ['%', '%'] else [c] else cs

/-- The tokens as text, with placeholders numbered on from the given number. -/
def write (style : PlaceholderStyle) : Nat → List SqlToken → List Char
  | _, [] => []
  | number, .placeholder :: rest =>
    (style.placeholder (number + 1)).toList ++ style.write (number + 1) rest
  | number, .quoted chars :: rest => style.keep chars ++ style.write number rest
  | number, .plain c :: rest => style.keep [c] ++ style.write number rest

/-- The statement with its placeholders in the given style. -/
def convert (style : PlaceholderStyle) (sql : String) : String :=
  if style = qmark then sql else String.ofList (style.write 0 (SqlToken.ofChars sql.toList))

/-- The same for SQL that may be no text. Question marks are taken as they are, whatever holds them. -/
def convertValue (style : PlaceholderStyle) (sql : Value) : Except Fault Value :=
  match sql with
  | .text s => pure (.text (style.convert s))
  | sql => if style = qmark then pure sql else throw .typeMismatch

/-- Values numbered on from the given number. -/
def numbered : Nat → List Value → List (String × Value)
  | _, [] => []
  | number, v :: rest => ("p" ++ toString (number + 1), v) :: numbered (number + 1) rest

/-- The values in the container that the style expects. -/
def bind (style : PlaceholderStyle) (values : List Value) : Parameters :=
  match style with
  | pyformat => .named (numbered 0 values)
  | named => .named (numbered 0 values)
  | _ => .positional values

end PlaceholderStyle

end SqlBuilder
