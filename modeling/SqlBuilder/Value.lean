import SqlBuilder.Moment
import SqlBuilder.Number.Shortest
import SqlBuilder.Text.Quoted

/-!
The values that a statement carries: scalars, sequences, mappings, fragments of SQL with bindings of
their own, handles of what can be called, and what calls have returned. Sequences are of two kinds, which
never equal each other. A truth value counts as zero or one wherever numbers are compared.

What is no number equals nothing, itself included. A collection nevertheless finds it: items and keys are
found by being the same one, and only then by being equal.
-/

namespace SqlBuilder

open Number (Binary64)

/-- What a builder is for. -/
inductive BuilderKind where
  | query
  /-- The conditions of a group. -/
  | group
  /-- The conditions of a join. -/
  | join
  /-- The statements of a transaction. -/
  | transaction
  deriving DecidableEq, Repr

namespace BuilderKind

def all : List BuilderKind := [query, group, join, transaction]

def name : BuilderKind → String
  | query => "QueryBuilder"
  | group => "NestedCriteria"
  | join => "JoinBuilder"
  | transaction => "Transaction"

def ofName? (s : String) : Option BuilderKind := all.find? fun kind => kind.name == s

end BuilderKind

/-- How a transaction has ended. -/
inductive TransactionStatus where
  | committed
  | rolledBack
  deriving DecidableEq, Repr

namespace TransactionStatus

def name : TransactionStatus → String
  | committed => "committed"
  | rolledBack => "rolled_back"

end TransactionStatus

/-- The pieces that a statement is declared by. -/
inductive PieceKind where
  | named
  | ordered
  | condition
  | join
  | union
  deriving DecidableEq, Repr

inductive Value where
  | null
  | bool (b : Bool)
  | int (i : Int)
  | float (x : Binary64)
  | text (s : String)
  /-- A text in which code points of surrogates occur; pairs of them are written as the characters that
  they stand for. -/
  | surrogates (s : String)
  | bytes (content : List UInt8)
  | moment (m : Moment)
  | list (items : List Value)
  | tuple (items : List Value)
  /-- Values in the order in which they came in, none of them twice. -/
  | set (items : List Value)
  /-- Entries in the order in which their keys came in, no key twice. -/
  | map (entries : List (Value × Value))
  /-- SQL that is taken as it is, with the values for its placeholders. What is taken should be a text. -/
  | raw (content : Value) (bindings : List Value)
  /-- A script that fills the builder it is called with. -/
  | group (id : Nat)
  /-- A script that is called around an execution. -/
  | hook (name : String) (id : Nat)
  /-- A builder of the same connection. -/
  | builder (kind : BuilderKind) (id : Nat)
  /-- Builds an object from a row, whose columns must be the given ones if they are given. -/
  | factory (columns : Option (List String))
  /-- What a factory has built. -/
  | record (cells : List (String × Value))
  /-- A statement with the values for its placeholders, of a connection that may read backslashes as
  escapes. -/
  | statement (sql : Value) (bindings : List Value) (hasEscapes : Bool)
  /-- What an execution gave. -/
  | result (rows : List Value) (rowCount : Value) (columns : List Value) (lastInsertId affectedRows : Value)
  /-- How a transaction has ended, and what its script returned. -/
  | transaction (status : TransactionStatus) (answer : Value)
  /-- A piece of a declared statement. -/
  | piece (kind : PieceKind) (fields : List Value)
  /-- What a hook is told. -/
  | occasion
  /-- A collection that holds itself, where looking into it would never end. -/
  | endless
  deriving Inhabited

namespace Value

/-- The number that a value is compared as, if it is an integer or a truth value. -/
def asInt? : Value → Option Int
  | .int i => some i
  | .bool b => some (if b then 1 else 0)
  | _ => none

/-- Whether the value is above zero, if it is a number. -/
def isPositive? (v : Value) : Option Bool :=
  match v with
  | .float x => some (!x.isNaN && !x.isNegative && !x.same (.zero false))
  | v => v.asInt?.map fun i => 0 < i

/-- Equality of two values that hold no other values. -/
def sameScalar (a b : Value) : Bool :=
  match a, b with
  | .null, .null => true
  | .text s, .text t => s == t
  | .surrogates s, .surrogates t => s == t
  | .bytes s, .bytes t => s == t
  | .moment m, .moment n => m.same n
  | .float x, .float y => x.same y
  | .float x, b => match b.asInt? with
    | some i => x.sameInt i
    | none => false
  | a, .float y => match a.asInt? with
    | some i => y.sameInt i
    | none => false
  | .group m, .group n => m == n
  | .hook _ m, .hook _ n => m == n
  | .builder _ m, .builder _ n => m == n
  | a, b => match a.asInt?, b.asInt? with
    | some i, some j => i == j
    | _, _ => false

/-- The values are one and the same that is no number. -/
def isSameNaN : Value → Value → Bool
  | .float x, .float y => x == y && x.isNaN
  | _, _ => false

mutual

/-- Equality of values: by content, sequences of one kind item by item, mappings key by key. -/
def same : Value → Value → Bool
  | .list xs, b => match b with
    | .list ys => alikeItems xs ys
    | _ => false
  | .tuple xs, b => match b with
    | .tuple ys => alikeItems xs ys
    | _ => false
  | .set xs, b => match b with
    | .set ys => xs.length == ys.length && alikeMembers xs ys
    | _ => false
  | .raw s xs, b => match b with
    | .raw t ys => (isSameNaN s t || same s t) && alikeItems xs ys
    | _ => false
  | .statement s xs _, b => match b with
    | .statement t ys _ => (isSameNaN s t || same s t) && alikeItems xs ys
    | _ => false
  | .result rows count columns id affected, b => match b with
    | .result rows' count' columns' id' affected' =>
      alikeItems rows rows' && (isSameNaN count count' || same count count') && alikeItems columns columns' &&
        (isSameNaN id id' || same id id') && (isSameNaN affected affected' || same affected affected')
    | _ => false
  | .map xs, b => match b with
    | .map ys => xs.length == ys.length && alikeEntries xs ys
    | _ => false
  | a, b => sameScalar a b
termination_by structural x => x

/-- The items are equal, or one and the same, one by one. -/
def alikeItems : List Value → List Value → Bool
  | [], [] => true
  | x :: xs, y :: ys => (isSameNaN x y || same x y) && alikeItems xs ys
  | _, _ => false
termination_by structural x => x

/-- Every value of the first list is found in the second. -/
def alikeMembers : List Value → List Value → Bool
  | [], _ => true
  | x :: xs, ys => ys.any (fun y => isSameNaN x y || same x y) && alikeMembers xs ys
termination_by structural x => x

/-- Every entry of the first mapping has an equal one in the second. -/
def alikeEntries : List (Value × Value) → List (Value × Value) → Bool
  | [], _ => true
  | (key, x) :: rest, ys =>
    ys.any (fun entry =>
      (isSameNaN key entry.1 || same key entry.1) && (isSameNaN x entry.2 || same x entry.2)) &&
      alikeEntries rest ys
termination_by structural x => x

end

/-- The values are equal, or one and the same. -/
def alike (x y : Value) : Bool := isSameNaN x y || same x y

mutual

/-- The value can be a key: it holds no list, no set and no mapping. -/
def isKey : Value → Bool
  | .list _ => false
  | .set _ => false
  | .map _ => false
  | .tuple items => areKeys items
  | .raw content bindings => isKey content && areKeys bindings
  | .statement sql bindings _ => isKey sql && areKeys bindings
  | .result _ _ _ _ _ => false
  | .transaction _ _ => false
  | _ => true

def areKeys : List Value → Bool
  | [] => true
  | x :: xs => isKey x && areKeys xs

end

/-- Zero, the empty text, the empty collections and the absent value count as false. -/
def isTruthy : Value → Bool
  | .null => false
  | .bool b => b
  | .int i => i != 0
  | .float x => !x.same (.zero false)
  | .text s => s != ""
  | .bytes content => !content.isEmpty
  | .list items => !items.isEmpty
  | .tuple items => !items.isEmpty
  | .set items => !items.isEmpty
  | .map entries => !entries.isEmpty
  | _ => true

def isNull : Value → Bool
  | .null => true
  | _ => false

def isText : Value → Bool
  | .text _ => true
  | _ => false

def isRaw : Value → Bool
  | .raw _ _ => true
  | _ => false

def isCallable : Value → Bool
  | .group _ => true
  | .hook _ _ => true
  | .factory _ => true
  | _ => false

/-- The text of a value that is one. -/
def text? : Value → Option String
  | .text s => some s
  | _ => none

/-- The values of a fragment of SQL. Anything else has none. -/
def fragmentBindings : Value → List Value
  | .raw _ bindings => bindings
  | _ => []

/-- The items of a list or a tuple. -/
def items? : Value → Option (List Value)
  | .list items => some items
  | .tuple items => some items
  | _ => none

/-- What a walk over the value meets: items, keys, or characters. -/
def elements? : Value → Option (List Value)
  | .list items => some items
  | .tuple items => some items
  | .set items => some items
  | .map entries => some (entries.map (·.1))
  | .text s => some (s.toList.map fun c => .text (String.ofList [c]))
  | .bytes content => some (content.map fun b => .int b.toNat)
  | _ => none

mutual

/-- The value as a message shows it: texts between quotes, collections in their brackets. -/
def shown : Value → String
  | .null => "None"
  | .bool b => if b then "True" else "False"
  | .int i => toString i
  | .float x => x.text
  | .text s => Text.quoted s
  | .surrogates s => Text.quoted s
  | .bytes content => Text.quotedBytes content
  | .moment m => m.shown
  | .list items => "[" ++ Text.joined ", " (shownItems items) ++ "]"
  | .tuple items => "(" ++ shownTuple items ++ ")"
  | .set items => if items.isEmpty then "set()" else "\x7b" ++ Text.joined ", " (shownItems items) ++ "\x7d"
  | .map entries => "\x7b" ++ Text.joined ", " (shownEntries entries) ++ "\x7d"
  | .raw content bindings => "Raw(value=" ++ shown content ++ ", bindings=(" ++ shownTuple bindings ++ "))"
  | .group _ => "<group>"
  | .hook _ _ => "<hook>"
  | .builder _ _ => "<builder>"
  | .factory _ => "<factory>"
  | .record _ => "<record>"
  | .statement sql bindings _ =>
    "QueryObject(sql=" ++ shown sql ++ ", bindings=(" ++ shownTuple bindings ++ "))"
  | .result rows rowCount columns lastInsertId affectedRows =>
    "QueryResult(rows=[" ++ Text.joined ", " (shownItems rows) ++ "], row_count=" ++ shown rowCount ++
      ", columns=[" ++ Text.joined ", " (shownItems columns) ++ "], last_insert_id=" ++ shown lastInsertId ++
      ", affected_rows=" ++ shown affectedRows ++ ")"
  | .transaction _ _ => "<transaction>"
  | .piece _ _ => "<piece>"
  | .occasion => "<occasion>"
  | .endless => "..."

def shownItems : List Value → List String
  | [] => []
  | x :: xs => shown x :: shownItems xs

/-- A tuple of one item is marked by a comma. -/
def shownTuple : List Value → String
  | [] => ""
  | x :: xs => match xs with
    | [] => shown x ++ ","
    | _ :: _ => Text.joined ", " (shown x :: shownItems xs)

def shownEntries : List (Value × Value) → List String
  | [] => []
  | (key, x) :: rest => (shown key ++ ": " ++ shown x) :: shownEntries rest

end

mutual

/-- The value holds a collection that holds itself. -/
def neverEnds : Value → Bool
  | .endless => true
  | .list items => someNeverEnds items
  | .tuple items => someNeverEnds items
  | .map entries => someEntryNeverEnds entries
  | _ => false

def someNeverEnds : List Value → Bool
  | [] => false
  | x :: rest => neverEnds x || someNeverEnds rest

def someEntryNeverEnds : List (Value × Value) → Bool
  | [] => false
  | (_, x) :: rest => neverEnds x || someEntryNeverEnds rest

end

variable {α : Type}

/-- The value is among the given ones. -/
def isAmong (v : Value) (values : List Value) : Bool := values.any fun x => v.alike x

/-- The entry of a mapping under an equal key. -/
def lookup? (key : Value) (entries : List (Value × α)) : Option α :=
  (entries.find? fun entry => key.alike entry.1).map (·.2)

/-- The entries with one more: an equal key keeps its place and takes the new value. -/
def insertEntry (key : Value) (x : α) : List (Value × α) → List (Value × α)
  | [] => [(key, x)]
  | (k, y) :: rest => if key.alike k then (k, x) :: rest else (k, y) :: insertEntry key x rest

/-- The entries in order, later ones taking the place of earlier ones with an equal key. -/
def entriesOf (pairs : List (Value × α)) : List (Value × α) :=
  pairs.foldl (fun entries pair => insertEntry pair.1 pair.2 entries) []

end Value

end SqlBuilder
