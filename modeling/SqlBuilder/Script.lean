import SqlBuilder.Value

/-!
Scripts of calls. A script is data, so what a builder is called with can be kept and run at any time. The
values of a call are terms, which are worked out when the call is made.
-/

namespace SqlBuilder

/-- Where a call is made and what becomes of it. -/
structure StepOptions where
  /-- The variable that is called. -/
  target : String := "it"
  /-- The variable that keeps the result. -/
  result : Option String := none
  /-- A failure of the call does not end the script. -/
  isCaught : Bool := false
  /-- The message of a failure that the call raises on purpose. -/
  message : String := ""

mutual

/-- A value that is still to be worked out. -/
inductive Term where
  | value (v : Value)
  | list (items : List Term)
  | tuple (items : List Term)
  /-- Of entries with equal keys the first gives the place and the last the value. -/
  | map (entries : List (Term × Term))
  /-- A fragment of SQL. A sequence that stands alone is the list of its values. -/
  | raw (content : Term) (bindings : List Term)
  | variable (name : String)
  /-- A script that fills a builder. -/
  | group (steps : List Step)
  /-- A script that runs around an execution and returns something. -/
  | hook (name : String) (steps : List Step) (answer : Term)

/-- A call by the name of its method. The call of a transaction has a script and an answer of its own. -/
inductive Step where
  | mk (method : String) (arguments : List Term) (keywords : List (String × Term)) (options : StepOptions)
      (inner : List Step) (answer : Term)

end

instance : Inhabited Term := ⟨.value .null⟩

instance : Inhabited Step := ⟨.mk "" [] [] {} [] default⟩

/-- The script of a group or of a hook, with what it returns. -/
structure Script where
  steps : List Step
  answer : Term

end SqlBuilder
