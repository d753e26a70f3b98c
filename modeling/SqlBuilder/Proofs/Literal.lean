import SqlBuilder.Session.Call
import SqlBuilder.Proofs.Driver.History
import SqlBuilder.Proofs.Identifier
import SqlBuilder.Proofs.Session.Compile

/-!
Text literals as a database reads them. A literal ends at the first quote that is not doubled, and a doubled one stands
for one quote in the text. Where a backslash is an escape as well, it takes the next character along, whatever that is,
so the drivers double the backslashes in front of the quotes. Read by the rules of the database, a literal that a driver
has quoted ends with its last character and no earlier, and it stands for the text that was quoted.
-/

namespace SqlBuilder

open Act

namespace Text

/-- What a backslash and the character behind it stand for. -/
abbrev Escapes := Char → List Char

/-- The text in front of the closing quote and what stands behind it. A doubled quote stands for one, and a backslash
and the character behind it stand for what the escapes say. -/
def readEscaped (escapes : Escapes) : List Char → Option (List Char × List Char)
  | [] => none
  | [c] => if c = '\'' then some ([], []) else none
  | c :: d :: cs =>
    if c = '\'' then
      if d = '\'' then (readEscaped escapes cs).map (Prod.map ('\'' :: ·) id) else some ([], d :: cs)
    else if c = '\\' then (readEscaped escapes cs).map (Prod.map (escapes d ++ ·) id)
    else (readEscaped escapes (d :: cs)).map (Prod.map (c :: ·) id)

variable {escapes : Escapes} {behind : List Char}

theorem readEscaped_quote (h : '\'' ∉ behind.head?) : readEscaped escapes ('\'' :: behind) = some ([], behind) := by
  cases behind with
  | nil => rfl
  | cons d cs =>
      have hd : d ≠ '\'' := fun hd => h (by rw [hd]; rfl)
      rw [readEscaped, if_pos rfl, if_neg hd]

theorem readEscaped_cons {c : Char} (hquote : c ≠ '\'') (hescape : c ≠ '\\') (cs : List Char) :
    readEscaped escapes (c :: cs) = (readEscaped escapes cs).map (Prod.map (c :: ·) id) := by
  cases cs with
  | nil => simp [readEscaped, hquote]
  | cons d cs => rw [readEscaped, if_neg hquote, if_neg hescape]

theorem doubled_cons (mark c : Char) (cs : List Char) :
    doubled mark (c :: cs) = (if c = mark then [mark, mark] else [c]) ++ doubled mark cs := rfl

/-- A text with its backslashes and then its quotes doubled is read back, if two backslashes stand for one. -/
theorem readEscaped_doubled (hescapes : escapes '\\' = ['\\']) (text : List Char) (h : '\'' ∉ behind.head?) :
    readEscaped escapes (doubled '\'' (doubled '\\' text) ++ '\'' :: behind) = some (text, behind) := by
  have hquote : '\'' ≠ '\\' := by decide
  induction text with
  | nil => exact readEscaped_quote h
  | cons c text ih =>
      by_cases hc : c = '\\'
      · subst hc
        have hdoubled : doubled '\'' (doubled '\\' ('\\' :: text)) = '\\' :: '\\' :: doubled '\'' (doubled '\\' text) :=
          rfl
        rw [hdoubled, List.cons_append, List.cons_append, readEscaped, if_neg hquote.symm, if_pos rfl, ih, hescapes]
        rfl
      by_cases hmark : c = '\''
      · subst hmark
        have hdoubled : doubled '\'' (doubled '\\' ('\'' :: text)) = '\'' :: '\'' :: doubled '\'' (doubled '\\' text) :=
          rfl
        rw [hdoubled, List.cons_append, List.cons_append, readEscaped, if_pos rfl, if_pos rfl, ih]
        rfl
      · rw [doubled_cons, if_neg hc, List.singleton_append, doubled_cons, if_neg hmark, List.singleton_append,
          List.cons_append, readEscaped_cons hmark hc, ih]
        rfl

/-- Read behind its first character, a quote, the literal ends with its last character and stands for the text. What
stands behind it is left, unless that begins with a quote. -/
def Delimits (read : List Char → Option (List Char × List Char)) (literal text : String) : Prop :=
  ∃ body, literal.toList = '\'' :: body ∧
    ∀ behind : List Char, '\'' ∉ behind.head? → read (body ++ behind) = some (text.toList, behind)

end Text

/-- How the engine reads a text literal: MySQL has the escapes, and any other engine knows the doubled quote alone. -/
def Engine.readLiteral (escapes : Text.Escapes) : Engine → List Char → Option (List Char × List Char)
  | .mysql => Text.readEscaped escapes
  | _ => Text.readQuoted '\''

theorem Engine.readLiteral_of_ne {engine : Engine} {escapes : Text.Escapes} (h : engine ≠ .mysql) :
    engine.readLiteral escapes = Text.readQuoted '\'' := by
  cases engine with
  | mysql => exact absurd rfl h
  | postgresql => rfl
  | sqlite => rfl
  | sqlserver => rfl

section Quoting

variable {escapes : Text.Escapes}

theorem toList_quoteLiteral (s : String) :
    (quoteLiteral s).toList = '\'' :: (Text.doubled '\'' s.toList ++ ['\'']) := by
  have hdoubled : (Text.replaceChar '\'' "''" s).toList = Text.doubled '\'' s.toList := String.toList_ofList
  unfold quoteLiteral
  rw [String.toList_append, String.toList_append, hdoubled]
  rfl

theorem delimits_quoteLiteral (s : String) : Text.Delimits (Text.readQuoted '\'') (quoteLiteral s) s := by
  refine ⟨_, toList_quoteLiteral s, fun behind h => ?_⟩
  rw [List.append_assoc]
  exact Text.readQuoted_doubled s.toList h

theorem delimits_quoteFor_escapes (hescapes : escapes '\\' = ['\\']) (s : String) :
    Text.Delimits (Text.readEscaped escapes) (quoteFor true s) s := by
  refine ⟨_, toList_quoteLiteral _, fun behind h => ?_⟩
  have hdoubled : (Text.replaceChar '\\' "\\\\" s).toList = Text.doubled '\\' s.toList := String.toList_ofList
  rw [if_pos rfl, hdoubled, List.append_assoc]
  exact Text.readEscaped_doubled hescapes s.toList h

/-- The literal that a driver makes of a text is the one that stands for the text in a statement with its values in
place. The database below the driver reads it up to its last character, as the text. -/
theorem driverQuote_delimits (hescapes : escapes '\\' = ['\\']) (env : Surroundings) (s : Session) (text : String) :
    ∃ literal, (ConnectionCall.driverQuote (.text text)).perform.exec env s = (.ok (.text literal), s) ∧
      Value.literal? s.driver.hasEscapes (.text text) = some literal ∧
      (∀ driver, s.driver = .cursor driver → Text.Delimits (driver.engine.readLiteral escapes) literal text) ∧
      (∀ driver, s.driver = .sqlite driver → Text.Delimits (Text.readQuoted '\'') literal text) := by
  refine ⟨quoteFor s.driver.hasEscapes text, rfl, rfl, fun driver hdriver => ?_, fun driver hdriver => ?_⟩
  · have hescape : s.driver.hasEscapes = decide (driver.engine = .mysql) := by
      rw [hdriver]
      rfl
    rw [hescape]
    by_cases hmysql : driver.engine = .mysql
    · rw [hmysql]
      exact delimits_quoteFor_escapes hescapes text
    · rw [Engine.readLiteral_of_ne hmysql, decide_eq_false hmysql]
      exact delimits_quoteLiteral text
  · rw [hdriver]
    exact delimits_quoteLiteral text

/-- What a backslash and the character behind it stand for in MySQL. -/
def Text.mysqlEscapes : Text.Escapes
  | '0' => ['\x00']
  | 'b' => ['\x08']
  | 'n' => ['\n']
  | 'r' => ['\x0d']
  | 't' => ['\t']
  | 'Z' => ['\x1a']
  | '%' => ['\\', '%']
  | '_' => ['\\', '_']
  | c => [c]

def Session.onMysql : Session where
  lead := none
  overwriting := false
  driver := .cursor { CursorDriver.fresh with engine := .mysql }

/-- With the quote alone doubled, the backslash would take the closing quote along. -/
theorem driverQuote_delimits_backslash : Text.mysqlEscapes '\\' = ['\\'] ∧
    Text.Delimits (Text.readEscaped Text.mysqlEscapes) "'it''s n\\\\'" "it's n\\" ∧
    ¬ Text.Delimits (Text.readEscaped Text.mysqlEscapes) "'it''s n\\'" "it's n\\" := by
  have hescapes : Text.mysqlEscapes '\\' = ['\\'] := rfl
  obtain ⟨literal, -, hliteral, hcursor, -⟩ :=
    driverQuote_delimits hescapes (.scriptless 1) .onMysql "it's n\\"
  have hquoted : quoteFor true "it's n\\" = "'it''s n\\\\'" := by decide +kernel
  obtain rfl : "'it''s n\\\\'" = literal := hquoted.symm.trans (Option.some.inj hliteral)
  refine ⟨hescapes, hcursor _ rfl, ?_⟩
  rintro ⟨body, hbody, hread⟩
  obtain rfl : "it''s n\\'".toList = body := List.tail_eq_of_cons_eq hbody
  exact absurd (hread [] nofun) (by decide +kernel)

end Quoting

end SqlBuilder
