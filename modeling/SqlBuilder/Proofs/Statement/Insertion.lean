import SqlBuilder.Driver.Cursor
import SqlBuilder.Proofs.Agree
import SqlBuilder.Proofs.Text.Concatenate
import SqlBuilder.Statement.Modify

/-!
The words that an insertion begins with. In every dialect a driver knows an insertion by them.
-/

namespace SqlBuilder

namespace Text

theorem dropLead?_append (lead rest : List Char) : dropLead? lead (lead ++ rest) = some rest := by
  induction lead with
  | nil => cases rest <;> rfl
  | cons c lead ih =>
      rw [List.cons_append, dropLead?, if_pos rfl]
      exact ih

/-- A text that begins with a word in capital letters also does so in upper case and without blanks in front. -/
theorem startsWith_upper_stripLeft {word s : String} (hword : Opens word.toList)
    (hupper : word.toList.flatMap upperChar = word.toList) {rest : List Char} (hs : s.toList = word.toList ++ rest) :
    startsWith (upper (stripLeft s)) word = true := by
  have hstrip : (stripLeft s).toList = word.toList ++ rest := by
    rw [stripLeft, String.toList_ofList, hs]
    exact stripLeftChars_eq_self hword rest
  unfold startsWith
  rw [upper, String.toList_ofList, hstrip, List.flatMap_append, hupper, dropLead?_append]
  rfl

end Text

/-- An insertion begins with its verb. -/
theorem Clauses.insert_eq_ok {d : Dialect} {c : Clauses} {verb : InsertVerb} {data : Value} {q : Query}
    (h : c.insert d verb data = .ok q) : ∃ parts, q = .clauses (.plain (verb.words d ++ " INTO") :: parts) := by
  unfold Clauses.insert at h
  obtain ⟨table, -, h⟩ := exists_ok_of_bind h
  cases data with
  | map entries =>
      obtain ⟨values, -, h⟩ := exists_ok_of_bind h
      obtain ⟨name, -, h⟩ := exists_ok_of_bind h
      obtain ⟨columns, -, h⟩ := exists_ok_of_bind h
      obtain ⟨onDuplicate, -, h⟩ := exists_ok_of_bind h
      obtain ⟨_, -, h⟩ := exists_ok_of_bind h
      exact ⟨_, (Except.ok.inj h).symm⟩
  | _ => cases h

/-- The words of every verb begin with one of the two that add rows. -/
theorem InsertVerb.words_cases (e : Engine) (verb : InsertVerb) :
    ∃ rest : List Char, (verb.words (.ofEngine e) ++ " INTO").toList = "INSERT".toList ++ rest ∨
      (verb.words (.ofEngine e) ++ " INTO").toList = "REPLACE".toList ++ rest := by
  cases verb with
  | insert => exact ⟨" INTO".toList, .inl String.toList_append⟩
  | insertIgnore =>
      cases e with
      | mysql => exact ⟨" IGNORE INTO".toList, .inl rfl⟩
      | postgresql => exact ⟨" INTO".toList, .inl rfl⟩
      | sqlite => exact ⟨" OR IGNORE INTO".toList, .inl rfl⟩
      | sqlserver => exact ⟨_, .inl rfl⟩
  | replace => exact ⟨" INTO".toList, .inr String.toList_append⟩

/-- An insertion adds rows, as a driver tells by its first word. -/
theorem addsRows_insert {e : Engine} {c : Clauses} {verb : InsertVerb} {data : Value} {q : Query}
    (h : c.insert (.ofEngine e) verb data = .ok q) : CursorDriver.addsRows (.text q.sql) = .ok true := by
  obtain ⟨parts, rfl⟩ := Clauses.insert_eq_ok h
  have hsolid : Text.Solid (verb.words (.ofEngine e) ++ " INTO") := by
    cases e <;> cases verb <;> exact ⟨by decide, by decide⟩
  have hsql : ∃ rest, (Query.clauses (.plain (verb.words (.ofEngine e) ++ " INTO") :: parts)).sql =
      verb.words (.ofEngine e) ++ " INTO" ++ rest := by
    refine ⟨Text.spaced (Text.words (parts.map (·.sql))), ?_⟩
    change Text.concatenate ((verb.words (.ofEngine e) ++ " INTO") :: parts.map (·.sql)) = _
    have hne : Text.strip (verb.words (.ofEngine e) ++ " INTO") ≠ "" := by
      rw [hsolid.strip_eq]
      exact hsolid.ne_empty
    rw [Text.concatenate_eq_joined, Text.words_cons, Text.words_singleton hne, hsolid.strip_eq, List.singleton_append,
      Text.joined_cons]
  obtain ⟨rest, hsql⟩ := hsql
  rw [hsql]
  unfold CursorDriver.addsRows
  dsimp only
  obtain ⟨words, hinsert | hreplace⟩ := verb.words_cases e
  · have hlist : (verb.words (.ofEngine e) ++ " INTO" ++ rest).toList = "INSERT".toList ++ (words ++ rest.toList) := by
      rw [String.toList_append, hinsert, List.append_assoc]
    rw [Text.startsWith_upper_stripLeft (by decide) (by decide) hlist]
    rfl
  · have hlist : (verb.words (.ofEngine e) ++ " INTO" ++ rest).toList = "REPLACE".toList ++ (words ++ rest.toList) := by
      rw [String.toList_append, hreplace, List.append_assoc]
    rw [Text.startsWith_upper_stripLeft (by decide) (by decide) hlist, Bool.or_true]
    rfl

end SqlBuilder
