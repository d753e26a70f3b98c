import SqlBuilder.Proofs.Agree
import SqlBuilder.Proofs.Statement.Refit
import SqlBuilder.Proofs.Text.Concatenate
import Mathlib.Data.List.TakeWhile

/-!
The words for a limit of rows. A statement with a limit is the one without it, with the words in addition: behind the
verb and what makes the rows distinct, or in front of the offset and the lock. An update or a deletion has no place
behind the verb, so where the words go there its limit is left out.
-/

namespace SqlBuilder

theorem forall₂_of_mapM {α β : Type} {f : α → Except Fault β} {xs : List α} {ys : List β} (h : xs.mapM f = .ok ys) :
    List.Forall₂ (fun x y => f x = .ok y) xs ys := by
  induction xs generalizing ys with
  | nil =>
      cases h
      exact .nil
  | cons x xs ih =>
      rw [List.mapM_cons] at h
      obtain ⟨y, hy, h⟩ := exists_ok_of_bind h
      obtain ⟨ys', hys, h⟩ := exists_ok_of_bind h
      cases h
      exact .cons hy (ih hys)

theorem eq_of_pure_eq_ok {α : Type} {x y : α} (h : (pure x : Except Fault α) = .ok y) : x = y := Except.ok.inj h

theorem Text.strip_ne_empty {s : String} (h : Leads s) : strip s ≠ "" := by
  intro hempty
  have hnil : stripChars s.toList = [] := by
    rw [← String.toList_ofList (l := stripChars s.toList)]
    exact congrArg String.toList hempty
  have hleft := stripLeftChars_eq_self h []
  rw [List.append_nil] at hleft
  rw [stripChars, hleft, List.reverse_eq_nil_iff, stripLeftChars] at hnil
  obtain ⟨c, rest, hcs, hc⟩ := h
  have hblank := List.dropWhile_eq_nil_iff.1 hnil c (List.mem_reverse.2 (hcs ▸ List.mem_cons_self))
  rw [hc] at hblank
  cases hblank

/-- The words that ask for a number of rows. -/
def Dialect.limitWords (d : Dialect) (number : String) : String :=
  match d.paging with
  | .limitOffset => Text.strip ("LIMIT " ++ number)
  | .topFetch => Text.strip ("TOP " ++ number)

/-- The second query is the first one with the words between its front and its back, and it binds the same values. -/
structure Query.Adds (words front back : String) (p q : Query) : Prop where
  without : p.sql = front ++ back
  within : q.sql = front ++ (" " ++ words) ++ back
  bindings : q.bindings = p.bindings

namespace Query

theorem not_adds_self {words front back : String} {q : Query} : ¬Adds words front back q q := by
  intro h
  have hlength := congrArg String.length (h.without.symm.trans h.within)
  have hspace : " ".length = 1 := rfl
  simp only [String.length_append, hspace] at hlength
  omega

theorem Adds.clauses {front : List Query} (hfront : Text.words (front.map (·.sql)) ≠ []) (back : List Query)
    {piece : String} (hpiece : Text.Leads piece) :
    Adds (Text.strip piece) (Text.joined " " (Text.words (front.map (·.sql))))
      (Text.spaced (Text.words (back.map (·.sql)))) (Query.clauses (front ++ .plain "" :: back))
      (Query.clauses (front ++ .plain piece :: back)) := by
  have hsql := Text.concatenate_insert hfront (back.map (·.sql)) (Text.strip_ne_empty hpiece)
  refine ⟨?_, ?_, ?_⟩
  · rw [Query.clauses, List.map_append]
    exact hsql.1
  · rw [Query.clauses, List.map_append]
    exact hsql.2
  · rw [Query.clauses, Query.clauses, List.flatMap_append, List.flatMap_append]
    rfl

/-- The words stay in their place between parentheses, whatever follows these. -/
theorem Adds.enclosed_append {words front back : String} {p q : Query} (h : Adds words front back p q) (rest : Query) :
    Adds words ("(" ++ front) (back ++ (")" ++ rest.sql)) (p.enclosed ++ rest) (q.enclosed ++ rest) := by
  refine ⟨?_, ?_, congrArg (· ++ rest.bindings) h.bindings⟩
  · change "(" ++ p.sql ++ ")" ++ rest.sql = _
    simp only [h.without, String.append_assoc]
  · change "(" ++ q.sql ++ ")" ++ rest.sql = _
    simp only [h.within, String.append_assoc]

end Query

namespace Clauses

/-- The clauses without a limit. -/
def unlimited (c : Clauses) : Clauses := { c with limit := none }

/-- The clauses of a projection between the place for `TOP` and the numbers of rows. -/
def selectParts (d : Dialect) (c : Clauses) : Except Fault (List Query) := do
  let tables ← c.tables.mapM fun table => unlessCallable table (SqlBuilder.tableClause d c.aliases table)
  let qualifier ← qualifierOf c.aliases c.tables
  let joins ← Join.clause d c.joins
  let wheres ← Condition.clause d qualifier "WHERE" c.wheres
  let groups ← groupClause d c.groupBys
  let havings ← Condition.clause d qualifier "HAVING" c.havings
  let orders ← OrderTerm.clause d c.orderBys
  let fields ← Field.renderAll d c.projection
  if c.tables.any Value.isCallable then throw .typeMismatch
  pure [fields, .plain (if c.tables.isEmpty then "" else "FROM"), Query.joined "," tables, joins, wheres, groups,
    havings, orders]

/-- The table that an update changes, and the clauses between its verb and the numbers of rows. -/
def updateParts (d : Dialect) (data : Value) (c : Clauses) : Except Fault (Value × List Query) := do
  if !data.isTruthy then throw (.sql .noData)
  let table ← c.target
  let qualifier ← aliasOf? c.aliases table
  let name ← unlessCallable table (SqlBuilder.tableClause d c.aliases table)
  let joins ← Join.clause d c.joins
  let .map entries := data | throw .missingMember
  let changes ← assignments d entries
  let wheres ← Condition.clause d qualifier "WHERE" c.wheres
  let groups ← groupClause d c.groupBys
  let orders ← OrderTerm.clause d c.orderBys
  pure (table, [.plain name.sql, joins, .plain "SET " ++ changes, wheres, groups, orders])

/-- The table that a deletion changes, and the clauses between its verb and the numbers of rows. -/
def deleteParts (d : Dialect) (columns : Value) (c : Clauses) : Except Fault (Value × List Query) := do
  let table ← c.target
  let joins ← Join.clause d c.joins
  let wheres ← Condition.clause d none "WHERE" c.wheres
  let groups ← groupClause d c.groupBys
  let orders ← OrderTerm.clause d c.orderBys
  let names ← deleteColumns d columns
  let name ← targetName d table
  pure (table, [.plain names, .plain "FROM", name, joins, wheres, groups, orders])

/-- A statement that changes rows of the table, with the numbers of rows behind its clauses. -/
def paged (d : Dialect) (c : Clauses) (verb : String) (changed : Value × List Query) : Except Fault Query := do
  let pages ← c.pages d
  requireTable changed.1
  pure (Query.clauses (.plain verb :: (changed.2 ++ pages)))

theorem select_eq (d : Dialect) (c : Clauses) : c.select d = (do
    let distinct ← c.distinctClause d
    let parts ← c.selectParts d
    let top ← c.top d
    let pages ← c.pages d
    let lock ← c.lock d
    pure (Query.clauses ([.plain "SELECT", distinct] ++ .plain top :: (parts ++ pages ++ [.plain lock])))) := by
  simp only [select, selectParts, bind_assoc]
  repeat refine bind_congr fun _ => ?_
  split <;> rfl

theorem update_eq (d : Dialect) (c : Clauses) (data : Value) :
    c.update d data = (do
      let changed ← c.updateParts d data
      c.paged d "UPDATE" changed) := by
  unfold update updateParts paged
  cases data.isTruthy with
  | false => rfl
  | true =>
      simp only [Bool.not_true, Bool.false_eq_true, if_false, bind_assoc]
      repeat refine bind_congr fun _ => ?_
      cases data with
      | map entries => simp only [bind_assoc, pure_bind, List.cons_append]
      | _ => rfl

theorem delete_eq (d : Dialect) (c : Clauses) (columns : Value) :
    c.delete d columns = (do
      let changed ← c.deleteParts d columns
      c.paged d "DELETE" changed) := by
  simp only [delete, deleteParts, paged, bind_assoc, pure_bind, List.cons_append]

theorem counted_some {before after s : String} {v : Value} (h : counted before (some v) after = .ok s) :
    ∃ number, v.written = .ok number ∧ s = before ++ number ++ after := by
  obtain ⟨number, hnumber, h⟩ := exists_ok_of_bind h
  cases h
  exact ⟨number, hnumber, rfl⟩

variable {d : Dialect} {c : Clauses} {v : Value}

theorem top_of_topFetch {top : String} (hpaging : d.paging = .topFetch) (hlimit : c.limit = some v)
    (h : c.top d = .ok top) : ∃ number, v.written = .ok number ∧ top = "TOP " ++ number := by
  unfold Clauses.top at h
  rw [hpaging, hlimit] at h
  obtain ⟨number, hnumber, rfl⟩ := counted_some h
  exact ⟨number, hnumber, String.append_empty⟩

/-- Only the limit itself is missing among the numbers of rows without it. -/
theorem pages_of_limitOffset {pages : List Query} (hpaging : d.paging = .limitOffset) (hlimit : c.limit = some v)
    (h : c.pages d = .ok pages) : ∃ number offset, v.written = .ok number ∧ counted "OFFSET " c.offset "" = .ok offset ∧
      pages = [.plain ("LIMIT " ++ number), .plain offset] ∧
      c.unlimited.pages d = .ok [.plain "", .plain offset] := by
  unfold Clauses.pages at h ⊢
  rw [hpaging] at h ⊢
  rw [hlimit] at h
  obtain ⟨limit, hwritten, h⟩ := exists_ok_of_bind h
  obtain ⟨offset, hoffset, h⟩ := exists_ok_of_bind h
  obtain ⟨number, hnumber, rfl⟩ := counted_some hwritten
  cases h
  refine ⟨number, offset, hnumber, hoffset, ?_, ?_⟩
  · rw [String.append_empty]
  · change (counted "OFFSET " c.offset "" >>= fun offset => pure [Query.plain "", Query.plain offset]) = _
    rw [hoffset]
    rfl

/-- The text in front of the place for `TOP`. -/
def frontOfLimit (d : Dialect) (c : Clauses) : Except Fault String := do
  pure (Text.joined " " (Text.words ["SELECT", (← c.distinctClause d).sql]))

/-- The text of the projection behind the place for `LIMIT`. -/
def behindLimit (d : Dialect) (c : Clauses) : Except Fault String := do
  pure (Text.spaced (Text.words [← counted "OFFSET " c.offset "", ← c.lock d]))

/-- A statement that begins with a verb has words in front of what follows. -/
theorem words_verb_ne_nil {verb : String} (hverb : Text.strip verb ≠ "") (parts : List Query) :
    Text.words ((Query.plain verb :: parts).map (·.sql)) ≠ [] := by
  rw [List.map_cons, Text.words_cons]
  change Text.words [verb] ++ _ ≠ []
  rw [Text.words_singleton hverb]
  exact List.cons_ne_nil _ _

/-- A projection with a limit has the words for it in their place, and is the same without them. -/
theorem select_limited {q : Query} (hlimit : c.limit = some v) (h : c.select d = .ok q) :
    ∃ number p front back, v.written = .ok number ∧ c.unlimited.select d = .ok p ∧
      Query.Adds (d.limitWords number) front back p q ∧
      (d.paging = .topFetch → c.frontOfLimit d = .ok front) ∧
      (d.paging = .limitOffset → c.behindLimit d = .ok back) := by
  rw [select_eq] at h
  obtain ⟨distinct, hdistinct, h⟩ := exists_ok_of_bind h
  obtain ⟨parts, hparts, h⟩ := exists_ok_of_bind h
  obtain ⟨top, htop, h⟩ := exists_ok_of_bind h
  obtain ⟨pages, hpages, h⟩ := exists_ok_of_bind h
  obtain ⟨lock, hlock, h⟩ := exists_ok_of_bind h
  obtain rfl := eq_of_pure_eq_ok h
  have hunlimited : ∀ {top' pages'}, c.unlimited.top d = .ok top' → c.unlimited.pages d = .ok pages' →
      c.unlimited.select d =
        .ok (Query.clauses ([.plain "SELECT", distinct] ++ .plain top' :: (parts ++ pages' ++ [.plain lock]))) := by
    intro top' pages' htop' hpages'
    have hdistinct' : c.unlimited.distinctClause d = .ok distinct := hdistinct
    have hparts' : c.unlimited.selectParts d = .ok parts := hparts
    have hlock' : c.unlimited.lock d = .ok lock := hlock
    rw [select_eq, hdistinct', hparts', htop', hpages', hlock']
    rfl
  cases hpaging : d.paging with
  | topFetch =>
      obtain ⟨number, hnumber, rfl⟩ := top_of_topFetch hpaging hlimit htop
      have hpages' : c.unlimited.pages d = .ok pages := by
        unfold Clauses.pages at hpages ⊢
        rw [hpaging] at hpages ⊢
        exact hpages
      have htop' : c.unlimited.top d = .ok "" := by
        unfold Clauses.top
        rw [hpaging]
        rfl
      have hwords : d.limitWords number = Text.strip ("TOP " ++ number) := by
        unfold Dialect.limitWords
        rw [hpaging]
      refine ⟨number, _, _, _, hnumber, hunlimited htop' hpages', hwords ▸ Query.Adds.clauses
        (words_verb_ne_nil (by decide) _) _ (Text.Leads.append (by decide) number), fun _ => ?_, fun hother => ?_⟩
      · rw [frontOfLimit, hdistinct]
        rfl
      · cases hother
  | limitOffset =>
      obtain ⟨number, offset, hnumber, hoffset, rfl, hpages'⟩ := pages_of_limitOffset hpaging hlimit hpages
      have htop' : c.unlimited.top d = .ok top := by
        unfold Clauses.top at htop ⊢
        rw [hpaging] at htop ⊢
        exact htop
      have hwords : d.limitWords number = Text.strip ("LIMIT " ++ number) := by
        unfold Dialect.limitWords
        rw [hpaging]
      have hadds := Query.Adds.clauses
        (words_verb_ne_nil (by decide : Text.strip "SELECT" ≠ "") (distinct :: .plain top :: parts))
        [.plain offset, .plain lock] (Text.Leads.append (by decide : Text.Leads "LIMIT ") number)
      have hplace : ∀ piece : String, Query.plain "SELECT" :: distinct :: .plain top :: parts ++
          .plain piece :: [.plain offset, .plain lock] = [.plain "SELECT", distinct] ++
            .plain top :: (parts ++ [.plain piece, .plain offset] ++ [.plain lock]) := by
        intro piece
        simp
      rw [hplace, hplace] at hadds
      refine ⟨number, _, _, _, hnumber, hunlimited htop' hpages', hwords ▸ hadds, fun hother => ?_, fun _ => ?_⟩
      · cases hother
      · rw [behindLimit, hoffset, hlock]
        rfl

/-- The numbers of rows behind the clauses of a statement that changes rows, where a limit has a place. -/
theorem paged_limited {verb : String} {changed : Value × List Query} {q : Query} (hverb : Text.strip verb ≠ "")
    (hpaging : d.paging = .limitOffset) (hlimit : c.limit = some v) (h : c.paged d verb changed = .ok q) :
    ∃ number offset p front, v.written = .ok number ∧ counted "OFFSET " c.offset "" = .ok offset ∧
      c.unlimited.paged d verb changed = .ok p ∧
      Query.Adds (d.limitWords number) front (Text.spaced (Text.words [offset])) p q := by
  obtain ⟨pages, hpages, h⟩ := exists_ok_of_bind h
  obtain ⟨_, htable, h⟩ := exists_ok_of_bind h
  obtain rfl := eq_of_pure_eq_ok h
  obtain ⟨number, offset, hnumber, hoffset, rfl, hpages'⟩ := pages_of_limitOffset hpaging hlimit hpages
  have hwords : d.limitWords number = Text.strip ("LIMIT " ++ number) := by
    unfold Dialect.limitWords
    rw [hpaging]
  refine ⟨number, offset, _, _, hnumber, hoffset, ?_, hwords ▸ Query.Adds.clauses
    (words_verb_ne_nil hverb changed.2) [.plain offset] (Text.Leads.append (by decide) number)⟩
  rw [paged, hpages', htable]
  rfl

/-- Where the words go behind the verb, the numbers of rows of a statement that changes rows do not have the limit. -/
theorem paged_unlimited (hpaging : d.paging = .topFetch) (verb : String) (changed : Value × List Query) :
    c.unlimited.paged d verb changed = c.paged d verb changed := by
  unfold paged Clauses.pages
  rw [hpaging]
  rfl

end Clauses

namespace StatementTree

/-- The limit of the statement, for the kinds that have one. -/
def limit? : StatementTree → Option Value
  | select (.mk c _) => c.limit
  | update c _ => c.limit
  | delete c _ => c.limit
  | _ => none

def unlimited : StatementTree → StatementTree
  | select (.mk c members) => select (.mk c.unlimited members)
  | update c data => update c.unlimited data
  | delete c columns => delete c.unlimited columns
  | t => t

/-- The statement has a place for a limit: a projection behind its verb or at its end, other statements at their
end. -/
def takesLimit (d : Dialect) : StatementTree → Bool
  | select _ => true
  | _ => d.paging = .limitOffset

/-- The text on one side of the limit is that of the place for it. Behind the verb nothing but the words that make the
rows distinct comes first; at the end only the offset and the lock follow, and what a projection is united with. -/
def IsLimitPlace (d : Dialect) (front back : String) : StatementTree → Prop
  | select (.mk c members) => match d.paging with
    | .topFetch => ∃ own, c.frontOfLimit d = .ok own ∧ front = (if members.isEmpty then "" else "(") ++ own
    | .limitOffset => ∃ own united, c.behindLimit d = .ok own ∧ SelectTree.renderMembers d members = .ok united ∧
      back = own ++ (if members.isEmpty then "" else ")" ++ united.sql)
  | update c _ => ∃ offset, Clauses.counted "OFFSET " c.offset "" = .ok offset ∧
    back = Text.spaced (Text.words [offset])
  | delete c _ => ∃ offset, Clauses.counted "OFFSET " c.offset "" = .ok offset ∧
    back = Text.spaced (Text.words [offset])
  | _ => False

variable {d : Dialect} {t : StatementTree}

/-- A projection that is united with others has its limit within its own parentheses. -/
theorem render_select_limited {tree : SelectTree} {q : Query} {v : Value} (hlimit : (select tree).limit? = some v)
    (h : tree.render d = .ok q) :
    ∃ number p front back, v.written = .ok number ∧ (select tree).unlimited.render d = .ok p ∧
      Query.Adds (d.limitWords number) front back p q ∧ (select tree).IsLimitPlace d front back := by
  obtain ⟨c, members⟩ := tree
  rw [SelectTree.render] at h
  obtain ⟨own, hown, h⟩ := exists_ok_of_bind h
  obtain ⟨number, p, front, back, hnumber, hp, hadds, hfront, hback⟩ := c.select_limited hlimit hown
  have hunlimited : (select (.mk c members)).unlimited.render d = (do
      if members.isEmpty then pure p else pure (p.enclosed ++ (← SelectTree.renderMembers d members))) := by
    change SelectTree.render d (.mk c.unlimited members) = _
    rw [SelectTree.render, hp]
    rfl
  cases hmembers : members.isEmpty with
  | true =>
      have hnil : members = [] := List.isEmpty_iff.1 hmembers
      rw [if_pos hmembers] at h
      obtain rfl := eq_of_pure_eq_ok h
      refine ⟨number, p, front, back, hnumber, hunlimited.trans (if_pos hmembers), hadds, ?_⟩
      unfold IsLimitPlace
      cases hpaging : d.paging with
      | topFetch =>
          refine ⟨front, hfront hpaging, ?_⟩
          rw [hnil]
          exact String.empty_append.symm
      | limitOffset =>
          refine ⟨back, .plain "", hback hpaging, ?_, ?_⟩
          · rw [hnil, SelectTree.renderMembers]
            rfl
          · rw [hnil]
            exact String.append_empty.symm
  | false =>
      have hne : ¬members.isEmpty = true := by simp [hmembers]
      rw [if_neg hne] at h
      obtain ⟨united, hunited, h⟩ := exists_ok_of_bind h
      obtain rfl := eq_of_pure_eq_ok h
      have hrender : (select (.mk c members)).unlimited.render d = .ok (p.enclosed ++ united) := by
        rw [hunlimited, if_neg hne, hunited]
        rfl
      refine ⟨number, p.enclosed ++ united, "(" ++ front, back ++ (")" ++ united.sql), hnumber, hrender,
        hadds.enclosed_append united, ?_⟩
      unfold IsLimitPlace
      cases hpaging : d.paging with
      | topFetch => exact ⟨front, hfront hpaging, by rw [if_neg hne]⟩
      | limitOffset => exact ⟨back, united, hback hpaging, hunited, by rw [if_neg hne]⟩

/-- A statement that has a place for a limit is written with the words for it there, and is the same without them. -/
theorem render_limited {q : Query} {v : Value} (hlimit : t.limit? = some v) (htakes : t.takesLimit d = true)
    (h : t.render d = .ok q) :
    ∃ number p front back, v.written = .ok number ∧ t.unlimited.render d = .ok p ∧
      Query.Adds (d.limitWords number) front back p q ∧ t.IsLimitPlace d front back := by
  cases t with
  | select tree => exact render_select_limited hlimit h
  | update c data =>
      have hpaging : d.paging = .limitOffset := of_decide_eq_true htakes
      change c.update d data = _ at h
      rw [Clauses.update_eq] at h
      obtain ⟨changed, hchanged, h⟩ := exists_ok_of_bind h
      obtain ⟨number, offset, p, front, hnumber, hoffset, hp, hadds⟩ :=
        Clauses.paged_limited (by decide) hpaging hlimit h
      refine ⟨number, p, front, _, hnumber, ?_, hadds, offset, hoffset, rfl⟩
      have hunlimited : c.unlimited.updateParts d data = .ok changed := hchanged
      change c.unlimited.update d data = _
      rw [Clauses.update_eq, hunlimited]
      exact hp
  | delete c columns =>
      have hpaging : d.paging = .limitOffset := of_decide_eq_true htakes
      change c.delete d columns = _ at h
      rw [Clauses.delete_eq] at h
      obtain ⟨changed, hchanged, h⟩ := exists_ok_of_bind h
      obtain ⟨number, offset, p, front, hnumber, hoffset, hp, hadds⟩ :=
        Clauses.paged_limited (by decide) hpaging hlimit h
      refine ⟨number, p, front, _, hnumber, ?_, hadds, offset, hoffset, rfl⟩
      have hunlimited : c.unlimited.deleteParts d columns = .ok changed := hchanged
      change c.unlimited.delete d columns = _
      rw [Clauses.delete_eq, hunlimited]
      exact hp
  | insert c verb data => cases hlimit
  | conditions isBound members => cases hlimit

/-- A statement that has no place for a limit is written without it. -/
theorem render_unlimited (h : t.takesLimit d = false) : t.unlimited.render d = t.render d := by
  have hpaging : d.paging = .limitOffset ∨ d.paging = .topFetch := by cases d.paging <;> simp
  cases t with
  | select tree => cases h
  | update c data =>
      have htop := hpaging.resolve_left (of_decide_eq_false h)
      change c.unlimited.update d data = c.update d data
      rw [Clauses.update_eq, Clauses.update_eq]
      exact bind_congr fun changed => Clauses.paged_unlimited htop _ changed
  | delete c columns =>
      have htop := hpaging.resolve_left (of_decide_eq_false h)
      change c.unlimited.delete d columns = c.delete d columns
      rw [Clauses.delete_eq, Clauses.delete_eq]
      exact bind_congr fun changed => Clauses.paged_unlimited htop _ changed
  | insert c verb data => rfl
  | conditions isBound members => rfl

end StatementTree

end SqlBuilder
