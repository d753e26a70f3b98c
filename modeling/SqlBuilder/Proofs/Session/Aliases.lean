import SqlBuilder.Proofs.Driver.Talk
import SqlBuilder.Proofs.Keys
import SqlBuilder.Proofs.Session.Tables

/-!
The aliases of the tables of a draft. Each table has the alias that was declared for it last.
-/

namespace SqlBuilder

namespace Value

variable {α : Type} {key : Value} {a : String}

theorem eq_of_alike_text (h : key.alike (.text a) = true) : key = .text a := by
  cases key with
  | text b => exact congrArg text (beq_iff_eq.1 h)
  | _ => cases h

theorem eq_of_text_same (h : (text a).same key = true) : key = .text a := by
  cases key with
  | text b => exact congrArg text (beq_iff_eq.1 h).symm
  | _ => cases h

/-- A pair that equals one with a text has the text as well. -/
theorem eq_of_pair_same {name : Value} (h : (tuple [name, .text a]).same key = true) :
    ∃ other, key = .tuple [other, .text a] := by
  unfold same at h
  split at h
  · rename_i items
    match items with
    | [] => cases h
    | [_] => simp [alikeItems] at h
    | [other, last] =>
        simp only [alikeItems, Bool.and_true, Bool.and_eq_true] at h
        exact ⟨other, by rw [eq_of_text_same h.2]⟩
    | _ :: _ :: _ :: _ => simp [alikeItems] at h
  · cases h

/-- A new entry hides no text but its own. -/
theorem lookup?_insertEntry_text_of_ne (hne : key ≠ .text a) (x : α) (entries : List (Value × α)) :
    lookup? (.text a) (insertEntry key x entries) = lookup? (.text a) entries := by
  induction entries with
  | nil => exact (isExact_text a).lookup?_cons_of_ne hne x []
  | cons entry rest ih =>
      obtain ⟨k, y⟩ := entry
      unfold insertEntry
      by_cases hk : k = .text a
      · subst hk
        rw [if_neg fun halike => hne (eq_of_alike_text halike), (isExact_text a).lookup?_cons_self,
          (isExact_text a).lookup?_cons_self]
      · split
        · rw [(isExact_text a).lookup?_cons_of_ne hk, (isExact_text a).lookup?_cons_of_ne hk]
        · rw [(isExact_text a).lookup?_cons_of_ne hk, (isExact_text a).lookup?_cons_of_ne hk, ih]

end Value

namespace Draft

open Talk

variable {lead : Option String} {d d' : Draft} {table a : String} {entries : List (Value × Value)}

def aliasFor? (d : Draft) (table : String) : Option String := Value.lookup? (.text table) (d.aliases.getD [])

def mappingOf : Value → List (Value × Value)
  | .map entries => entries
  | _ => []

/-- The entries of the mappings among values, which give a table or a field with its alias. -/
def mappedEntries (values : List Value) : List (Value × Value) := (flattened values).flatMap mappingOf

def nameEach (lead : Option String) (entries : List (Value × Value)) : Drafting Unit :=
  forM entries fun e => nameTable lead e.2 e.1

/-- Of all the entries for a table each has that alias. -/
def Agrees (lead : Option String) (d : Draft) (table a : String) (entries : List (Value × Value)) : Prop :=
  ∀ e ∈ entries, d.aliasedTable lead e.1 = .ok (.text table) → e.2 = .text a

theorem exec_nameTable_eq_ok {shortName named : Value} {x : Unit}
    (h : Talk.exec (nameTable lead shortName named) d = (.ok x, d')) : ∃ key name,
      d.aliasedTable lead named = .ok key ∧ shortName = .text name ∧
        d' = { d with aliases := some (Value.insertEntry key (Text.lower name) (d.aliases.getD [])) } := by
  unfold nameTable at h
  obtain ⟨_, _, hget, h⟩ := exec_bind_eq_ok h
  cases hget
  obtain ⟨key, d₁, hkey, h⟩ := exec_bind_eq_ok h
  rcases htable : d.aliasedTable lead named with fault | key'
  · rw [htable] at hkey
    cases hkey
  · rw [htable] at hkey
    cases hkey
    split at h
    · obtain ⟨_, _, hmodify, h⟩ := exec_bind_eq_ok h
      cases hmodify
      dsimp only at h
      split at h
      · cases h
        refine ⟨_, _, rfl, rfl, ?_⟩
        change Draft.mk .. = Draft.mk ..
        simp [extended]
      · cases h
    · cases h

/-- An alias for one table leaves those of the others alone. -/
theorem aliasFor?_insertEntry {key : Value} {name : String} (hname : key = .text table → name = a)
    (h : key = .text table ∨ d.aliasFor? table = some a) :
    Draft.aliasFor? { d with aliases := some (Value.insertEntry key name (d.aliases.getD [])) } table = some a := by
  unfold aliasFor? at h ⊢
  rw [Option.getD_some]
  by_cases hkey : key = .text table
  · rw [hkey, (Value.isExact_text table).lookup?_insertEntry_self, hname hkey]
  · rw [Value.lookup?_insertEntry_text_of_ne hkey]
    exact h.resolve_left hkey

/-- The aliases come in one by one. A table has the one that all entries for it agree on. -/
theorem exec_nameEach_eq_ok {x : Unit} (hlower : Text.lower a = a)
    (h : Talk.exec (nameEach lead entries) d = (.ok x, d')) :
    (∃ aliases, d' = { d with aliases }) ∧ ∀ table, Agrees lead d table a entries →
      (∃ e ∈ entries, d.aliasedTable lead e.1 = .ok (.text table)) ∨ d.aliasFor? table = some a →
        d'.aliasFor? table = some a := by
  induction entries generalizing d with
  | nil =>
      cases h
      refine ⟨⟨d'.aliases, rfl⟩, fun table _ htable => htable.resolve_left ?_⟩
      rintro ⟨e, he, -⟩
      cases he
  | cons e rest ih =>
      rw [nameEach, List.forM_cons] at h
      obtain ⟨⟨⟩, d₁, hfirst, hrest⟩ := exec_bind_eq_ok h
      obtain ⟨key, name, hkey, hname, rfl⟩ := exec_nameTable_eq_ok hfirst
      obtain ⟨⟨aliases, rfl⟩, hlater⟩ := ih hrest
      refine ⟨⟨aliases, rfl⟩, fun table hagrees htable => ?_⟩
      obtain ⟨hhead, htail⟩ := List.forall_mem_cons.1 hagrees
      refine hlater table htail ?_
      have hown : key = .text table → Text.lower name = a := by
        rintro rfl
        have hshort := hhead hkey
        rw [hname] at hshort
        cases hshort
        exact hlower
      rcases htable with ⟨e', he', htable⟩ | htable
      · rcases List.mem_cons.1 he' with rfl | he'
        · refine .inr (aliasFor?_insertEntry hown (.inl ?_))
          exact Except.ok.inj (hkey.symm.trans htable)
        · exact .inl ⟨e', he', htable⟩
      · exact .inr (aliasFor?_insertEntry hown (.inr htable))

theorem exec_mapM_nameTable {names : List Value}
    (h : Talk.exec (entries.mapM fun e => do
      nameTable lead e.2 e.1
      pure e.1) d = (.ok names, d')) :
    Talk.exec (nameEach lead entries) d = (.ok (), d') := by
  induction entries generalizing d names with
  | nil =>
      cases h
      rfl
  | cons e rest ih =>
      rw [List.mapM_cons, bind_assoc] at h
      obtain ⟨⟨⟩, d₁, hfirst, h⟩ := exec_bind_eq_ok h
      rw [pure_bind] at h
      obtain ⟨names, d₂, hrest, h⟩ := exec_bind_eq_ok h
      cases h
      rw [nameEach, List.forM_cons, Talk.exec_bind, hfirst]
      exact ih hrest

theorem exec_flatMapM_nameTable {values names : List Value}
    (h : Talk.exec (values.flatMapM fun
      | .map entries => entries.mapM fun (name, shortName) => do
        nameTable lead shortName name
        pure name
      | v => pure [v]) d = (.ok names, d')) :
    Talk.exec (nameEach lead (values.flatMap mappingOf)) d = (.ok (), d') := by
  induction values generalizing d names with
  | nil =>
      rw [List.flatMapM_nil] at h
      cases h
      rfl
  | cons v rest ih =>
      rw [List.flatMapM_cons] at h
      obtain ⟨front, d₁, hfront, h⟩ := exec_bind_eq_ok h
      obtain ⟨back, d₂, hback, h⟩ := exec_bind_eq_ok h
      cases h
      rw [List.flatMap_cons, nameEach, List.forM_append, Talk.exec_bind]
      cases v with
      | map entries =>
          have hentries := exec_mapM_nameTable hfront
          unfold nameEach at hentries
          rw [mappingOf, hentries]
          exact ih hback
      | _ =>
          cases hfront
          exact ih hback

/-- What declares tables gives them their aliases before the tables themselves come in. -/
theorem exec_declareTables_eq_ok {values : List Value} {x : Unit} (hne : clearsTables values = false)
    (h : Talk.exec (declareTables lead values) d = (.ok x, d')) : ∃ d₁,
      Talk.exec (nameEach lead (mappedEntries values)) d = (.ok (), d₁) ∧
        d' = { d₁ with tables := .declared ((declaredTables values).map (NameScope.tables.addPrefixOne lead)) } := by
  have htables := tables_of_declareTables h
  unfold declareTables at h
  rw [hne, if_neg Bool.false_ne_true] at h
  obtain ⟨names, d₁, hnames, hmodify⟩ := exec_bind_eq_ok h
  cases hmodify
  refine ⟨d₁, exec_flatMapM_nameTable hnames, ?_⟩
  rw [← htables]
  rfl

/-- A text names the table with the prefix in front. -/
theorem aliasedTable_text (lead : Option String) (d : Draft) (table : String) :
    d.aliasedTable lead (.text table) = .ok (.text (lead.getD "" ++ table)) := by
  by_cases htable : table = ""
  · subst htable
    rfl
  · have htruthy : (Value.text table).isTruthy = true := bne_iff_ne.2 htable
    change (do
      let name ← if (Value.text table).isTruthy then (Value.text table).written else pure ""
      pure (Value.text (lead.getD "" ++ name)) : Except Fault Value) = _
    rw [htruthy]
    rfl

section Mapped

variable {values : List Value} {entry : Value × Value}

theorem clearsTables_of_mem (h : entry ∈ mappedEntries values) : clearsTables values = false := by
  match values with
  | [] => cases h
  | [v] =>
      cases v with
      | null => cases h
      | _ => rfl
  | _ :: _ :: _ => rfl

theorem mem_declaredTables (h : entry ∈ mappedEntries values) : entry.1 ∈ declaredTables values := by
  unfold declaredTables
  rw [clearsTables_of_mem h, if_neg Bool.false_ne_true]
  obtain ⟨v, hv, hentry⟩ := List.mem_flatMap.1 h
  refine List.mem_flatMap.2 ⟨v, hv, ?_⟩
  cases v with
  | map entries => exact List.mem_map_of_mem hentry
  | _ => cases hentry

end Mapped

end Draft

end SqlBuilder
