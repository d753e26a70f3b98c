import SqlBuilder.Proofs.Session.Firing
import SqlBuilder.Proofs.Session.Independence
import SqlBuilder.Proofs.Session.Leading

/-!
The tables that builders declare. A declaration names them one by one, in lists and as the keys of mappings, and the
builder puts its prefix in front of each name, once. Whatever comes of a builder as a copy declares the same tables
without another prefix.
-/

namespace SqlBuilder

open Act Footprint

variable {α β : Type} {env : Surroundings} {s t : Session} {lead : Option String} {id c : Nat}

/-- The tables that values declare, as they are named there. -/
def declaredTables (values : List Value) : List Value :=
  if Draft.clearsTables values then []
  else (flattened values).flatMap fun
    | .map entries => entries.map (·.1)
    | v => [v]

theorem NameScope.addPrefixOne_text (lead : Option String) (name : String) :
    NameScope.tables.addPrefixOne lead (.text name) = .text (lead.getD "" ++ name) := by
  unfold addPrefixOne
  split
  · exact congrArg Value.text String.empty_append.symm
  · exact congrArg Value.text String.empty_append.symm
  · rfl

/-! ### A declaration -/

namespace Draft

open Talk

/-- When the change succeeds it gives that value. -/
def Gives (change : Drafting α) (x : α) : Prop := ∀ d y d', Talk.exec change d = (.ok y, d') → y = x

namespace Gives

theorem pure (x : α) : Gives (Pure.pure x) x := by
  intro d y d' h
  cases h
  rfl

theorem bind {change : Drafting β} {k : β → Drafting α} {v : β} {x : α} (hchange : Gives change v)
    (hk : Gives (k v) x) : Gives (change >>= k) x := by
  intro d y d'' h
  obtain ⟨w, d', hw, h⟩ := exec_bind_eq_ok h
  rw [hchange d w d' hw] at h
  exact hk d' y d'' h

/-- What the first change gives does not matter. -/
theorem behind {change : Drafting β} {k : β → Drafting α} {x : α} (hk : ∀ v, Gives (k v) x) :
    Gives (change >>= k) x := by
  intro d y d'' h
  obtain ⟨w, d', -, h⟩ := exec_bind_eq_ok h
  exact hk w d' y d'' h

theorem mapM {γ : Type} {f : γ → Drafting α} {g : γ → α} (hf : ∀ x, Gives (f x) (g x)) (xs : List γ) :
    Gives (xs.mapM f) (xs.map g) := by
  induction xs with
  | nil => exact pure _
  | cons x xs ih =>
      rw [List.mapM_cons, List.map_cons]
      exact (hf x).bind (ih.bind (pure _))

theorem flatMapM {γ : Type} {f : γ → Drafting (List α)} {g : γ → List α} (hf : ∀ x, Gives (f x) (g x))
    (xs : List γ) : Gives (xs.flatMapM f) (xs.flatMap g) := by
  induction xs with
  | nil =>
      rw [List.flatMapM_nil, List.flatMap_nil]
      exact pure _
  | cons x xs ih =>
      rw [List.flatMapM_cons, List.flatMap_cons]
      exact (hf x).bind (ih.bind (pure _))

end Gives

/-- Each of the tables has the prefix. -/
theorem tables_of_declareTables {values : List Value} {d d' : Draft} {x : Unit}
    (h : Talk.exec (declareTables lead values) d = (.ok x, d')) :
    d'.tables.toList = (declaredTables values).map (NameScope.tables.addPrefixOne lead) := by
  unfold declareTables at h
  unfold declaredTables
  by_cases hclears : clearsTables values = true
  · rw [if_pos hclears] at h ⊢
    cases h
    rfl
  · rw [if_neg hclears] at h ⊢
    obtain ⟨names, d'', hnames, h⟩ := exec_bind_eq_ok h
    cases h
    refine congrArg (List.map _) (Gives.flatMapM (fun v => ?_) _ d names d'' hnames)
    cases v with
    | map entries =>
        refine Gives.mapM (g := fun entry => entry.1) (fun entry => ?_) entries
        exact .behind fun _ => .pure entry.1
    | _ => exact .pure _

end Draft

namespace Declare

/-- A change of a draft that succeeds leaves everything else as it is. -/
theorem exec_drafting_eq_ok {change : Drafting α} {b : Builder} {x : α} (hb : s.builders[id]? = some b)
    (h : (Act.drafting id change).exec env s = (.ok x, t)) : ∃ d : Draft,
      Talk.exec change (s.drafts[b.draft]?.getD {}) = (.ok x, d) ∧
        t = { s with drafts := s.drafts.modify b.draft fun _ => d } := by
  unfold Act.drafting at h
  rw [exec_bind_ok (exec_draft hb)] at h
  rcases hrun : Talk.exec change (s.drafts[b.draft]?.getD {}) with ⟨outcome, d⟩
  rw [show (ExceptT.run change).run (s.drafts[b.draft]?.getD {}) = (outcome, d) from hrun] at h
  dsimp only at h
  rw [exec_bind_ok (exec_modifyDraft hb fun _ => d), exec_lift] at h
  obtain ⟨rfl, rfl⟩ := Prod.mk.inj h
  exact ⟨d, rfl, rfl⟩

/-- A declaration of tables changes the draft of the builder. -/
theorem exec_setTables_eq_ok {tables : List Value} {x : Unit}
    (h : (setTables id tables).exec env s = (.ok x, t)) : ∃ b, s.builders[id]? = some b ∧ ∃ d : Draft,
      t = { s with drafts := s.drafts.modify b.draft fun _ => d } ∧
        d.tables.toList = (declaredTables tables).map (NameScope.tables.addPrefixOne b.lead) := by
  obtain ⟨b, u, hbuilder, hrest⟩ := exec_bind_eq_ok h
  obtain ⟨hb, rfl⟩ := exec_builder_eq_ok hbuilder
  obtain ⟨d, hd, ht⟩ := exec_drafting_eq_ok hb hrest
  exact ⟨b, hb, d, ht, Draft.tables_of_declareTables hd⟩

theorem exec_newQuery_eq_ok (h : (newQuery id).exec env s = (.ok c, t)) : ∃ b : Builder,
    c = s.builders.size ∧ t = { s with drafts := s.drafts.push {}, builders := s.builders.push b } ∧
      b.draft = s.drafts.size ∧ b.lead = s.lead := by
  obtain ⟨b, u, hbuilder, hnew⟩ := exec_bind_eq_ok h
  obtain ⟨-, rfl⟩ := exec_builder_eq_ok hbuilder
  cases hnew
  exact ⟨_, rfl, rfl, rfl, rfl⟩

/-- A relation that allows new drafts and new builders allows copies. -/
theorem keeps_clone {R : Session → Session → Prop} [IsPreorder Session R]
    (hdraft : ∀ (s : Session) d, R s { s with drafts := s.drafts.push d })
    (hbuilder : ∀ (s : Session) b, R s { s with builders := s.builders.push b }) (depth id : Nat) :
    Keeps R env (clone depth id) :=
  Keeps.modular.clone .throw .builder .draft (fun d s => hdraft s d) (fun b s => hbuilder s b) depth id

end Declare

/-! ### The tables of a builder -/

namespace Session

theorem tablesOf_eq_declared (s : Session) (id : Nat) : s.tablesOf id = (s.declared id).tables.toList := by
  unfold tablesOf declared
  cases s.builders[id]? with
  | none => rfl
  | some b => rfl

/-- Nothing that keeps the drafts changes the tables of a builder. -/
theorem tablesOf_of_keeping (h : Keeping s t) (hs : s.Linked) (hid : id < s.builders.size) :
    t.tablesOf id = s.tablesOf id := by
  rw [tablesOf_eq_declared, tablesOf_eq_declared, h.declared_of_lt hs hid]

/-- A change of a draft is one for all builders that use it. -/
theorem tablesOf_modify (hs : s.Linked) {b : Builder} (hb : s.builders[id]? = some b) (n : Nat) (d : Draft) :
    ({ s with drafts := s.drafts.modify n fun _ => d } : Session).tablesOf id =
      if b.draft = n then d.tables.toList else s.tablesOf id := by
  rw [tablesOf_eq (s := { s with drafts := s.drafts.modify n fun _ => d }) hb, tablesOf_eq hb]
  dsimp only
  rw [Array.getElem?_modify, Array.getElem?_eq_getElem (hs.draft id b hb)]
  by_cases hn : b.draft = n
  · rw [if_pos hn.symm, if_pos hn]
    rfl
  · rw [if_neg (Ne.symm hn), if_neg hn]

theorem tablesOf_push {b : Builder} (hb : b.draft = s.drafts.size) :
    ({ s with drafts := s.drafts.push {}, builders := s.builders.push b } : Session).tablesOf s.builders.size = [] := by
  have hpushed : (s.builders.push b)[s.builders.size]? = some b := Array.getElem?_push_size
  rw [tablesOf_eq (s := { s with drafts := s.drafts.push {}, builders := s.builders.push b }) hpushed, hb]
  dsimp only
  rw [Array.getElem?_push_size]
  rfl

/-- A copy has the tables of its original. -/
theorem Copied.tablesOf (h : s.Copied t id c) (hs : s.Linked) (hid : id < s.builders.size) :
    t.tablesOf c = s.tablesOf id := by
  rw [tablesOf_eq_declared, h.mirrors.read (·.tables) fun _ _ => rfl, ← tablesOf_eq_declared,
    tablesOf_of_keeping h.keeping hs hid]

end Session

/-- What new drafts, builders, scopes and transactions of the driver do not change is the same behind a copy. -/
theorem Session.Derives.keeps {R : Session → Session → Prop} [IsPreorder Session R] (h : s.Derives env id c t)
    (hclone : Keeps R env (Declare.clone env.depth id))
    (hbuilder : ∀ scope, Keeps R env (Transaction.builderFor id scope)) (hopened : ∀ s : Session, R s s.opened)
    (hbegun : ∀ s : Session, R s (s.called .begin)) : R s t := by
  have hcopied : ∀ {u}, (Transaction.builderFor id s.scopes.size).exec env s.opened = (.ok c, u) → R s u :=
    fun hcopy => trans_of R (hopened s) ((hbuilder _).of_exec hcopy)
  cases h with
  | clone h => exact hclone.of_exec h
  | transaction h =>
      cases h with
      | shared hcopy hin => exact hcopied hcopy
      | @begun v _ hcopy hout hbegin =>
          obtain rfl : ((Execute.reported Driver.begin).exec env v).2 = t := congrArg Prod.snd hbegin
          rw [Execute.reported_snd]
          exact trans_of R (hcopied hcopy) (hbegun v)

end SqlBuilder
