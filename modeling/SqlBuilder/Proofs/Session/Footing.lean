import SqlBuilder.Proofs.Session.Mirroring
import SqlBuilder.Proofs.Transaction.Batch

/-!
The selection of a builder that no hooks run for and that has no pending result. One statement goes to the driver, and
what the driver gives are the rows. That holds in all states which are like the session around the builder, and a
session is like one that has grown out of it.
-/

namespace SqlBuilder

open Act Session

variable {P : Session → Prop} {env : Surroundings} {s t u : Session} {id : Nat} {b : Builder} {q : Query}

namespace Session

/-- The statement has been noted as the last one and handed to the driver, which has been asked for nothing else. -/
structure Executed (s : Session) (q : Query) (u : Session) : Prop where
  noted : u.lastStatement = some (q.issued s.driver.hasEscapes)
  driver : u.driver = q.execution.after s.driver
  journal : u.journal = s.journal ++ (q.execution.on s.driver).2.2.map Entry.wire

theorem Executed.behind (h : Executed t q u) (hdriver : t.driver = s.driver) (hjournal : t.journal = s.journal) :
    Executed s q u := by
  obtain ⟨hnoted, hafter, hentries⟩ := h
  rw [hdriver] at hnoted hafter hentries
  rw [hjournal] at hentries
  exact ⟨hnoted, hafter, hentries⟩

/-- In these states the builder can select at once: there are no hooks, it has no pending result, and its scope is open
if it works in one. The connection is as in the session, and which statement was noted last does not matter. -/
structure Footing (env : Surroundings) (id : Nat) (s : Session) (P : Session → Prop) : Prop where
  start : P s
  connection : ∀ t, P t → t.driver = s.driver ∧ t.journal = s.journal
  hookless : ∀ t, P t → t.Hookless
  vacant : ∀ t, P t → t.Vacant id
  isOpen : ∀ t, P t → (Execute.requireOpen id).exec env t = (.ok (), t)
  noted : ∀ t i, P t → P { t with lastStatement := some i }

namespace Footing

open Execute

theorem exec_prepare (h : Footing env id s P) (hq : Settled P env (compile id .select) (.ok q)) (ht : P t) :
    ∃ u, (prepare id .select).exec env t = (.ok (q.issued s.driver.hasEscapes), u) ∧ P u ∧
      u.lastStatement = some (q.issued s.driver.hasEscapes) := by
  obtain ⟨u, hu, hPu⟩ := hq t ht
  refine ⟨{ u with lastStatement := some (q.issued s.driver.hasEscapes) }, ?_, h.noted u _ hPu, rfl⟩
  have hissued : (Act.issued q).exec env u = (.ok (q.issued s.driver.hasEscapes), u) := by
    rw [← (h.connection u hPu).1]
    rfl
  unfold prepare
  rw [exec_bind_ok hu, exec_bind_ok hissued]
  rfl

theorem exec_fire (h : Footing env id s P) (htables : ∀ t, P t → ∀ table ∈ t.tablesOf id, table.Attendable) (ht : P t)
    (event : EventKind) (statement : Option Issued) (arguments : Value) :
    (fire id event statement arguments).exec env t = (.ok [], t) := by
  obtain ⟨b, hb, -⟩ := h.vacant t ht
  rw [exec_fire_hookless (h.hookless t ht) hb, if_pos (htables t ht)]

/-- The rows are those that the driver gives for the statement. -/
theorem exec_selectRows (h : Footing env id s P) (hq : Settled P env (compile id .select) (.ok q))
    (htables : ∀ t, P t → ∀ table ∈ t.tablesOf id, table.Attendable) : ∃ t, P t ∧ Executed s q (t.called q.execution) ∧
      (selectRows id).exec env s =
        (((s.driver.execute (.text q.sql) q.bindings).1.mapError (t.called q.execution).raised).map (·.rows),
          t.called q.execution) := by
  obtain ⟨u, hearly, hPu, -⟩ := h.exec_prepare hq h.start
  obtain ⟨t, hprepare, ht, hlast⟩ := h.exec_prepare hq hPu
  obtain ⟨hdriver, hjournal⟩ := h.connection t ht
  refine ⟨t, ht, ⟨hlast, ?_, ?_⟩, ?_⟩
  · rw [← hdriver]
    rfl
  · rw [← hdriver, ← hjournal]
    rfl
  obtain ⟨b, hb, hpending⟩ := h.vacant t ht
  have hrun := Execution.exec_run_eq (i := q.issued s.driver.hasEscapes) (h.isOpen t ht) rfl
  change _ = ((t.driver.execute (.text q.sql) q.bindings).1.mapError _, t.called q.execution) at hrun
  rw [hdriver] at hrun
  unfold selectRows
  rw [exec_bind_ok hearly, exec_bind_ok (h.exec_fire htables hPu _ _ _), exec_bind_ok hprepare,
    exec_bind_ok (exec_builder_of_some hb), hpending]
  cases hexecuted : (s.driver.execute (.text q.sql) q.bindings).1 with
  | error fault =>
      rw [hexecuted] at hrun
      exact exec_bind_error hrun
  | ok result =>
      rw [hexecuted] at hrun
      have hattend : ∀ table ∈ (t.called q.execution).tablesOf id, table.Attendable := htables t ht
      have hhookless : (t.called q.execution).Hookless := h.hookless t ht
      have hfire : (fire id .afterSelect (some (q.issued s.driver.hasEscapes)) (.map [timing])).exec env
          (t.called q.execution) = _ := exec_fire_hookless hhookless hb _ _ _
      rw [if_pos hattend] at hfire
      exact (exec_bind_ok hrun).trans (exec_bind_ok hfire)

end Footing

theorem exec_requireOpen (hb : s.builders[id]? = some b)
    (hopen : ∀ scope, b.role = .transaction scope → s.scopes[scope]?.getD none = none) :
    (Execute.requireOpen id).exec env s = (.ok (), s) := by
  unfold Execute.requireOpen
  rw [exec_bind_ok (exec_builder_of_some hb)]
  cases hrole : b.role with
  | transaction scope =>
      have hstatus : (Act.scopeStatus scope).exec env s = (.ok none, s) :=
        congrArg (fun status => ((.ok status : Except Fault (Option TransactionStatus)), s)) (hopen scope hrole)
      exact exec_bind_ok hstatus
  | _ => rfl

/-! ### Sessions that have grown -/

/-- Some builders and drafts have been added, and another statement may have been noted. -/
structure Grown (s t : Session) : Prop where
  driver : t.driver = s.driver
  journal : t.journal = s.journal
  hooks : t.hooks = s.hooks
  scopes : t.scopes = s.scopes
  builders : ∀ k < s.builders.size, t.builders[k]? = s.builders[k]?
  drafts : ∀ n < s.drafts.size, t.drafts[n]? = s.drafts[n]?
  size : s.builders.size ≤ t.builders.size ∧ s.drafts.size ≤ t.drafts.size

namespace Grown

theorem refl (s : Session) : s.Grown s := ⟨rfl, rfl, rfl, rfl, fun _ _ => rfl, fun _ _ => rfl, le_refl _, le_refl _⟩

theorem noting (h : s.Grown t) (last : Option Issued) : s.Grown { t with lastStatement := last } :=
  ⟨h.driver, h.journal, h.hooks, h.scopes, h.builders, h.drafts, h.size⟩

theorem footing (hs : s.Hookless) (hb : s.builders[id]? = some b) (hpending : b.pending = none)
    (hopen : ∀ scope, b.role = .transaction scope → s.scopes[scope]?.getD none = none) :
    Footing env id s s.Grown := by
  have hbuilder : ∀ t, s.Grown t → t.builders[id]? = some b :=
    fun t ht => (ht.builders id (Array.getElem?_eq_some_iff.1 hb).1).trans hb
  exact {
    start := .refl s
    connection := fun t ht => ⟨ht.driver, ht.journal⟩
    hookless := fun t ht => by
      unfold Hookless
      rw [ht.hooks]
      exact hs
    vacant := fun t ht => ⟨b, hbuilder t ht, hpending⟩
    isOpen := fun t ht => exec_requireOpen (hbuilder t ht) (ht.scopes ▸ hopen)
    noted := fun t i ht => ht.noting (some i) }

end Grown

theorem sustains_grown {p : Footprint} (hkept : ∀ n ∈ p.drafts, n < s.drafts.size) (h : s.Grown t) :
    p.Sustains s t where
  drafts n hn := h.drafts n (hkept n hn)
  builders k _ b hb := ⟨b, (h.builders k (Array.getElem?_eq_some_iff.1 hb).1).trans hb, rfl⟩
  engine := congrArg Driver.engine h.driver

end Session

end SqlBuilder
