import SqlBuilder.Proofs.Session.Probing
import SqlBuilder.Proofs.Session.Selecting
import SqlBuilder.Proofs.Session.Tables

/-!
An update, or an insertion where there is no row. In a session without hooks the statement that looks for a row goes to
the driver first. What becomes of it decides on the statement that follows: the update or the insertion that the builder
stands for by itself, or none.
-/

namespace SqlBuilder

open Act Session Footprint

variable {env : Surroundings} {K P : Session → Prop} {s t u : Session} {id c : Nat} {b bc : Builder} {q : Query}

/-- A clone is the same builder with a draft of its own and without a pending result. -/
theorem Declare.builder_clone {depth : Nat} (h : (clone depth id).exec env s = (.ok c, t)) :
    ∃ b m, s.builders[id]? = some b ∧ t.builders[c]? = some { b with draft := m, pending := none } := by
  cases depth with
  | zero => cases h
  | succ depth =>
      obtain ⟨b, u, hbuilder, h⟩ := exec_bind_eq_ok h
      obtain ⟨hb, -⟩ := exec_builder_eq_ok hbuilder
      obtain ⟨d, _, -, h⟩ := exec_bind_eq_ok h
      obtain ⟨joins, _, -, h⟩ := exec_bind_eq_ok h
      obtain ⟨m, _, -, h⟩ := exec_bind_eq_ok h
      cases h
      exact ⟨b, m, hb, Array.getElem?_push_size⟩

/-- The tables of a builder that compiles can be looked up among the hooks. -/
theorem Session.attendable_of_compile (hb : s.builders[id]? = some b)
    (hq : ((compile id .select).exec env s).1 = .ok q) : ∀ table ∈ (s.declared id).tables.toList, table.Attendable := by
  rcases hcompile : (compile id .select).exec env s with ⟨outcome, u⟩
  rw [hcompile] at hq
  obtain rfl : outcome = .ok q := hq
  obtain ⟨clauses, own, _, _, hclauses, hown, -⟩ := compile_select_eq_ok hb hcompile
  obtain ⟨_, _, _, _, _, _, -, -, -, rfl⟩ := Resolve.exec_selectClauses_eq_ok hclauses
  rw [declared_eq hb]
  exact Clauses.attendable_of_select hown

namespace Execute

/-- A builder that may not execute, and has no pending result, selects nothing. -/
theorem exec_selectRows_refused {fault : Fault} (hs : P s) (hq : Settled P env (compile id .select) (.ok q))
    (hnoted : ∀ t last, P t → P { t with lastStatement := last }) (hhookless : ∀ t, P t → t.Hookless)
    (hbuilder : ∀ t, P t → t.builders[id]? = some b) (hpending : b.pending = none)
    (htables : ∀ t, P t → ∀ table ∈ t.tablesOf id, table.Attendable)
    (hshut : ∀ t, P t → (requireOpen id).exec env t = (.error fault, t)) :
    ∃ t, (selectRows id).exec env s = (.error fault, t) ∧ P t := by
  have hprepare : ∀ t, P t → ∃ i u, (prepare id .select).exec env t = (.ok i, u) ∧ P u := by
    intro t ht
    obtain ⟨u, hu, hPu⟩ := hq t ht
    refine ⟨q.issued u.driver.hasEscapes, { u with lastStatement := some (q.issued u.driver.hasEscapes) }, ?_,
      hnoted u _ hPu⟩
    unfold prepare
    rw [exec_bind_ok hu]
    rfl
  obtain ⟨early, t, hearly, ht⟩ := hprepare s hs
  obtain ⟨i, u, hi, hu⟩ := hprepare t ht
  have hfire : (fire id .beforeSelect (some early) .null).exec env t = (.ok [], t) := by
    rw [exec_fire_hookless (hhookless t ht) (hbuilder t ht), if_pos (htables t ht)]
  have hrun : (run id i).exec env u = (.error fault, u) := exec_bind_error (hshut u hu)
  refine ⟨u, ?_, hu⟩
  unfold selectRows
  rw [exec_bind_ok hearly, exec_bind_ok hfire, exec_bind_ok hi, exec_bind_ok (exec_builder_of_some (hbuilder u hu)),
    hpending]
  exact exec_bind_error hrun

/-- The first row of a builder that makes no objects of its rows is that of its selection with one row as its limit. -/
theorem exec_first {outcome : Except Fault (List Row)} (hbc : t.builders[c]? = some bc) (hfactory : bc.factory = .null)
    (h : (selectRows c).exec env (t.capped bc.draft) = (outcome, u)) (hafter : u.builders[c]? = some bc) :
    (first c).exec env t = (outcome.map fun rows => (rows.head?.map Value.map).getD .null, u) := by
  have hlimit : (Act.modifyDraft c fun d => { d with limit := some (.int 1) }).exec env t =
      (.ok ⟨⟩, t.capped bc.draft) := exec_modifyDraft hbc _
  unfold first
  rw [exec_bind_ok hlimit]
  unfold fetchAll
  cases outcome with
  | error fault => exact exec_bind_error (exec_bind_error h)
  | ok rows =>
      rw [exec_bind, exec_bind_ok h, exec_bind_ok (exec_builder_of_some hafter), hfactory]
      change (_, _) = _
      cases rows with
      | nil => rfl
      | cons row rest => rfl

/-- Without hooks an update that compiles is handed to the driver, whose result it gives. -/
theorem exec_update_hookless {data : Value} (hcompile : (compile id (.update data)).exec env s = (.ok q, t))
    (hdriver : t.driver = s.driver) (hhookless : t.Hookless) (hb : t.builders[id]? = some b)
    (htables : ∀ table ∈ t.tablesOf id, table.Attendable) (hopen : (requireOpen id).exec env t = (.ok (), t)) :
    (update id data).exec env s =
      ((s.driver.execute (.text q.sql) q.bindings).1.mapError ((t.noting q).called q.execution).raised,
        (t.noting q).called q.execution) := by
  have hprepare : (prepare id (.update data)).exec env s = (.ok (q.issued t.driver.hasEscapes), t.noting q) :=
    exec_bind_ok hcompile
  have hfire : ∀ (v : Session) event arguments, Standing t v →
      (fire id event (some (q.issued t.driver.hasEscapes)) arguments).exec env v = (.ok [], v) := by
    intro v event arguments hv
    rw [Transaction.exec_fire_standing hhookless hb env hv, if_pos htables]
  have hopen' : (requireOpen id).exec env (t.noting q) = (.ok (), t.noting q) := by
    rw [exec_requireOpen_eq (t := t.noting q) hb hb rfl rfl, hopen]
  have hrun := Execution.exec_run_eq (i := q.issued t.driver.hasEscapes) hopen' rfl
  change _ = ((t.driver.execute (.text q.sql) q.bindings).1.mapError _, (t.noting q).called q.execution) at hrun
  rw [hdriver] at hrun
  unfold update around
  rw [exec_bind_ok hprepare, exec_bind_ok (hfire _ _ _ (standing_noting t q))]
  cases hexecuted : (s.driver.execute (.text q.sql) q.bindings).1 with
  | error fault =>
      rw [hexecuted] at hrun
      exact exec_bind_error hrun
  | ok result =>
      rw [hexecuted] at hrun
      have hstanding : Standing t ((t.noting q).called q.execution) :=
        trans_of Standing (standing_noting t q) (standing_called (c := q.execution) _ trivial)
      exact (exec_bind_ok hrun).trans (exec_bind_ok (hfire _ _ _ hstanding))

end Execute

namespace Session

/-- Builders and drafts may have been added, and the driver may have been asked for something. All that there has been
is the same. -/
structure Holding (s t : Session) : Prop where
  hooks : t.hooks = s.hooks
  scopes : t.scopes = s.scopes
  builders : ∀ k < s.builders.size, t.builders[k]? = s.builders[k]?
  drafts : ∀ n < s.drafts.size, t.drafts[n]? = s.drafts[n]?
  size : s.builders.size ≤ t.builders.size ∧ s.drafts.size ≤ t.drafts.size
  engine : t.driver.engine = s.driver.engine

instance : IsPreorder Session Holding where
  refl _ := ⟨rfl, rfl, fun _ _ => rfl, fun _ _ => rfl, ⟨le_refl _, le_refl _⟩, rfl⟩
  trans _ _ _ h h' := {
    hooks := h'.hooks.trans h.hooks
    scopes := h'.scopes.trans h.scopes
    builders := fun k hk => (h'.builders k (hk.trans_le h.size.1)).trans (h.builders k hk)
    drafts := fun n hn => (h'.drafts n (hn.trans_le h.size.2)).trans (h.drafts n hn)
    size := ⟨h.size.1.trans h'.size.1, h.size.2.trans h'.size.2⟩
    engine := h'.engine.trans h.engine }

theorem Grown.holding (h : s.Grown t) : Holding s t :=
  ⟨h.hooks, h.scopes, h.builders, h.drafts, h.size, congrArg Driver.engine h.driver⟩

theorem Standing.holding (h : Standing s t) : Holding s t where
  hooks := h.hooks
  scopes := h.scopes
  builders k _ := by rw [h.builders]
  drafts n _ := by rw [h.drafts]
  size := by
    rw [h.builders, h.drafts]
    exact ⟨le_refl _, le_refl _⟩
  engine := h.engine

namespace Holding

variable (h : Holding s t)

include h

theorem hookless (hs : s.Hookless) : t.Hookless := by
  unfold Hookless
  rw [h.hooks]
  exact hs

theorem builder (hb : s.builders[id]? = some b) : t.builders[id]? = some b :=
  (h.builders id (Array.getElem?_eq_some_iff.1 hb).1).trans hb

theorem declared (hs : s.Linked) (hb : s.builders[id]? = some b) : t.declared id = s.declared id := by
  rw [declared_eq hb, declared_eq (h.builder hb), h.drafts _ (hs.draft id b hb)]

theorem tablesOf (hs : s.Linked) (hb : s.builders[id]? = some b) : t.tablesOf id = s.tablesOf id := by
  rw [tablesOf_eq_declared, tablesOf_eq_declared, h.declared hs hb]

theorem insertion (hs : s.Linked) (hb : s.builders[id]? = some b) (verb : InsertVerb) (row : Row) :
    t.insertion env id verb row = s.insertion env id verb row := by
  unfold Session.insertion
  rw [exec_compile_insert hb, exec_compile_insert (h.builder hb), h.declared hs hb, h.engine]

theorem sustains (hs : s.Linked) (hid : id < s.builders.size) : (s.footprint id).Sustains s t where
  drafts n hn := h.drafts n ((hs.closed_footprint hid).kept n hn)
  builders _ _ _ hb := ⟨_, h.builder hb, rfl⟩
  engine := h.engine

theorem sustained (hs : s.Linked) (hid : id < s.builders.size) : Sustained env id s t :=
  hs.sustained hid (h.sustains hs hid)

theorem requireOpen (hb : s.builders[id]? = some b) :
    (Execute.requireOpen id).exec env t = (((Execute.requireOpen id).exec env s).1, t) :=
  Execute.exec_requireOpen_eq hb (h.builder hb) rfl h.scopes

end Holding

/-! ### An update or an insertion -/

/-- What becomes of an update, or an insertion where there is no row: what is given back or raised, and the session that
is left. The statement that looks for a row is given. -/
inductive Upserts (env : Surroundings) (id : Nat) (row : Row) (s : Session) (probe : Query) :
    Except Fault Value → Session → Prop where
  /-- There is no copy of the builder. Nothing is executed. -/
  | uncopied {fault : Fault} {u : Session} (h : ((Declare.clone env.depth id).exec env s).1 = .error fault)
      (hgrown : s.Grown u) : Upserts env id row s probe (.error fault) u
  /-- The builder works in a transaction that has ended. Nothing is executed. -/
  | refused {fault : Fault} {u : Session} (h : ((Execute.requireOpen id).exec env s).1 = .error fault)
      (hgrown : s.Grown u) : Upserts env id row s probe (.error fault) u
  /-- The driver fails to look for a row. Nothing else is executed. -/
  | failed {fault : Fault} {u : Session} (hexecuted : Executed s probe u)
      (h : (s.driver.execute (.text probe.sql) probe.bindings).1 = .error fault) :
      Upserts env id row s probe (.error (u.raised fault)) u
  /-- There is a row, but no update. Nothing else is executed. -/
  | unmade {result : QueryResult} {fault : Fault} {u v : Session} (hexecuted : Executed s probe u)
      (h : (s.driver.execute (.text probe.sql) probe.bindings).1 = .ok result) (hrows : result.rows ≠ [])
      (hmade : ((compile id (.update (.map row))).exec env s).1 = .error fault) (hgrown : u.Grown v) :
      Upserts env id row s probe (.error fault) v
  /-- There is a row. The update of the builder is executed, and nothing else. -/
  | updated {result : QueryResult} {q : Query} {u v : Session} (hexecuted : Executed s probe u)
      (h : (s.driver.execute (.text probe.sql) probe.bindings).1 = .ok result) (hrows : result.rows ≠ [])
      (hmade : ((compile id (.update (.map row))).exec env s).1 = .ok q) (hupdated : Executed u q v) :
      Upserts env id row s probe
        (((u.driver.execute (.text q.sql) q.bindings).1.mapError v.raised).map QueryResult.toValue) v
  /-- There is no row. The insertion of the builder is executed, and nothing else. -/
  | inserted {result : QueryResult} {outcome : Except Fault Value} {ms : List Move} {u v : Session}
      (hexecuted : Executed s probe u) (h : (s.driver.execute (.text probe.sql) probe.bindings).1 = .ok result)
      (hrows : result.rows = [])
      (hends : Transaction.RowEnds env id u (s.insertion env id .insert row) outcome ms v) :
      Upserts env id row s probe outcome v

section Upsert

variable (hs : s.Linked) (hhookless : s.Hookless) (hb : s.builders[id]? = some b)

include hs hhookless hb

/-- The row that is found is updated. -/
theorem upserts_update {row : Row} {probe : Query} {result : QueryResult} (hplacid : Placid env id s K)
    (htables : ∀ table ∈ s.tablesOf id, table.Attendable)
    (hopen : ((Execute.requireOpen id).exec env s).1 = .ok ()) (hexecuted : Executed s probe t)
    (hfound : (s.driver.execute (.text probe.sql) probe.bindings).1 = .ok result) (hrows : result.rows ≠ [])
    (hst : Holding s t) (hK : K t) : ∃ outcome u,
      (Execute.update id (.map row) >>= fun result => pure result.toValue).exec env t = (outcome, u) ∧
      Upserts env id row s probe outcome u ∧ Holding s u := by
  have hid : id < s.builders.size := (Array.getElem?_eq_some_iff.1 hb).1
  obtain ⟨u, hcompile, hgrown, -⟩ := hplacid.settled_compile hs hid hK (hst.sustains hs hid) (.update (.map row)) t
    ⟨.refl t, hK⟩
  have hsu : Holding s u := trans_of Holding hst hgrown.holding
  cases hmade : ((compile id (.update (.map row))).exec env s).1 with
  | error fault =>
      rw [hmade] at hcompile
      exact ⟨_, u, exec_bind_error (exec_bind_error (exec_bind_error hcompile)),
        .unmade hexecuted hfound hrows hmade hgrown, hsu⟩
  | ok q =>
      rw [hmade] at hcompile
      have hopen' : (Execute.requireOpen id).exec env u = (.ok (), u) := by rw [hsu.requireOpen hb, hopen]
      have hupdate := Execute.exec_update_hookless hcompile hgrown.driver (hsu.hookless hhookless) (hsu.builder hb)
        (hsu.tablesOf hs hb ▸ htables) hopen'
      have hstanding : Standing u ((u.noting q).called q.execution) :=
        trans_of Standing (standing_noting u q) (standing_called (c := q.execution) _ trivial)
      have hnoted : Executed u q ((u.noting q).called q.execution) := ⟨rfl, rfl, rfl⟩
      refine ⟨_, (u.noting q).called q.execution, ?_,
        .updated hexecuted hfound hrows hmade (hnoted.behind hgrown.driver hgrown.journal),
        trans_of Holding hsu hstanding.holding⟩
      rw [exec_bind, hupdate]
      cases (t.driver.execute (.text q.sql) q.bindings).1 with
      | error fault => rfl
      | ok result => rfl

/-- A copy of the builder looks for the first row, unless the builder works in a transaction that has ended. -/
theorem exec_probe (hfactory : b.factory = .null) (hplacid : Placid env id s K)
    (hq : ((compile id .select).exec env s).1 = .ok q) {depth : Nat} {tree : SelectTree} {probe : Query}
    (htree : ((Resolve.select env.depth id).exec env s).1 = .ok tree)
    (hprobe : tree.capped.render (.ofEngine s.driver.engine) = .ok probe)
    (hclone : (Declare.clone depth id).exec env s = (.ok c, t)) :
    (∃ fault u, ((Execute.requireOpen id).exec env s).1 = .error fault ∧
      (Execute.first c).exec env t = (.error fault, u) ∧ s.Grown u) ∨
    ((Execute.requireOpen id).exec env s).1 = .ok () ∧ ∃ u, Executed s probe u ∧ Holding s u ∧ K u ∧
      (Execute.first c).exec env t = (((s.driver.execute (.text probe.sql) probe.bindings).1.mapError u.raised).map
        fun result => (result.rows.head?.map Value.map).getD .null, u) := by
  have hid : id < s.builders.size := (Array.getElem?_eq_some_iff.1 hb).1
  have hcopied := Declare.copied_clone hs hclone
  obtain ⟨b', m, hb', hbc⟩ := Declare.builder_clone hclone
  obtain rfl : b = b' := Option.some.inj (hb.symm.trans hb')
  let bc : Builder := { b with draft := m, pending := none }
  obtain ⟨tree', probe', htree', -, hprobe', hsettled⟩ := hplacid.settled_probe hs hid hclone hbc hq
  obtain rfl : tree = tree' := Except.ok.inj (htree.symm.trans htree')
  obtain rfl : probe = probe' := Except.ok.inj (hprobe.symm.trans hprobe')
  have hfresh : s.drafts.size ≤ m := by
    obtain ⟨copy, hcopy, hsize⟩ := hcopied.fresh
    obtain rfl : bc = copy := Option.some.inj (hbc.symm.trans hcopy)
    exact hsize
  let w : Session := t.capped m
  let P : Session → Prop := fun u => w.Grown u ∧ K u
  have hw : Added s w := ((Added.clone depth id).of_exec hclone).capped hfresh
  have hbw : w.builders[c]? = some bc := hbc
  have hstart : P w := ⟨.refl w, hplacid.added s w hplacid.start hw⟩
  have hgrown : ∀ u, P u → s.Grown u := fun u hu => trans_of Session.Grown hw.grown hu.1
  have hcopy : ∀ u, P u → u.builders[c]? = some bc := fun u hu => hu.1.holding.builder hbw
  have hrequire : ∀ u, P u → (Execute.requireOpen c).exec env u = (((Execute.requireOpen id).exec env s).1, u) :=
    fun u hu => Execute.exec_requireOpen_eq hb (hcopy u hu) rfl (hgrown u hu).scopes
  have hhookless' : ∀ u, P u → u.Hookless := fun u hu => (hgrown u hu).holding.hookless hhookless
  have hnoted : ∀ u last, P u → P { u with lastStatement := last } :=
    fun u last hu => ⟨hu.1.noting last, hplacid.passed u u.driver u.journal last hu.2 rfl⟩
  have htables : ∀ u, P u → ∀ table ∈ u.tablesOf c, table.Attendable := by
    intro u hu
    have hsame : w.tablesOf c = t.tablesOf c := by
      rw [tablesOf_eq_declared, tablesOf_eq_declared]
      exact declared_capped t m (f := fun d => d.tables.toList) (fun _ => rfl) c
    rw [hu.1.holding.tablesOf (hcopied.linked.capped m) hbw, hsame, hcopied.tablesOf hs hid, tablesOf_eq_declared]
    exact attendable_of_compile hb hq
  rcases hopen : ((Execute.requireOpen id).exec env s).1 with fault | ⟨⟨⟩⟩
  · rw [hopen] at hrequire
    obtain ⟨u, hselect, hu⟩ := Execute.exec_selectRows_refused hstart hsettled hnoted hhookless' hcopy rfl htables
      hrequire
    exact .inl ⟨fault, u, rfl, Execute.exec_first hbc hfactory hselect (hcopy u hu), hgrown u hu⟩
  · rw [hopen] at hrequire
    have hfooting : Footing env c w P := {
      start := hstart
      connection := fun u hu => ⟨hu.1.driver, hu.1.journal⟩
      hookless := hhookless'
      vacant := fun u hu => ⟨bc, hcopy u hu, rfl⟩
      isOpen := hrequire
      noted := fun u i hu => hnoted u (some i) hu }
    obtain ⟨v, hv, hexecuted, hselect⟩ := hfooting.exec_selectRows hsettled htables
    let u : Session := v.called probe.execution
    have hpassed : Standing v u := standing_called (c := probe.execution) _ trivial
    have hdriver : w.driver = s.driver := hw.grown.driver
    refine .inr ⟨rfl, u, hexecuted.behind hdriver hw.grown.journal,
      trans_of Holding (hgrown v hv).holding hpassed.holding,
      hplacid.passed v u.driver u.journal v.lastStatement hv.2 hpassed.engine, ?_⟩
    rw [Execute.exec_first hbc hfactory hselect (hcopy v hv), hdriver]
    cases (s.driver.execute (.text probe.sql) probe.bindings).1 with
    | error fault => rfl
    | ok result => rfl

/-- An update, or an insertion where there is no row, first has the statement of the builder executed with one row as
its limit. If that gives a row it is followed by the update of the builder, and otherwise by its insertion. The builder
is as it was, whatever comes of it. -/
theorem upserts_updateOrInsert (hfactory : b.factory = .null) (hplacid : Placid env id s K)
    (hq : ((compile id .select).exec env s).1 = .ok q) (row : Row) : ∃ tree probe outcome u,
      ((Resolve.select env.depth id).exec env s).1 = .ok tree ∧ tree.render (.ofEngine s.driver.engine) = .ok q ∧
      tree.capped.render (.ofEngine s.driver.engine) = .ok probe ∧
      ((BuilderCall.updateOrInsert (.map row)).perform id).exec env s = (outcome, u) ∧
      Upserts env id row s probe outcome u ∧ Holding s u ∧ Sustained env id s u := by
  have hid : id < s.builders.size := (Array.getElem?_eq_some_iff.1 hb).1
  obtain ⟨tree, v, htree, hrender⟩ := Resolve.exists_tree hb hq
  replace htree := congrArg Prod.fst htree
  obtain ⟨probe, hprobe⟩ := SelectTree.render_capped hrender
  suffices h : ∃ outcome u, (Transaction.updateOrInsert id (.map row)).exec env s = (outcome, u) ∧
      Upserts env id row s probe outcome u ∧ Holding s u by
    obtain ⟨outcome, u, hexec, hupserts, hholding⟩ := h
    exact ⟨tree, probe, outcome, u, htree, hrender, hprobe, hexec, hupserts, hholding, hholding.sustained hs hid⟩
  unfold Transaction.updateOrInsert
  rw [exec_bind_ok (exec_read env s)]
  rcases hclone : (Declare.clone env.depth id).exec env s with ⟨copied, t⟩
  cases copied with
  | error fault =>
      have hgrown : s.Grown t := ((Added.clone env.depth id).of_exec hclone).grown
      exact ⟨_, t, exec_bind_error hclone, .uncopied (congrArg Prod.fst hclone) hgrown, hgrown.holding⟩
  | ok c =>
      rw [exec_bind_ok hclone]
      obtain ⟨fault, u, hclosed, hfirst, hgrown⟩ | ⟨hopen, u, hexecuted, hholding, hK, hfirst⟩ :=
        exec_probe hs hhookless hb hfactory hplacid hq htree hprobe hclone
      · exact ⟨_, u, exec_bind_error hfirst, .refused hclosed hgrown, hgrown.holding⟩
      · cases hfound : (s.driver.execute (.text probe.sql) probe.bindings).1 with
        | error fault =>
            rw [hfound] at hfirst
            exact ⟨_, u, exec_bind_error hfirst, .failed hexecuted hfound, hholding⟩
        | ok result =>
            rw [hfound] at hfirst
            replace hfirst : (Execute.first c).exec env t =
                (.ok ((result.rows.head?.map Value.map).getD .null), u) := hfirst
            cases hrows : result.rows with
            | nil =>
                obtain ⟨outcome, ms, v, hrow, hends⟩ := Transaction.rowEnds_insertRow (hholding.hookless hhookless)
                  (hholding.builder hb) row env .insert
                rw [hholding.insertion hs hb] at hends
                have hinsert : (Transaction.insert .insert id (.map row)).exec env u = (outcome, v) := by
                  rw [Transaction.insert]
                  exact hrow
                rw [hrows] at hfirst
                rw [exec_bind_ok hfirst]
                exact ⟨outcome, v, hinsert, .inserted hexecuted hfound hrows hends,
                  trans_of Holding hholding hends.standing.holding⟩
            | cons first rest =>
                have htables : ∀ table ∈ s.tablesOf id, table.Attendable := by
                  rw [tablesOf_eq_declared]
                  exact attendable_of_compile hb hq
                rw [hrows] at hfirst
                rw [exec_bind_ok hfirst]
                exact upserts_update hs hhookless hb hplacid htables hopen hexecuted hfound
                  (hrows ▸ List.cons_ne_nil first rest) hholding hK

end Upsert

/-- A comparison as a group keeps quiet. -/
theorem placid_comparing {column : String} {v : Value} {pieces : List Query}
    (hpieces : (Condition.test ⟨"AND", false⟩ (.text column) (.text "=") v).pieces (.ofEngine s.driver.engine) none
      true true = .ok pieces) (id : Nat) :
    Placid (.comparing column v) id s fun t => t.driver.engine = s.driver.engine where
  start := rfl
  added _ _ ht htu := (congrArg Driver.engine htu.grown.driver).trans ht
  passed _ _ _ _ ht hengine := hengine.trans ht
  groups _ _ _ _ script _ depth := by
    obtain ⟨outcome, hsettled⟩ := Resolve.settled_members_comparing hpieces script depth
    refine ⟨outcome, fun t ht => ?_⟩
    obtain ⟨u, hu, hgrown⟩ := hsettled t ht t (.refl t)
    exact ⟨u, hu, hgrown, (congrArg Driver.engine hgrown.driver).trans ht⟩

/-- The session with a connection that finds one of the people. -/
def finding (s : Session) : Session :=
  { s with driver := .scripted ⟨.mysql, [⟨none, some [[(.text "name", .text "Bob")]], .int 1, none⟩], none, none, none,
    0, .null, false⟩ }

/-- A builder that selects people of an age, and no more than three. -/
def adults : Session := finding (.ofDraft .mysql (.grouped "people"))

/-- The look for a person has a limit of its own, and the update has that of the builder. -/
theorem upserts_updateOrInsert_adults : ∃ u v,
    ((BuilderCall.updateOrInsert (.map [(.text "name", .text "Ada")])).perform 0).exec (.comparing "age" (.int 18))
      adults = (.ok (QueryResult.toValue { rowCount := .int 1, affectedRows := .int 1 }), v) ∧
    Executed adults ⟨"SELECT * FROM `people` WHERE (`age` = ?) LIMIT 1", [.int 18]⟩ u ∧
    Executed u ⟨"UPDATE `people` SET `name` = ? WHERE (`age` = ?) LIMIT 3", [.text "Ada", .int 18]⟩ v ∧
    Sustained (.comparing "age" (.int 18)) 0 adults v := by
  let wheres : List Condition := [.group ⟨"AND", false⟩ [.test ⟨"AND", false⟩ (.text "age") (.text "=") (.int 18)]]
  let own : Clauses := { Resolve.opening (.grouped "people") with wheres, limit := some (.int 3) }
  have htree : (StatementRequest.select.resolve 0).exec (.comparing "age" (.int 18)) adults =
      (.ok (.select (.mk own [])), _) := rfl
  obtain ⟨q, hrender⟩ : ∃ q, (StatementTree.select (.mk own [])).render (.ofEngine .mysql) = .ok q := ⟨_, rfl⟩
  have hprobe : (StatementTree.select (.mk own.capped [])).render (.ofEngine .mysql) =
      .ok ⟨"SELECT * FROM `people` WHERE (`age` = ?) LIMIT 1", [.int 18]⟩ :=
    StatementTree.render_eq_of_sql (by decide +kernel)
  have hupdate : ((StatementRequest.update (.map [(.text "name", .text "Ada")])).resolve 0).exec
      (.comparing "age" (.int 18)) adults = (.ok (.update own (.map [(.text "name", .text "Ada")])), _) := rfl
  have hmade : (StatementTree.update own (.map [(.text "name", .text "Ada")])).render (.ofEngine .mysql) =
      .ok ⟨"UPDATE `people` SET `name` = ? WHERE (`age` = ?) LIMIT 3", [.text "Ada", .int 18]⟩ :=
    StatementTree.render_eq_of_sql (by decide +kernel)
  have hcompiled := (congrArg Prod.fst (exec_compile hupdate)).trans hmade
  have hlinked : (ofDraft .mysql (.grouped "people")).Linked := linked_ofDraft rfl rfl
  have hplacid : Placid (.comparing "age" (.int 18)) 0 adults fun t => t.driver.engine = adults.driver.engine :=
    placid_comparing rfl 0
  obtain ⟨tree, probe, outcome, v, hown, -, hcapped, hexec, hupserts, -, hsustained⟩ :=
    upserts_updateOrInsert (s := adults) ⟨hlinked.draft, hlinked.join, hlinked.union⟩ (hookless_of_nil rfl) rfl rfl
      hplacid ((congrArg Prod.fst (exec_compile htree)).trans hrender)
      [(.text "name", .text "Ada")]
  obtain rfl : .mk own [] = tree := Except.ok.inj hown
  obtain rfl := Except.ok.inj (hcapped.symm.trans hprobe)
  cases hupserts with
  | uncopied h => cases h
  | refused h => cases h
  | failed _ h => cases h
  | unmade _ _ _ h => cases hcompiled.symm.trans h
  | inserted _ h hrows =>
      cases h
      cases hrows
  | @updated _ _ u _ hfound _ _ h hexecuted =>
      obtain rfl := Except.ok.inj (hcompiled.symm.trans h)
      refine ⟨u, v, ?_, hfound, hexecuted, hsustained⟩
      rw [hexec, hfound.driver]
      rfl

/-- A group that declares something on the builder itself, and one that declares something else in its second run: the
builder has another limit behind the call, and the update is not the one that it would have had executed before. -/
theorem not_upserts_updateOrInsert :
    ((grouped limiting).declared 0).limit = none ∧
    ((behind (grouped limiting) [(0, .updateOrInsert (.map [(.text "name", .text "Ada")]))]).declared 0).limit.bind
      Value.asInt? = some 5 ∧
    ((behind (finding (grouped wavering)) [(0, .update (.map [(.text "name", .text "Ada")]))]).lastStatement.bind
      fun i => i.sql.text?) = some "UPDATE `people` SET `name` = ? WHERE (`name` = ?)" ∧
    ((behind (finding (grouped wavering))
      [(0, .updateOrInsert (.map [(.text "name", .text "Ada")]))]).lastStatement.bind fun i => i.sql.text?) =
        some "UPDATE `people` SET `name` = ? WHERE (`age` = ?)" := by
  refine ⟨rfl, ?_, ?_, ?_⟩
  all_goals decide +kernel

end Session

end SqlBuilder
