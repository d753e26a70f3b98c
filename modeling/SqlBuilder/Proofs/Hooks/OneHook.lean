import SqlBuilder.Proofs.Hooks.Alone

/-!
A connection with one hook. Whatever has happened since it was set up, the hook runs for each builder once for each
declaration of its table: for builders whose tables have been declared, for builders that have come of them, and from
the registration to the removal, through whichever builders these were called.
-/

namespace SqlBuilder

open Act Session Execute

variable {depth : Nat} {env : Surroundings} {s t : Session} {lead : Option String} {kind : EventKind}
  {hook : Value} {isOn : Bool} {known : Nat → Option (List Value)} {id c : Nat}

namespace Session

def draftNumber? (s : Session) (id : Nat) : Option Nat := s.builders[id]?.map (·.draft)

def SameHooks (s t : Session) : Prop := t.hooks = s.hooks

instance : IsPreorder Session SameHooks where
  refl _ := rfl
  trans _ _ _ hst htu := htu.trans hst

/-- A copy is made without a look at the hooks. -/
theorem Derives.sameHooks (h : s.Derives env id c t) : s.SameHooks t := by
  have hclone : ∀ id, Keeps SameHooks env (Declare.clone env.depth id) :=
    fun id => Declare.keeps_clone (fun _ _ => rfl) (fun _ _ => rfl) env.depth id
  refine h.keeps (hclone id) (fun scope => ?_) (fun _ => rfl) fun _ => rfl
  refine .bind (fun _ => rfl) fun fresh => .read_bind (.bind (hclone id) fun copy => ?_)
  exact .bind (.builder copy) fun b => .bind (fun _ => rfl) fun _ => .pure fresh

/-- At first there are no hooks. -/
theorem hooks_ofSource {source : DriverSource} {config : Option ConnectionConfig}
    (h : (Started.ofSource source config).outcome = .ok s) : s.hooks = [] := by
  have hgreet : ∀ sql, Keeps SameHooks (Play.surroundings Play.maxDepth) (greet sql) := by
    refine fun sql => .tryCatch (.bind (fun t => ?_) fun _ => .pure _) fun fault => ?_
    · rw [exec_driver]
      rfl
    · split
      · exact .bind (.bind .get fun _ => .pure _) fun _ => .bind (.bind .get fun _ => .pure _) fun _ => .throw _
      · exact .throw _
  have hbuilder : Keeps SameHooks (Play.surroundings Play.maxDepth) (do
      Play.assign "it" (← Act.builderValue (← Act.newBuilder .query))) :=
    .bind (fun _ => rfl) fun _ => .bind (.bind (.builder _) fun _ => .pure _) fun _ _ => rfl
  have hkeeps : Keeps SameHooks (Play.surroundings Play.maxDepth) (start config) := by
    cases config with
    | none => exact hbuilder
    | some c => exact .bind (.bind .get fun _ => .pure _) fun _ => .bind (Keeps.modular.forM hgreet _) fun _ => hbuilder
  obtain ⟨driver, t, hstart, rfl⟩ := exec_start_of_source h
  exact hkeeps.of_exec hstart

/-- The hooks are the same, and so are the tables of the builders whose tables are known. -/
structure Retains (known : Nat → Option (List Value)) (s t : Session) : Prop where
  hooks : t.hooks = s.hooks
  tables : ∀ id tables, known id = some tables → t.tablesOf id = s.tablesOf id

/-- The hooks, the drafts, the scripts and the engine are the same, and the builders have the same drafts. -/
structure Still (s t : Session) : Prop where
  hooks : t.hooks = s.hooks
  drafts : t.drafts = s.drafts
  scripts : t.scripts = s.scripts
  engine : t.driver.engine = s.driver.engine
  builders : ∀ (k : Nat) (b : Builder), s.builders[k]? = some b →
    ∃ b' : Builder, t.builders[k]? = some b' ∧ b'.draft = b.draft

namespace Still

theorem of_builders (hhooks : t.hooks = s.hooks) (hdrafts : t.drafts = s.drafts) (hscripts : t.scripts = s.scripts)
    (hengine : t.driver.engine = s.driver.engine) (hbuilders : t.builders = s.builders) : s.Still t :=
  ⟨hhooks, hdrafts, hscripts, hengine, fun _ b hb => ⟨b, hbuilders ▸ hb, rfl⟩⟩

instance : IsPreorder Session Still where
  refl _ := .of_builders rfl rfl rfl rfl rfl
  trans _ _ _ hst htu := by
    refine ⟨htu.hooks.trans hst.hooks, htu.drafts.trans hst.drafts, htu.scripts.trans hst.scripts,
      htu.engine.trans hst.engine, fun k b hb => ?_⟩
    obtain ⟨b', hb', hdraft⟩ := hst.builders k b hb
    obtain ⟨b'', hb'', hdraft'⟩ := htu.builders k b' hb'
    exact ⟨b'', hb'', hdraft'.trans hdraft⟩

/-- What a builder has besides its draft may change. -/
theorem modifyBuilder (s : Session) (id : Nat) {f : Builder → Builder} (hf : ∀ b, (f b).draft = b.draft) :
    s.Still { s with builders := s.builders.modify id f } := by
  refine ⟨rfl, rfl, rfl, rfl, fun k b hb => ?_⟩
  by_cases hk : id = k
  · exact ⟨f b, by rw [Array.getElem?_modify, if_pos hk, hb, Option.map_some], hf b⟩
  · exact ⟨b, by rw [Array.getElem?_modify, if_neg hk, hb], rfl⟩

/-- The parts of a statement are left as they are. -/
theorem undisturbed (h : t.Still u) (ht : s.Undisturbed id t) : s.Undisturbed id u where
  parts := by
    refine ⟨fun n hn => h.drafts ▸ ht.parts.drafts n hn, fun k hk b hb => ?_, h.engine.trans ht.parts.engine⟩
    obtain ⟨b', hb', hdraft⟩ := ht.parts.builders k hk b hb
    obtain ⟨b'', hb'', hdraft'⟩ := h.builders k b' hb'
    exact ⟨b'', hb'', hdraft'.trans hdraft⟩
  hooks := h.hooks.trans ht.hooks
  scripts n script hscript := h.scripts ▸ ht.scripts n script hscript

theorem stays {α : Type} {op : Act α} (h : Keeps Still env op) : Act.Stays env (s.Undisturbed id) op :=
  .of_keeps h fun _ _ ht hstill => hstill.undisturbed ht

end Still

/-- A hook that makes no calls stays alone. -/
theorem Declares.staysAlone_undisturbed {slot name : String} {script : Nat} {tables : List Value}
    (h : s.Declares id lead tables) (halone : s.hooks.Alone kind slot (.hook name script) isOn)
    (hscript : s.scripts[script]? = some ⟨[], .value .null⟩) :
    StaysAlone (Play.surroundings (depth + 1)) (s.Undisturbed id) id kind slot (.hook name script) lead tables where
  alone t ht := ⟨isOn, ht.hooks ▸ halone⟩
  declares t ht := by
    have hb := Array.getElem?_eq_getElem h.exists_builder
    obtain ⟨b, hb', -⟩ := ht.exists_builder hb
    exact ⟨(Array.getElem?_eq_some_iff.1 hb').1, (ht.tablesOf hb).trans h.tables⟩
  run call hcall t v u ht hrun := by
    obtain ⟨b, hb, -⟩ := ht.exists_builder (Array.getElem?_eq_getElem h.exists_builder)
    obtain ⟨stored, hnotify⟩ := @Play.exec_notify_idle (Play.surroundings depth) name script call t b
      (ht.scripts _ _ hscript) (hcall ▸ hb)
    cases hnotify.symm.trans hrun
    have hstill : t.Still { t with
        stored, journal := t.journal ++ [.hook name call.event call.statement call.arguments []] } :=
      .of_builders rfl rfl rfl rfl rfl
    exact hstill.undisturbed ht

end Session

/-- A history of a connection with that prefix where one hook is registered for one event on one table, and no other
one; whether it is registered in the end; and what the builders declare whose tables are known. -/
inductive OneHook (depth : Nat) (lead : Option String) (kind : EventKind) (table : String) (hook : Value) :
    Session → Bool → (Nat → Option (List Value)) → Prop where
  | start {source : DriverSource} {config : Option ConnectionConfig} {s : Session}
      (hstart : (Started.ofSource source config).outcome = .ok s) (hlead : config.bind (·.lead) = lead) :
      OneHook depth lead kind table hook s false fun _ => none
  /-- The hook is registered through a builder. -/
  | register {s : Session} {isOn : Bool} {known : Nat → Option (List Value)} {id : Nat}
      (h : OneHook depth lead kind table hook s isOn known) (hid : id < s.builders.size) :
      OneHook depth lead kind table hook
        (((HookChange.register kind.name hook (some table)).through.perform id).exec (Play.surroundings depth) s).2
        true known
  /-- Something is removed through a builder. -/
  | remove {s : Session} {isOn : Bool} {known : Nat → Option (List Value)} {id : Nat}
      (h : OneHook depth lead kind table hook s isOn known) (hid : id < s.builders.size) (event : String)
      (named : Option String) :
      OneHook depth lead kind table hook
        (((HookChange.remove event named).through.perform id).exec (Play.surroundings depth) s).2
        (isOn && !decide (event = kind.name ∧ named = some table)) known
  /-- A builder declares its tables. Builders with the same draft declare the same. -/
  | setTables {s t : Session} {isOn : Bool} {known : Nat → Option (List Value)} {id : Nat} {tables : List Value}
      (h : OneHook depth lead kind table hook s isOn known)
      (hrun : (Declare.setTables id tables).exec (Play.surroundings depth) s = (.ok (), t))
      (hdeclared : ∀ v ∈ declaredTables tables, v.IsDeclared) :
      OneHook depth lead kind table hook t isOn fun other =>
        if s.draftNumber? other = s.draftNumber? id then some (declaredTables tables) else known other
  /-- A builder for tables comes up. -/
  | table {s t : Session} {isOn : Bool} {known : Nat → Option (List Value)} {id c : Nat} {tables : List Value}
      (h : OneHook depth lead kind table hook s isOn known)
      (hrun : (Declare.table id tables).exec (Play.surroundings depth) s = (.ok c, t))
      (hclears : Draft.clearsTables tables = false) (hdeclared : ∀ v ∈ declaredTables tables, v.IsDeclared) :
      OneHook depth lead kind table hook t isOn (Function.update known c (some (declaredTables tables)))
  /-- A builder without tables comes up. -/
  | newQuery {s t : Session} {isOn : Bool} {known : Nat → Option (List Value)} {id c : Nat}
      (h : OneHook depth lead kind table hook s isOn known)
      (hrun : (Declare.newQuery id).exec (Play.surroundings depth) s = (.ok c, t)) :
      OneHook depth lead kind table hook t isOn (Function.update known c (some []))
  /-- A builder comes of another one, as a clone or in a transaction. -/
  | copy {s t : Session} {isOn : Bool} {known : Nat → Option (List Value)} {id c : Nat}
      (h : OneHook depth lead kind table hook s isOn known) (hid : id < s.builders.size)
      (hcopy : s.Derives (Play.surroundings depth) id c t) :
      OneHook depth lead kind table hook t isOn (Function.update known c (known id))
  /-- Something else happens, as calls and scripts do. -/
  | other {s t : Session} {isOn : Bool} {known : Nat → Option (List Value)}
      (h : OneHook depth lead kind table hook s isOn known) (hlinks : Links [] s t) (hleads : Leads lead s t)
      (hretains : s.Retains known t) : OneHook depth lead kind table hook t isOn known

/-! ### What each step leaves true -/

namespace Session

/-- The hook is alone, and the builders declare what is known of their tables. -/
structure Upholds (lead : Option String) (kind : EventKind) (slot : String) (hook : Value)
    (s : Session) (isOn : Bool) (known : Nat → Option (List Value)) : Prop where
  linked : s.Linked
  led : s.LedBy lead
  alone : s.hooks.Alone kind slot hook isOn
  declares : ∀ id tables, known id = some tables → s.Declares id lead tables ∧ ∀ v ∈ tables, v.IsDeclared

namespace Upholds

variable {slot : String} (h : s.Upholds lead kind slot hook isOn known)

include h

/-- The hooks are changed. -/
theorem withHooks {hooks : HookTable} {isOn' : Bool} (halone : hooks.Alone kind slot hook isOn') :
    Upholds lead kind slot hook { s with hooks } isOn' known where
  linked := h.linked.of_eq rfl rfl
  led := h.led.of_eq rfl rfl
  alone := halone
  declares id tables hknown := by
    obtain ⟨hdeclares, htables⟩ := h.declares id tables hknown
    exact ⟨⟨hdeclares.exists_builder, hdeclares.tables⟩, htables⟩

/-- A builder changes the hooks. -/
theorem through {isOn' : Bool} {change : HookChange} (hid : id < s.builders.size)
    (halone : ((change.led lead).after env s).hooks.Alone kind slot hook isOn') :
    Upholds lead kind slot hook ((change.through.perform id).exec env s).2 isOn' known := by
  have hb : s.builders[id]? = some s.builders[id] := Array.getElem?_eq_getElem hid
  obtain ⟨hooks, hafter⟩ := HookChange.exists_hooks_after env s (change.led lead)
  rw [HookChange.exec_through hb, h.led.builder id _ hb]
  change Upholds lead kind slot hook ((change.led lead).after env s) isOn' known
  rw [hafter] at halone ⊢
  exact h.withHooks halone

theorem setTables {tables : List Value} {x : Unit}
    (hrun : (Declare.setTables id tables).exec (Play.surroundings depth) s = (.ok x, t))
    (hdeclared : ∀ v ∈ declaredTables tables, v.IsDeclared) :
    t.Upholds lead kind slot hook isOn fun other =>
      if s.draftNumber? other = s.draftNumber? id then some (declaredTables tables) else known other := by
  have hlinks : Keeps (Links []) (Play.surroundings depth) (Declare.setTables id tables) :=
    Links.declaring.setTables (.inl trivial) tables
  have hleads : Keeps (Leads lead) (Play.surroundings depth) (Declare.setTables id tables) :=
    Leads.declaring.setTables (K := []) (.inl trivial) tables
  obtain ⟨b, hb, d, rfl, hd⟩ := Declare.exec_setTables_eq_ok hrun
  refine ⟨(hlinks.of_exec hrun h.linked (by simp)).1, hleads.of_exec hrun h.led, h.alone, fun other known' hknown => ?_⟩
  have hnumber : s.draftNumber? id = some b.draft := congrArg (Option.map _) hb
  split at hknown
  · rename_i hsame
    cases hknown
    rw [hnumber] at hsame
    obtain ⟨b', hb', hdraft⟩ := Option.map_eq_some_iff.1 hsame
    refine ⟨⟨(Array.getElem?_eq_some_iff.1 hb').1, ?_⟩, hdeclared⟩
    rw [tablesOf_modify h.linked hb', if_pos hdraft, hd, h.led.builder id b hb]
  · rename_i hother
    obtain ⟨⟨hlt, htables⟩, hvalues⟩ := h.declares other known' hknown
    have hb' : s.builders[other]? = some s.builders[other] := Array.getElem?_eq_getElem hlt
    refine ⟨⟨hlt, ?_⟩, hvalues⟩
    rw [tablesOf_modify h.linked hb', if_neg fun hdraft => hother ?_]
    · exact htables
    · rw [hnumber, ← hdraft]
      exact congrArg (Option.map _) hb'

theorem newQuery (hrun : (Declare.newQuery id).exec env s = (.ok c, t)) :
    t.Upholds lead kind slot hook isOn (Function.update known c (some [])) := by
  obtain ⟨b, rfl, rfl, hdraft, hlead⟩ := Declare.exec_newQuery_eq_ok hrun
  have hkeeping : Footprint.Keeping s { s with drafts := s.drafts.push {}, builders := s.builders.push b } :=
    (Footprint.Keeping.pushDraft s {}).trans (.pushBuilder _ b)
  refine ⟨h.linked.of_push hdraft (by simp) (by simp), h.led.push (hlead.trans h.led.connection) rfl rfl, h.alone,
    fun other tables hknown => ?_⟩
  by_cases hnew : other = s.builders.size
  · subst hnew
    rw [Function.update_self] at hknown
    cases hknown
    exact ⟨⟨(Array.size_push _).symm ▸ Nat.lt_succ_self _, tablesOf_push hdraft⟩, by simp⟩
  · rw [Function.update_of_ne hnew] at hknown
    obtain ⟨⟨hlt, htables⟩, hvalues⟩ := h.declares other tables hknown
    exact ⟨⟨hkeeping.lt hlt, (tablesOf_of_keeping hkeeping h.linked hlt).trans htables⟩, hvalues⟩

theorem table {tables : List Value} (hrun : (Declare.table id tables).exec (Play.surroundings depth) s = (.ok c, t))
    (hclears : Draft.clearsTables tables = false) (hdeclared : ∀ v ∈ declaredTables tables, v.IsDeclared) :
    t.Upholds lead kind slot hook isOn (Function.update known c (some (declaredTables tables))) := by
  unfold Declare.table at hrun
  rw [if_neg (ne_true_of_eq_false hclears)] at hrun
  obtain ⟨fresh, u, hnew, hrest⟩ := exec_bind_eq_ok hrun
  obtain ⟨x, v, hset, hend⟩ := exec_bind_eq_ok hrest
  cases hend
  have ht := (h.newQuery hnew).setTables hset hdeclared
  refine ⟨ht.linked, ht.led, ht.alone, fun other known' hknown => ?_⟩
  by_cases hother : other = c
  · subst hother
    rw [Function.update_self] at hknown
    exact ht.declares other known' ((if_pos rfl).trans hknown)
  · rw [Function.update_of_ne hother] at hknown
    refine ht.declares other known' ((if_neg fun hsame => ?_).trans ((Function.update_of_ne hother _ _).trans hknown))
    -- the new builder is the only one with its draft
    obtain ⟨b, rfl, rfl, hdraft, -⟩ := Declare.exec_newQuery_eq_ok hnew
    obtain ⟨⟨hlt, -⟩, -⟩ := h.declares other known' hknown
    have hnumber : some s.builders[other].draft = some b.draft := by
      rw [draftNumber?, draftNumber?, Array.getElem?_push_lt hlt, Array.getElem?_push_size] at hsame
      exact hsame
    have hold := h.linked.draft other _ (Array.getElem?_eq_getElem hlt)
    rw [Option.some.inj hnumber, hdraft] at hold
    exact hold.ne rfl

theorem copy (hid : id < s.builders.size) (hcopy : s.Derives (Play.surroundings depth) id c t) :
    t.Upholds lead kind slot hook isOn (Function.update known c (known id)) := by
  have hcopied := hcopy.copied h.linked hid
  have hleads : Leads lead s t := hcopy.keeps (Keeps.working.clone _ _) (fun _ => Keeps.working.builderFor _ _)
    (fun _ => Leads.of_eq rfl rfl) fun _ => Leads.of_eq rfl rfl
  refine ⟨hcopied.linked, hleads h.led, hcopy.sameHooks ▸ h.alone, fun other tables hknown => ?_⟩
  by_cases hother : other = c
  · subst hother
    rw [Function.update_self] at hknown
    obtain ⟨⟨-, htables⟩, hvalues⟩ := h.declares id tables hknown
    exact ⟨⟨hcopied.fresh.lt, (hcopied.tablesOf h.linked hid).trans htables⟩, hvalues⟩
  · rw [Function.update_of_ne hother] at hknown
    obtain ⟨⟨hlt, htables⟩, hvalues⟩ := h.declares other tables hknown
    exact ⟨⟨hcopied.keeping.lt hlt, (tablesOf_of_keeping hcopied.keeping h.linked hlt).trans htables⟩, hvalues⟩

theorem other (hlinks : Links [] s t) (hleads : Leads lead s t) (hretains : s.Retains known t) :
    t.Upholds lead kind slot hook isOn known := by
  obtain ⟨hlinked, hsize⟩ := hlinks h.linked (by simp)
  refine ⟨hlinked, hleads h.led, hretains.hooks ▸ h.alone, fun id tables hknown => ?_⟩
  obtain ⟨⟨hlt, htables⟩, hvalues⟩ := h.declares id tables hknown
  exact ⟨⟨hlt.trans_le hsize, (hretains.tables id tables hknown).trans htables⟩, hvalues⟩

end Upholds

end Session

namespace Execution

/-- The execution with something else in place of its hooks. -/
def performWith (id : Nat) (hooked : HookCall → Act (List Value)) (x : Execution) : Act Value := do
  let early ← x.make id
  let _ ← hooked (x.told id early)
  let i ← x.remake id early
  let result ← x.handOver id i
  let insertId ← x.ask result
  let _ ← hooked (x.toldAfter id i insertId)
  x.answer id result insertId

/-- But for its hooks, the execution does not leave the states before it gives its answer. -/
structure Stays (env : Surroundings) (P : Session → Prop) (id : Nat) (x : Execution) : Prop where
  make : Act.Stays env P (x.make id)
  remake : ∀ early, Act.Stays env P (x.remake id early)
  handOver : ∀ i, Act.Stays env P (x.handOver id i)
  ask : ∀ result, Act.Stays env P (x.ask result)

/-- A statement that can be made without leaving the states is executed without leaving them. -/
theorem stays_of_make {x : Execution} (hmake : Act.Stays env (s.Undisturbed id) (x.make id)) :
    x.Stays env (s.Undisturbed id) id := by
  have hrun : ∀ i, Keeps Still env (run id i) := by
    intro i
    refine .bind (keeps_requireOpen id) fun _ => .bind (.lift _) fun values => .bind (fun t => ?_) fun result => ?_
    · rw [reported_snd]
      exact .of_builders rfl rfl rfl (DriverCall.engine_after_statement (c := .execute i.sql values) trivial) rfl
    · exact .bind (.check _) fun _ => .pure result
  refine ⟨hmake, fun early => ?_, fun i => Still.stays ?_, fun result => Still.stays ?_⟩
  · -- only a selection is made twice
    cases x with
    | select => exact hmake
    | _ => exact Still.stays (.pure early)
  · cases x with
    | select =>
        refine .bind (.builder id) fun b => ?_
        split
        · exact hrun i
        · exact .bind (fun t => .modifyBuilder t id fun _ => rfl) fun _ => .pure _
    | _ => exact hrun i
  · unfold ask
    split
    · intro t
      rw [exec_driver]
      exact .of_builders rfl rfl rfl (DriverCall.engine_after_statement (c := .askInsertId) trivial) rfl
    · exact .pure Value.null

/-- SQL that is given is executed without a change of what builders declare. -/
theorem stays_query (sql values : Value) : (query sql values).Stays env (s.Undisturbed id) id := by
  refine stays_of_make (Still.stays ?_)
  exact .bind (.lift _) fun values => .bind .get fun t => .bind (fun u => .of_builders rfl rfl rfl rfl rfl) fun _ =>
    .pure _

/-- So is all that a builder executes, as long as each of its groups comes to the same whenever it runs. -/
theorem stays_of_steady (hs : s.Linked) (hid : id < s.builders.size)
    (hsteady : (s.footprint id).Steady env (s.Undisturbed id) s) (x : Execution) :
    x.Stays env (s.Undisturbed id) id := by
  cases hx : x.request? with
  | none =>
      cases x with
      | query sql values => exact stays_query sql values
      | _ => cases hx
  | some request =>
      refine stays_of_make ?_
      have hcompile : Act.Stays env (s.Undisturbed id) (compile id request) := by
        obtain ⟨outcome, hsettled⟩ := hs.settled_compile hid (fun t ht => ht.parts) hsteady request
        intro t q u ht hq
        obtain ⟨v, hv, hP⟩ := hsettled t ht
        cases hv.symm.trans hq
        exact hP
      have hissued : ∀ q, Act.Stays env (s.Undisturbed id) (Act.issued q) := fun q =>
        Still.stays fun t => refl_of Still t
      have hremember : ∀ i, Act.Stays env (s.Undisturbed id) (remember i) := fun i =>
        Still.stays fun t => .of_builders rfl rfl rfl rfl rfl
      rw [make_eq, issue_eq hx]
      exact Act.Stays.modular.bind (Act.Stays.modular.bind hcompile hissued)
        fun i => Act.Stays.modular.bind (hremember i) fun _ => Act.Stays.modular.pure i

section Alone

variable {table : String} {tables : List Value} {P : Session → Prop} {x : Execution} (hnamed : table ≠ "")
  (hany : lead.getD "" ++ table ≠ ":any") (hhook : hook.isNull = false) (htables : ∀ v ∈ tables, v.IsDeclared)
  (hstays : StaysAlone env P id kind (lead.getD "" ++ table) hook lead tables)

include hnamed hany hhook htables hstays

/-- Only what the hooks return makes a difference between the hooks of an event and the runs of the one hook. -/
theorem exec_fire_bind {β : Type} {event : EventKind} {statement : Option Issued} {arguments : Value}
    {entries : List (Value × Value)} (harguments : argumentsOf arguments = .ok entries) {k k' : Act β}
    (hk : ∀ t, P t → k.exec env t = k'.exec env t) (hP : P s) :
    (fire id event statement arguments >>= fun _ => k).exec env s =
      (repeatStanding (if kind.covers event then mentions table tables else 0) kind (lead.getD "" ++ table)
        ⟨event, statement, id, entries⟩ >>= fun _ => k').exec env s := by
  have hrun : Act.Stays env P (repeatStanding (if kind.covers event then mentions table tables else 0) kind
      (lead.getD "" ++ table) ⟨event, statement, id, entries⟩) := stays_repeatStanding hany hnamed hstays rfl _
  rw [exec_bind, exec_fire_alone hany hnamed hstays hhook harguments rfl htables hP, ← exec_bind, present, bind_assoc,
    exec_bind, exec_bind]
  rcases hr : (repeatStanding (if kind.covers event then mentions table tables else 0) kind (lead.getD "" ++ table)
    ⟨event, statement, id, entries⟩).exec env s with ⟨outcome, t⟩
  cases outcome with
  | error fault => rfl
  | ok answers => exact hk t (hrun s answers t hP hr)

theorem exec_call_alone (hx : x.Stays env P id) (hP : P s) : (x.call.perform id).exec env s =
    (x.performWith id fun call => repeatStanding (if kind.covers call.event then mentions table tables else 0) kind
      (lead.getD "" ++ table) call).exec env s := by
  have hbind : ∀ {α β : Type} {op : Act α} {k k' : α → Act β}, Act.Stays env P op →
      (∀ v t, P t → (k v).exec env t = (k' v).exec env t) → ∀ s, P s →
      (op >>= k).exec env s = (op >>= k').exec env s := by
    intro α β op k k' hop hk s hs
    rw [exec_bind, exec_bind]
    rcases hr : op.exec env s with ⟨outcome, t⟩
    cases outcome with
    | error fault => rfl
    | ok v => exact hk v t (hop s v t hs hr)
  have hfire := fun {event statement arguments entries} harguments {k k'} hk s hs =>
    @exec_fire_bind env s lead kind hook id table tables P hnamed hany hhook htables hstays Value event statement
      arguments entries harguments k k' hk hs
  rw [perform_call, ready, performWith]
  simp only [bind_assoc, conclude_eq]
  refine hbind hx.make (fun early => hfire rfl ?_) s hP
  refine hbind (hx.remake early) fun i => hbind (hx.handOver i) fun result => hbind (hx.ask result) fun insertId => ?_
  exact hfire (argumentsOf_outcome insertId x) fun _ _ => rfl

end Alone

end Execution

namespace OneHook

variable {table : String}

section Upholds

variable (hnamed : table ≠ "") (hown : table ≠ ":any") (hany : lead.getD "" ++ table ≠ ":any")

include hnamed hown hany

/-- A removal is for the slot of the hook if it names the same table. -/
theorem slotName_led_eq_iff (named : Option String) :
    slotName (named.map (ledName lead)) = lead.getD "" ++ table ↔ named = some table := by
  cases named with
  | none => exact ⟨fun h => absurd h.symm hany, fun h => by cases h⟩
  | some name =>
      rw [Option.map_some, ledName, Option.some.injEq]
      split
      · rename_i hname
        subst hname
        exact ⟨fun h => absurd h.symm hany, fun h => absurd h.symm hown⟩
      · exact slotName_append_eq_iff hany hnamed

/-- Every step of the history leaves it true. -/
theorem upholds (h : OneHook depth lead kind table hook s isOn known) :
    s.Upholds lead kind (lead.getD "" ++ table) hook isOn known := by
  have hslot := fun named => slotName_led_eq_iff hnamed hown hany named
  induction h with
  | start hstart hlead =>
      refine ⟨.ofSource hstart, hlead ▸ .ofSource hstart, ?_, fun id tables hknown => by cases hknown⟩
      exact hooks_ofSource hstart ▸ .empty kind _ hook
  | register h hid ih => exact ih.through hid (ih.alone.register ((hslot _).2 rfl))
  | remove h hid event named ih =>
      have hremoved := fun env => @HookTable.Alone.remove env _ _ _ _ _ ih.alone event (named.map (ledName lead))
      simp only [hslot] at hremoved
      exact ih.through hid (hremoved _)
  | setTables h hrun hdeclared ih => exact ih.setTables hrun hdeclared
  | table h hrun hclears hdeclared ih => exact ih.table hrun hclears hdeclared
  | newQuery h hrun ih => exact ih.newQuery hrun
  | copy h hid hcopy ih => exact ih.copy hid hcopy
  | other h hlinks hleads hretains ih => exact ih.other hlinks hleads hretains

end Upholds

/-- A script goes on with the history if it leaves the hooks and the known tables alone. -/
theorem record (h : OneHook depth lead kind table hook s isOn known) (isOutermost : Bool) (script : List Step)
    (hretains : s.Retains known ((Play.record isOutermost script).exec (Play.surroundings depth) s).2) :
    OneHook depth lead kind table hook ((Play.record isOutermost script).exec (Play.surroundings depth) s).2 isOn
      known :=
  .other h (Keeps.scripting.record isOutermost script s) (Keeps.scripting.record isOutermost script s) hretains

/-- In any such history, a builder whose tables are known declares them with the prefix, and nothing else is registered
than the hook, for its table with the prefix. In all states in which this stays so, the hooks of an event come to one
run of the hook for each declaration of its table, at the events that the hook is for, and to nothing for other tables
and for fragments. So an execution is one with these runs in place of its hooks. As long as the hook has not been
removed each run is one of the hook, and from then on it is nothing. -/
theorem runs_by_declaration (h : OneHook depth lead kind table hook s isOn known) (hhook : hook.isNull = false)
    (hnamed : table ≠ "") (hown : table ≠ ":any") (hany : lead.getD "" ++ table ≠ ":any") {tables : List Value}
    (hknown : known id = some tables) :
    s.Declares id lead tables ∧ s.hooks.Alone kind (lead.getD "" ++ table) hook isOn ∧
    (∀ call, (runStanding kind (lead.getD "" ++ table) call).exec (Play.surroundings depth) s =
      if isOn = true then (runHook hook call).exec (Play.surroundings depth) s else (.ok .null, s)) ∧
    ∀ P : Session → Prop, P s →
      StaysAlone (Play.surroundings depth) P id kind (lead.getD "" ++ table) hook lead tables →
      (∀ event statement arguments entries, argumentsOf arguments = .ok entries →
        (fire id event statement arguments).exec (Play.surroundings depth) s =
          (present (repeatStanding (if kind.covers event then mentions table tables else 0) kind
            (lead.getD "" ++ table) ⟨event, statement, id, entries⟩)).exec (Play.surroundings depth) s) ∧
      ∀ x : Execution, x.Stays (Play.surroundings depth) P id →
        (x.call.perform id).exec (Play.surroundings depth) s =
          (x.performWith id fun call => repeatStanding (if kind.covers call.event then mentions table tables else 0)
            kind (lead.getD "" ++ table) call).exec (Play.surroundings depth) s := by
  have hupholds := h.upholds hnamed hown hany
  obtain ⟨hdeclares, htables⟩ := hupholds.declares id tables hknown
  refine ⟨hdeclares, hupholds.alone, fun call => ?_, fun P hP hstays => ⟨?_, fun x hx => ?_⟩⟩
  · exact exec_runStanding hupholds.alone ((slotName_append_eq_iff hany hnamed).2 rfl) call
  · intro event statement arguments entries harguments
    exact exec_fire_alone hany hnamed hstays hhook harguments rfl htables hP
  · exact Execution.exec_call_alone hnamed hany hhook htables hstays hx hP

/-! ### A hook that makes no calls -/

def unhooked (lead : Option String) : Session where
  lead := lead
  overwriting := false
  driver := .scripted ⟨.mysql, [], none, none, none, 0, .null, false⟩
  builders := #[⟨.query, 0, lead, .bool false, .null, none⟩]
  drafts := #[{}]
  stored := [("it", .builder .query 0)]

def puttingAside : List Step :=
  [.mk "let" [.hook "watch" [] (.value .null)] [] { result := some "watch" } [] default]

def begun (lead : Option String) : Session :=
  ((Play.record true puttingAside).exec (Play.surroundings 2) (unhooked lead)).2

theorem of_begun (lead : Option String) (kind : EventKind) (table : String) (hook : Value) :
    OneHook 2 lead kind table hook (begun lead) false fun _ => none := by
  have hstart : (Started.ofSource (.given (unhooked lead).driver) (some { lead })).outcome = .ok (unhooked lead) := rfl
  exact record (.start hstart rfl) true puttingAside ⟨rfl, fun _ _ hknown => by cases hknown⟩

def tabled (lead : Option String) (tables : List Value) : Session :=
  ((Declare.table 0 tables).exec (Play.surroundings 2) (begun lead)).2

/-- The connection behind a registration through its first builder. -/
def registered (event table : String) (s : Session) : Session :=
  (((HookChange.register event (.hook "watch" 0) (some table)).through.perform 0).exec (Play.surroundings 2) s).2

/-- Tables that are named one by one, in a list, as the key of a mapping, and in SQL. -/
def somePeople : List Value :=
  [.text "pets", .list [.text "people", .map [(.text "people", .text "p")]], .raw (.text "guests") []]

/-- A clone of the builder for these tables, and a hook for people in front of all statements. -/
def clonedPeople : Session :=
  registered "before-*" "people"
    ((Declare.clone 2 1).exec (Play.surroundings 2) (tabled (some "cb_") somePeople)).2

/-- The clone declares people twice, so the hook runs twice for it in front of whatever it executes. -/
theorem runs_by_declaration_clone : ∃ known,
    OneHook 2 (some "cb_") .beforeAll "people" (.hook "watch" 0) clonedPeople true known ∧
      known 2 = some (declaredTables somePeople) ∧ mentions "people" (declaredTables somePeople) = 2 ∧
      ∀ x : Execution, (x.call.perform 2).exec (Play.surroundings 2) clonedPeople =
        (x.performWith 2 fun call =>
          repeatStanding (if EventKind.beforeAll.covers call.event then mentions "people" (declaredTables somePeople)
            else 0) .beforeAll ((some "cb_").getD "" ++ "people") call).exec (Play.surroundings 2) clonedPeople := by
  have hdeclared : ∀ v ∈ declaredTables somePeople, v.IsDeclared := by
    change ∀ v ∈ [Value.text "pets", .text "people", .text "people", .raw (.text "guests") []], v.IsDeclared
    simp [Value.IsDeclared, Value.isRaw]
  have hrun : (Declare.table 0 somePeople).exec (Play.surroundings 2) (begun (some "cb_")) =
      (.ok 1, tabled (some "cb_") somePeople) := rfl
  have hclone : (Declare.clone 2 1).exec (Play.surroundings 2) (tabled (some "cb_") somePeople) = (.ok 2, _) := rfl
  have hfirst : 0 < ((Declare.clone 2 1).exec (Play.surroundings 2) (tabled (some "cb_") somePeople)).2.builders.size :=
    by decide +kernel
  have htable := (of_begun (some "cb_") .beforeAll "people" (.hook "watch" 0)).table hrun rfl hdeclared
  have hhistory := (htable.copy (by decide +kernel) (.clone hclone)).register hfirst
  obtain ⟨hdeclares, halone, -, hruns⟩ : clonedPeople.Declares 2 (some "cb_") (declaredTables somePeople) ∧ _ :=
    runs_by_declaration hhistory rfl (by decide) (by decide) (by decide +kernel) rfl
  have hstays : StaysAlone (Play.surroundings 2) (clonedPeople.Undisturbed 2) 2 .beforeAll
      ((some "cb_").getD "" ++ "people") (.hook "watch" 0) (some "cb_") (declaredTables somePeople) :=
    hdeclares.staysAlone_undisturbed halone rfl
  have hlinked : clonedPeople.Linked := (hhistory.upholds (by decide) (by decide) (by decide +kernel)).linked
  have hgroupless : clonedPeople.Groupless 2 := groupless_of_drafts (by decide +kernel) 2
  refine ⟨_, hhistory, rfl, by decide +kernel, fun x => (hruns _ (.refl 2 _) hstays).2 x ?_⟩
  exact Execution.stays_of_steady hlinked hdeclares.exists_builder hgroupless.steady x

/-- Where the prefix and the name of the table make up the name of the slot for any table, the hook runs for builders
that do not declare its table. -/
theorem not_runs_by_declaration_any : ∃ s known,
    s = registered "before-select" "any" (tabled (some ":") [.text "people"]) ∧
      OneHook 2 (some ":") .beforeSelect "any" (.hook "watch" 0) s true known ∧
      known 1 = some [.text "people"] ∧ mentions "any" [.text "people"] = 0 ∧
      ((BuilderCall.fetchAll.perform 1).exec (Play.surroundings 2) s).2.journal.map Execution.summary =
        [some "watch", some "SELECT * FROM `:people`"] := by
  have hdeclared : ∀ v ∈ declaredTables [.text "people"], v.IsDeclared := by
    change ∀ v ∈ [Value.text "people"], v.IsDeclared
    simp [Value.IsDeclared]
  have hrun : (Declare.table 0 [.text "people"]).exec (Play.surroundings 2) (begun (some ":")) =
      (.ok 1, tabled (some ":") [.text "people"]) := rfl
  have hfirst : 0 < (tabled (some ":") [.text "people"]).builders.size := by decide +kernel
  have htable := (of_begun (some ":") .beforeSelect "any" (.hook "watch" 0)).table hrun rfl hdeclared
  exact ⟨_, _, rfl, htable.register hfirst, rfl, by decide +kernel, by decide +kernel⟩

end OneHook

end SqlBuilder
