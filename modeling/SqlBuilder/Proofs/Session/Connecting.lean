import SqlBuilder.Proofs.Driver.InStep
import SqlBuilder.Proofs.Registry
import SqlBuilder.Proofs.Session.Run
import SqlBuilder.Proofs.Settings
import SqlBuilder.Session.Start

/-!
The connections of settings that have been read. A factory opens them in their order, and each is registered under its
name. The connection that builders use without a name is the configured one, or else the first; but one whose name is
empty is passed over, although it can be the default.
-/

namespace SqlBuilder

open Talk

/-! ### What is opened -/

/-- The connection that a factory is told to open. -/
def WireEntry.opening? : WireEntry → Option (String × Engine)
  | opened name engine => some (name, engine)
  | _ => none

def Entry.opening? : Entry → Option (String × Engine)
  | wire entry => entry.opening?
  | _ => none

/-- The connections that factories have been told to open, in order. -/
def openings {σ : Type} (w : σ × List WireEntry) : List (String × Engine) := w.2.filterMap WireEntry.opening?

theorem openings_append {σ : Type} {entry : WireEntry} (h : entry.opening? = none) (s : σ)
    (entries : List WireEntry) : openings (s, entries ++ [entry]) = openings (s, entries) := by
  unfold openings
  rw [List.filterMap_append, List.filterMap_cons_none h, List.filterMap_nil, List.append_nil]

theorem ScriptedDriver.leaves_openings_execute (sql : Value) (values : List Value) :
    Leaves openings (ScriptedDriver.execute sql values) := by
  refine .bind (.emit _ fun s entries => openings_append rfl s entries) fun _ => .bind ?_ fun (reply, isUsedUp) => ?_
  · refine .bind .state fun d => ?_
    split
    · exact .pure _
    · exact .bind (.update fun _ _ => rfl) fun _ => .pure _
  · dsimp only
    split
    · exact .throw_bind _ _
    · split
      · exact .pure _
      · refine .bind (.lift _) fun _ => ?_
        split
        · exact .pure _
        · refine .bind (.lift _) fun _ => ?_
          split
          · exact .bind (.update fun _ _ => rfl) fun _ => .pure _
          · exact .pure _

theorem SqliteDriver.leaves_openings_execute (sql : Value) (values : List Value) :
    Leaves openings (SqliteDriver.execute sql values) := by
  refine .bind guards_requireOpen.leaves fun _ => .bind (fun w => ?_) fun reply => ?_
  · rw [exec_send]
    exact openings_append rfl w.1 w.2
  · dsimp only
    split
    · split
      · exact .bind (.update fun _ _ => rfl) fun _ => .pure _
      · exact .pure _
    · exact .throw _

theorem CursorDriver.coarse_openings : Coarse openings where
  cursor d entries _ _ := openings_append rfl d entries
  warn d entries _ := openings_append rfl d entries
  update _ _ _ _ _ _ _ := rfl

theorem CursorDriver.leaves_openings_execute (sql : Value) (values : List Value) :
    Leaves openings (CursorDriver.execute sql values) := by
  have hsignal : ∀ entry failure, entry.opening? = none → Leaves openings (Call.signal entry failure) :=
    fun entry failure h => Call.leaves_signal_of failure (openings_append h)
  exact fun _ => part_execute coarse_openings (fun _ => ⟨hsignal _ _ rfl, hsignal _ _ rfl⟩) (hsignal _ _ rfl)
    sql values

namespace Driver

/-- No statement has a factory open anything. -/
theorem openings_execute (d : Driver) (sql : Value) (values : List Value) :
    (d.execute sql values).2.2.filterMap WireEntry.opening? = [] := by
  cases d with
  | scripted d => exact ScriptedDriver.leaves_openings_execute sql values (d, [])
  | sqlite d => exact SqliteDriver.leaves_openings_execute sql values (d, [])
  | cursor d => exact CursorDriver.leaves_openings_execute sql values (d, [])

def told : Driver → List String → Driver × List WireEntry
  | d, [] => (d, [])
  | d, sql :: rest =>
    let (_, d, entries) := d.execute (.text sql) []
    let (d, further) := told d rest
    (d, entries ++ further)

theorem told_cons (d : Driver) (sql : String) (rest : List String) : d.told (sql :: rest) =
    (((d.execute (.text sql) []).2.1.told rest).1,
      (d.execute (.text sql) []).2.2 ++ ((d.execute (.text sql) []).2.1.told rest).2) := rfl

/-- Every one of the statements succeeds. -/
def Accepts : Driver → List String → Prop
  | _, [] => True
  | d, sql :: rest =>
    (∃ result, (d.execute (.text sql) []).1 = .ok result) ∧ Accepts (d.execute (.text sql) []).2.1 rest

theorem openings_told (d : Driver) (sqls : List String) : (d.told sqls).2.filterMap WireEntry.opening? = [] := by
  induction sqls generalizing d with
  | nil => rfl
  | cons sql rest ih =>
      rw [told_cons, List.filterMap_append, openings_execute, ih]
      rfl

end Driver

/-! ### One connection -/

variable {env : Surroundings} {s : Session} {d : Driver} {c : ConnectionConfig}

namespace Session

theorem exec_greet {sql : String} {result : QueryResult} (h : (s.driver.execute (.text sql) []).1 = .ok result) :
    (greet sql).exec env s = (.ok (), { s with
      driver := (s.driver.execute (.text sql) []).2.1
      journal := s.journal ++ (s.driver.execute (.text sql) []).2.2.map Entry.wire }) := by
  unfold greet
  rw [Act.exec_tryCatch, Act.exec_bind, Act.exec_driver, h]
  rfl

/-- The statements of the beginning, if every one succeeds. -/
theorem exec_forM_greet {sqls : List String} (h : s.driver.Accepts sqls) : (sqls.forM greet).exec env s =
    (.ok (), { s with
      driver := (s.driver.told sqls).1
      journal := s.journal ++ (s.driver.told sqls).2.map Entry.wire }) := by
  induction sqls generalizing s with
  | nil =>
      change (Except.ok (), s) = (Except.ok (), { s with journal := s.journal ++ [] })
      rw [List.append_nil]
  | cons sql rest ih =>
      obtain ⟨⟨result, hresult⟩, hrest⟩ := h
      change (greet sql >>= fun _ => rest.forM greet).exec env s = _
      rw [Act.exec_bind_ok (exec_greet hresult), ih hrest, Driver.told_cons, List.map_append, ← List.append_assoc]

/-- A session with settings and its first builder, before anything has happened. -/
def ready (driver : Driver) (c : ConnectionConfig) : Session :=
  { Session.ofDriver driver (some c) with
    drafts := #[{}]
    builders := #[{ role := .query, draft := 0, lead := c.lead, overwriting := .bool c.overwriting }]
    stored := [("it", .builder .query 0)] }

end Session

/-- A connection that is given a driver, which accepts what it is told at first. -/
theorem Started.ofSource_given (h : d.Accepts (c.greetings d.engine)) : Started.ofSource (.given d) (some c) =
    ⟨.ok (.ready (d.told (c.greetings d.engine)).1 c), (d.told (c.greetings d.engine)).2.map Entry.wire,
      .empty⟩ := by
  have hgreet : ((c.greetings d.engine).forM Session.greet).exec (Play.surroundings Play.maxDepth)
      (.ofDriver d (some c)) = _ := Session.exec_forM_greet h
  have hstart : Play.run (Session.start (some c)) (.ofDriver d (some c)) = (.ok (),
      { Session.ready (d.told (c.greetings d.engine)).1 c with
        journal := (d.told (c.greetings d.engine)).2.map Entry.wire }) := by
    change ((c.greetings d.engine).forM Session.greet >>= _).exec (Play.surroundings Play.maxDepth) _ = _
    rw [Act.exec_bind_ok hgreet]
    rfl
  unfold Started.ofSource DriverSource.opening
  dsimp only
  rw [hstart]
  rfl

/-! ### All connections -/

namespace Registry

variable {α : Type}

theorem add_of_not_mem {r : Registry α} {n : Name} (hn : n.value ∉ r.names) (x : α) : r.add n.value x false =
    .ok {
      entries := r.entries ++ [(n.value, x)]
      defaultName := if r.defaultName.isNull then n.value else r.defaultName } := by
  unfold add
  rw [n.checkName_value, n.isExact_value.insertEntry_of_not_mem x hn]
  rfl

end Registry

namespace RootConfig

abbrev Factory := String → ConnectionConfig → Driver

variable {factory : Factory} {config : RootConfig}

/-- The driver that the factory gives for the settings accepts what it is told at first. -/
def Opens (factory : Factory) (entry : String × ConnectionConfig) : Prop :=
  (factory entry.1 entry.2).Accepts (entry.2.greetings (factory entry.1 entry.2).engine)

/-- The driver of the factory behind what it is told at first. -/
def driverFor (factory : Factory) (entry : String × ConnectionConfig) : Driver × List WireEntry :=
  (factory entry.1 entry.2).told (entry.2.greetings (factory entry.1 entry.2).engine)

def connected (factory : Factory) (entry : String × ConnectionConfig) : OpenConnection :=
  ⟨entry.2, .ready (driverFor factory entry).1 entry.2⟩

/-- What happens while the factory opens the connections. -/
def openingJournal (factory : Factory) (entries : List (String × ConnectionConfig)) :
    List Entry :=
  entries.flatMap fun entry =>
    .wire (.opened entry.1 entry.2.engine) :: (driverFor factory entry).2.map Entry.wire

theorem openOne_factory {entry : String × ConnectionConfig} (h : Opens factory entry) :
    openOne (.factory factory) entry.1 entry.2 = ⟨.ok (connected factory entry).session,
      .wire (.opened entry.1 entry.2.engine) :: (driverFor factory entry).2.map Entry.wire, .empty⟩ := by
  unfold openOne
  dsimp only
  rw [Started.ofSource_given h]
  rfl

theorem openAll_cons {opener : Opener} {name : String} {c : ConnectionConfig} {rest : List (String × ConnectionConfig)}
    {registry registry' : Registry OpenConnection} {session : Session} {journal : List Entry} {tree : FileTree}
    (hopen : openOne opener name c = ⟨.ok session, journal, tree⟩)
    (hadd : registry.add (.text name) ⟨c, session⟩ false = .ok registry') :
    openAll opener ((name, c) :: rest) registry =
      ((openAll opener rest registry').1, journal ++ (openAll opener rest registry').2) := by
  have hbind : ((openOne opener name c).outcome.bind fun session => registry.add (.text name) ⟨c, session⟩ false) =
      .ok registry' := by
    rw [hopen]
    exact hadd
  conv_lhs => unfold openAll
  dsimp only
  rw [hbind, hopen]

/-- Each connection comes in behind those that are registered already, and the first one is the default. -/
theorem openAll_factory {entries : List (String × ConnectionConfig)} (hopens : ∀ entry ∈ entries, Opens factory entry)
    (hnodup : (entries.map (·.1)).Nodup) (registry : Registry OpenConnection)
    (hnew : ∀ entry ∈ entries, .text entry.1 ∉ registry.names) :
    openAll (.factory factory) entries registry =
      (.ok {
        entries := registry.entries ++ entries.map fun entry => (.text entry.1, connected factory entry)
        defaultName := if registry.defaultName.isNull then (entries.head?.map fun entry => .text entry.1).getD .null
          else registry.defaultName },
      openingJournal factory entries) := by
  induction entries generalizing registry with
  | nil =>
      obtain ⟨known, defaultName⟩ := registry
      have hdefault : (if defaultName.isNull then Value.null else defaultName) = defaultName := by
        cases defaultName <;> rfl
      change (Except.ok (Registry.mk known defaultName), []) =
        (.ok ⟨known ++ [], if defaultName.isNull then Value.null else defaultName⟩, [])
      rw [hdefault, List.append_nil]
  | cons entry rest ih =>
      obtain ⟨hfirst, hrest⟩ := List.forall_mem_cons.1 hopens
      obtain ⟨hfresh, hdistinct⟩ := List.nodup_cons.1 hnodup
      obtain ⟨hadded, hnew⟩ := List.forall_mem_cons.1 hnew
      let name : Registry.Name := .text entry.1
      let registry' : Registry OpenConnection := {
        entries := registry.entries ++ [(name.value, connected factory entry)]
        defaultName := if registry.defaultName.isNull then name.value else registry.defaultName }
      have hadd : registry.add (.text entry.1) (connected factory entry) false = .ok registry' :=
        Registry.add_of_not_mem (n := name) hadded (connected factory entry)
      have hnext : ∀ other ∈ rest, .text other.1 ∉ registry'.names := by
        intro other hother
        change _ ∉ (registry.entries ++ [(name.value, connected factory entry)]).map (·.1)
        rw [List.map_append, List.mem_append, not_or]
        refine ⟨hnew other hother, fun hmem => hfresh (List.mem_map.2 ⟨other, hother, ?_⟩)⟩
        exact Value.text.inj (List.mem_singleton.1 hmem)
      have hkept : ∀ first, (if registry'.defaultName.isNull then first else registry'.defaultName) =
          if registry.defaultName.isNull then .text entry.1 else registry.defaultName := by
        intro first
        have hdefault : registry'.defaultName =
          if registry.defaultName.isNull then name.value else registry.defaultName := rfl
        by_cases hnull : registry.defaultName.isNull = true
        · rw [hdefault, if_pos hnull, if_pos hnull, name.isNull_value]
          rfl
        · rw [hdefault, if_neg hnull, if_neg hnull, if_neg hnull]
      rw [openAll_cons (openOne_factory hfirst) hadd, ih hrest hdistinct registry' hnext, hkept]
      dsimp only [registry', name, Registry.Name.value]
      rw [List.append_assoc]
      rfl

/-! ### The connection without a name -/

/-- The name of the connection that builders use without a name: the configured one, or else the first. -/
def chosenName? (config : RootConfig) : Option String :=
  config.defaultConnection.or (config.connections.head?.map (·.1))

/-- The name of the default as it is registered. An empty name that is configured is passed over. -/
def registeredName? (config : RootConfig) : Option String :=
  (config.defaultConnection.filter fun name => name ≠ "").or (config.connections.head?.map (·.1))

theorem registeredName?_of_none (h : config.defaultConnection = none) :
    config.registeredName? = config.connections.head?.map (·.1) := by
  rw [registeredName?, h]
  rfl

theorem registeredName?_of_empty (h : config.defaultConnection = some "") :
    config.registeredName? = config.connections.head?.map (·.1) := by
  rw [registeredName?, h]
  rfl

theorem registeredName?_of_ne {name : String} (h : config.defaultConnection = some name) (hne : name ≠ "") :
    config.registeredName? = some name := by
  rw [registeredName?, h, Option.filter_some, if_pos (decide_eq_true hne), Option.some_or]

/-- Without connections no default is registered. -/
theorem registeredName?_of_nil (hsound : config.Sound) (hnone : config.connections = []) :
    config.registeredName? = none := by
  cases hdefault : config.defaultConnection with
  | none =>
      rw [registeredName?_of_none hdefault, hnone]
      rfl
  | some name =>
      have hmem := hsound.default name hdefault
      rw [hnone] at hmem
      cases hmem

/-- The chosen name is the one of a connection. The registered one is the same, or the one of the first connection if
the chosen one is empty. -/
theorem exists_chosenName? (hsound : config.Sound) {first : String × ConnectionConfig}
    (hfirst : first ∈ config.connections.head?) : ∃ entry ∈ config.connections, ∃ used ∈ config.connections,
      config.chosenName? = some entry.1 ∧ config.registeredName? = some used.1 ∧
      used.1 = if entry.1 = "" then first.1 else entry.1 := by
  have hmem := List.mem_of_head? hfirst
  have hhead : config.connections.head?.map (·.1) = some first.1 := congrArg (Option.map (·.1)) hfirst
  cases hdefault : config.defaultConnection with
  | none =>
      have hchosen : config.chosenName? = some first.1 := by
        rw [chosenName?, hdefault, hhead]
        rfl
      exact ⟨first, hmem, first, hmem, hchosen, (registeredName?_of_none hdefault).trans hhead, (ite_self _).symm⟩
  | some name =>
      obtain ⟨entry, hentry, rfl⟩ := List.mem_map.1 (hsound.default name hdefault)
      have hchosen : config.chosenName? = some entry.1 := by
        rw [chosenName?, hdefault]
        rfl
      by_cases hempty : entry.1 = ""
      · have hname := registeredName?_of_empty (hdefault.trans (congrArg some hempty))
        exact ⟨entry, hentry, first, hmem, hchosen, hname.trans hhead, (if_pos hempty).symm⟩
      · exact ⟨entry, hentry, entry, hentry, hchosen, registeredName?_of_ne hdefault hempty, (if_neg hempty).symm⟩

/-- The registry of the connections, with the default of that name. -/
def registered (factory : Factory) (entries : List (String × ConnectionConfig))
    (name? : Option String) : Registry OpenConnection where
  entries := entries.map fun entry => (.text entry.1, connected factory entry)
  defaultName := (name?.map Value.text).getD .null

section Registered

variable {entries : List (String × ConnectionConfig)} {entry : String × ConnectionConfig} {name? : Option String}

theorem names_registered : (registered factory entries name?).names = entries.map fun entry => .text entry.1 :=
  List.map_map

theorem setDefault_registered {name : String} (hname : name ∈ entries.map (·.1)) :
    (registered factory entries name?).setDefault (.text name) = .ok (registered factory entries (some name)) := by
  obtain ⟨entry, hentry, rfl⟩ := List.mem_map.1 hname
  refine Registry.setDefault_of_mem (n := .text entry.1) ?_
  rw [names_registered]
  exact List.mem_map_of_mem hentry

theorem lookup?_registered (hnodup : (entries.map (·.1)).Nodup) (hentry : entry ∈ entries) :
    Value.lookup? (.text entry.1) (registered factory entries name?).entries = some (connected factory entry) := by
  have hexact := Value.isExact_text entry.1
  change Value.lookup? _ (entries.map _) = _
  induction entries with
  | nil => cases hentry
  | cons first rest ih =>
      obtain ⟨hfresh, hdistinct⟩ := List.nodup_cons.1 hnodup
      rw [List.map_cons]
      rcases List.mem_cons.1 hentry with rfl | hrest
      · exact hexact.lookup?_cons_self _ _
      · have hne : Value.text first.1 ≠ .text entry.1 := fun h =>
          hfresh (List.mem_map.2 ⟨entry, hrest, (Value.text.inj h).symm⟩)
        rw [hexact.lookup?_cons_of_ne hne]
        exact ih hdistinct hrest

theorem get_registered (hnodup : (entries.map (·.1)).Nodup) (hentry : entry ∈ entries) :
    (registered factory entries name?).get (.text entry.1) = .ok (connected factory entry) := by
  have hfind := (registered factory entries name?).find?_value (.text entry.1)
  change Registry.find? _ (.text entry.1) = .ok (Value.lookup? (.text entry.1) _) at hfind
  rw [lookup?_registered hnodup hentry] at hfind
  unfold Registry.get
  change (((registered factory entries name?).find? (.text entry.1)) >>= _) = _
  rw [hfind]
  rfl

/-- A default with an empty name counts as none. -/
theorem forBuilder_registered (hnodup : (entries.map (·.1)).Nodup) (hentry : entry ∈ entries) :
    (registered factory entries (some entry.1)).forBuilder =
      if entry.1 = "" then .error (.sql .noConnection) else .ok (connected factory entry) := by
  have hdefault : (registered factory entries (some entry.1)).default? =
      if entry.1 != "" then some (connected factory entry) else none := by
    have hfound : Value.lookup? (.text entry.1) (registered factory entries (some entry.1)).entries =
      some (connected factory entry) := lookup?_registered hnodup hentry
    rw [← hfound]
    rfl
  unfold Registry.forBuilder
  rw [hdefault]
  by_cases hempty : entry.1 = ""
  · rw [if_pos hempty, if_neg (by simpa using hempty)]
    rfl
  · rw [if_neg hempty, if_pos (bne_iff_ne.2 hempty)]
    rfl

/-- With no default there is no connection for builders. -/
theorem forBuilder_registered_none : (registered factory entries none).forBuilder = .error (.sql .noConnection) := rfl

theorem buildRegistry_factory (hsound : config.Sound) (hopens : ∀ entry ∈ config.connections, Opens factory entry) :
    config.buildRegistry (.factory factory) =
      (.ok (registered factory config.connections config.registeredName?),
        openingJournal factory config.connections) := by
  have hall : openAll (.factory factory) config.connections {} =
      (.ok (registered factory config.connections (config.connections.head?.map (·.1))),
        openingJournal factory config.connections) := by
    rw [openAll_factory hopens hsound.nodup {} fun _ _ => List.not_mem_nil]
    unfold registered
    rw [Option.map_map]
    rfl
  unfold buildRegistry
  rw [hall]
  dsimp only
  split
  · rename_i hnone
    rw [registeredName?_of_none hnone]
  · rename_i hempty
    rw [registeredName?_of_empty hempty]
  · rename_i name hname hdefault
    have hne : name ≠ "" := by
      rintro rfl
      exact hname rfl
    change ((registered factory config.connections _).setDefault (.text name), _) = _
    rw [setDefault_registered (hsound.default name hdefault), registeredName?_of_ne hdefault hne]

end Registered

/-- The registry has all connections in the order of the settings, each opened once by the factory. Each of them has
the prefix of its own settings and replaces earlier declarations as they say, and so do its builders. -/
structure Connects (config : RootConfig) (factory : Factory)
    (registry : Registry OpenConnection) (journal : List Entry) : Prop where
  called : journal.filterMap Entry.opening? = config.connections.map fun entry => (entry.1, entry.2.engine)
  names : registry.names = config.connections.map fun entry => .text entry.1
  found : ∀ entry ∈ config.connections, ∃ session, registry.get (.text entry.1) = .ok ⟨entry.2, session⟩ ∧
    session.driver = (driverFor factory entry).1 ∧ session.lead = entry.2.lead ∧
    session.overwriting = entry.2.overwriting ∧
    ∀ b ∈ session.builders, b.lead = entry.2.lead ∧ b.overwriting = .bool entry.2.overwriting

theorem opening?_openingJournal (entries : List (String × ConnectionConfig)) :
    (openingJournal factory entries).filterMap Entry.opening? = entries.map fun entry => (entry.1, entry.2.engine) := by
  induction entries with
  | nil => rfl
  | cons entry rest ih =>
      have htold : ((driverFor factory entry).2.map Entry.wire).filterMap Entry.opening? = [] := by
        rw [List.filterMap_map]
        exact Driver.openings_told _ _
      unfold openingJournal at ih ⊢
      rw [List.flatMap_cons, List.filterMap_append, ih]
      change ((entry.1, entry.2.engine) :: List.filterMap Entry.opening? _) ++ _ = _
      rw [htold]
      rfl

theorem connects_registered (hnodup : (config.connections.map (·.1)).Nodup) (name? : Option String) :
    config.Connects factory (registered factory config.connections name?)
      (openingJournal factory config.connections) where
  called := opening?_openingJournal _
  names := names_registered
  found entry hentry := by
    refine ⟨_, get_registered hnodup hentry, rfl, rfl, rfl, fun b hb => ?_⟩
    obtain rfl := Array.mem_singleton.1 hb
    exact ⟨rfl, rfl⟩

/-- Settings that are read without issues give a registry with a factory that opens every connection, whatever the
names are. Builders without a name use the configured connection, or else the first one, if its name is not empty.

A connection whose name is empty is passed over, both as the configured one, where the first takes its place, and as
the default: builders then find none, although there is one. -/
theorem buildRegistry_connects {data : List (Value × Value)} (hread : RootConfig.ofEntries data = .ok config)
    (hopens : ∀ entry ∈ config.connections, Opens factory entry) :
    ∃ registry journal, config.buildRegistry (.factory factory) = (.ok registry, journal) ∧
      config.Connects factory registry journal ∧
      (config.connections = [] → registry.forBuilder = .error (.sql .noConnection)) ∧
      ∀ first ∈ config.connections.head?, ∃ entry ∈ config.connections, config.chosenName? = some entry.1 ∧
        (entry.1 ≠ "" → registry.forBuilder = registry.get (.text entry.1)) ∧
        (entry.1 = "" → registry.forBuilder =
          if first.1 = "" then .error (.sql .noConnection) else registry.get (.text first.1)) := by
  have hsound := sound_of_ofEntries hread
  have hnodup := hsound.nodup
  refine ⟨_, _, buildRegistry_factory hsound hopens, connects_registered hnodup _, fun hnone => ?_,
    fun first hfirst => ?_⟩
  · rw [registeredName?_of_nil hsound hnone]
    exact forBuilder_registered_none
  · obtain ⟨entry, hentry, used, hused, hchosen, hname, hsame⟩ := exists_chosenName? hsound hfirst
    have hfor : (registered factory config.connections config.registeredName?).forBuilder = if used.1 = "" then
        .error (.sql .noConnection)
        else (registered factory config.connections config.registeredName?).get (.text used.1) := by
      rw [hname, forBuilder_registered hnodup hused, get_registered hnodup hused]
    rw [hsame] at hfor
    refine ⟨entry, hentry, hchosen, fun hne => ?_, fun hempty => ?_⟩
    · rw [hfor, if_neg hne, if_neg hne]
    · rw [hfor, if_pos hempty]

/-- The entries of a connection to a file. -/
def fileEntries : Value :=
  .map [(.text "driver", .text "sqlite"), (.text "database", .text "log.db"), (.text "prefix", .text "log_")]

/-- The entries of two connections. The second has the given name and is the default. -/
def pairEntries (name : String) : List (Value × Value) :=
  [(.text "connections", .map [
      (.text "main", .map [(.text "driver", .text "PgSQL"), (.text "host", .text "db"), (.text "schema", .text "shop"),
        (.text "query_overwriting", .bool true)]),
      (.text name, fileEntries)]),
    (.text "default_connection", .text name)]

def fileConfig : ConnectionConfig := { engine := .sqlite, database := some "log.db", lead := some "log_" }

def serverConfig : ConnectionConfig where
  engine := .postgresql
  host := some "db"
  port := some 5432
  searchPath := some "shop"
  overwriting := true

def pair (name : String) : RootConfig where
  connections := [("main", serverConfig), (name, fileConfig)]
  defaultConnection := some name

def compliant (_ : String) (c : ConnectionConfig) : Driver :=
  .scripted { engine := c.engine, replies := [], beginFailure := none, commitFailure := none, rollbackFailure := none }

theorem opens_pair (name : String) : ∀ entry ∈ (pair name).connections, Opens compliant entry := by
  refine List.forall_mem_cons.2 ⟨⟨⟨_, rfl⟩, trivial⟩, List.forall_mem_singleton.2 trivial⟩

theorem buildRegistry_connects_log : ofEntries (pairEntries "log") = .ok (pair "log") ∧
    ∃ registry journal, (pair "log").buildRegistry (.factory compliant) = (.ok registry, journal) ∧
      (pair "log").Connects compliant registry journal ∧ registry.forBuilder = registry.get (.text "log") := by
  have hread : ofEntries (pairEntries "log") = .ok (pair "log") := rfl
  obtain ⟨registry, journal, hbuild, hconnects, -, hchosen⟩ := buildRegistry_connects hread (opens_pair "log")
  obtain ⟨entry, -, hname, hfor, -⟩ := hchosen _ rfl
  rw [← show "log" = entry.1 from Option.some.inj hname] at hfor
  exact ⟨hread, registry, journal, hbuild, hconnects, hfor (by decide)⟩

/-- With an empty name the second connection is not the one that builders use, although it is configured as the default.
A connection that is the only one is not found at all if its name is empty. -/
theorem not_buildRegistry_connects :
    (ofEntries (pairEntries "") = .ok (pair "") ∧ (∀ entry ∈ (pair "").connections, Opens compliant entry) ∧
      (pair "").chosenName? = some "" ∧ ∃ registry journal,
        (pair "").buildRegistry (.factory compliant) = (.ok registry, journal) ∧
        (registry.get (.text "")).map (·.config.lead) = .ok (some "log_") ∧
        registry.forBuilder.map (·.config.lead) = .ok none) ∧
    ∃ registry journal, ofEntries [(.text "connections", .map [(.text "", fileEntries)])] =
        .ok { connections := [("", fileConfig)] } ∧
      RootConfig.buildRegistry { connections := [("", fileConfig)] } (.factory compliant) = (.ok registry, journal) ∧
      registry.get .null = registry.get (.text "") ∧ registry.forBuilder = .error (.sql .noConnection) :=
  ⟨⟨rfl, opens_pair "", rfl, _, _, rfl, rfl, rfl⟩, _, _, rfl, rfl, rfl, rfl⟩

end RootConfig

end SqlBuilder
