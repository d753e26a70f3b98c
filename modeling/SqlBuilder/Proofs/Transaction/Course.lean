import SqlBuilder.Proofs.Session.Playing
import SqlBuilder.Proofs.Transaction.Stage

/-!
The course of a session in terms of moves: which calls of the driver are made, in order, and what becomes of the
scopes with them. The journal tells every call that has reached the database, so that a course leaves no call out and
makes none up.
-/

namespace SqlBuilder

open Act Session

variable {α : Type} {env : Surroundings} {P : Move → Prop}

namespace Session

/-- What a session has to do with transactions. -/
def stage (s : Session) : Stage := ⟨s.driver, s.scopes⟩

/-- Every builder stays in its scope. -/
def Roles (s t : Session) : Prop := ∀ scope id, s.InScope scope id → t.InScope scope id

theorem Roles.of_eq {s t : Session} (h : t.builders = s.builders) : Roles s t := by
  rintro scope id ⟨b, hb, hrole⟩
  exact ⟨b, by rw [h, hb], hrole⟩

theorem Roles.trans {s t u : Session} (h : Roles s t) (h' : Roles t u) : Roles s u :=
  fun scope id hid => h' scope id (h scope id hid)

theorem Roles.modifyBuilder (s : Session) (id : Nat) {f : Builder → Builder} (hrole : ∀ b, (f b).role = b.role) :
    Roles s { s with builders := s.builders.modify id f } := by
  rintro scope other ⟨b, hb, hb'⟩
  exact getElem?_modify_of_some hb hb' fun _ => (hrole b).trans hb'

theorem Quiet.roles {s t : Session} (h : Quiet s t) : Roles s t := fun _ _ hid => h.extends.inScope hid

end Session

/-- The moves take a session to another one. -/
inductive Course : Session → List Move → Session → Prop where
  /-- Anything but the driver, the journal and the scopes may change. -/
  | still {s t : Session} (hstage : t.stage = s.stage) (hjournal : t.journal = s.journal) (hroles : Roles s t) :
      Course s [] t
  | noted {s : Session} (entry : Entry) (h : entry.IsRemark) : Course s [] (s.noted entry)
  | move {s t : Session} (m : Move) (hfits : m.Fits s.stage) (hstage : t.stage = s.stage.after m)
      (hjournal : t.journal = s.journal ++ (m.entries s.driver).map Entry.wire) (hroles : Roles s t) :
      Course s [m] t
  /-- The journal is put aside and comes back, but what happens in between is on record. -/
  | resumed {s t : Session} {ms : List Move} (h : Course s.aside ms t) (report : Report)
      (inner : Option (List Record)) : Course s ms (s.resumed t report inner)
  | append {s t u : Session} {ms ms' : List Move} (h : Course s ms t) (h' : Course t ms' u) :
      Course s (ms ++ ms') u

namespace Course

variable {s t u : Session} {ms : List Move} {m : Move}

theorem refl (s : Session) : Course s [] s := .still rfl rfl fun _ _ h => h

theorem of_quiet (h : Quiet s t) : Course s [] t := by
  refine .still ?_ h.journal h.roles
  unfold stage
  rw [h.driver, h.scopes]

/-- The course is one of the stage. -/
theorem run (h : Course s ms t) : t.stage = s.stage.run ms ∧ s.stage.Allows ms := by
  induction h with
  | still hstage hjournal hroles => exact ⟨hstage, trivial⟩
  | noted entry h => exact ⟨rfl, trivial⟩
  | move m hfits hstage hjournal hroles => exact ⟨hstage, Stage.allows_singleton.mpr hfits⟩
  | resumed h report inner ih => exact ih
  | append h h' ih ih' =>
      rw [Stage.run_append, ← ih.1]
      exact ⟨ih'.1, Stage.allows_append.mpr ⟨ih.2, ih.1 ▸ ih'.2⟩⟩

theorem roles (h : Course s ms t) : Roles s t := by
  induction h with
  | still hstage hjournal hroles => exact hroles
  | noted entry h => exact .of_eq rfl
  | move m hfits hstage hjournal hroles => exact hroles
  | @resumed s t ms h report inner ih =>
      have haside : Roles s s.aside := .of_eq rfl
      exact (haside.trans ih).trans (.of_eq rfl)
  | append h h' ih ih' => exact ih.trans ih'

theorem called (s : Session) (c : DriverCall) : Course s [.call c] (s.called c) :=
  .move (.call c) trivial rfl rfl (.of_eq rfl)

theorem opened (s : Session) : Course s [.opened] s.opened :=
  .move .opened trivial rfl (List.append_nil _).symm (.of_eq rfl)

theorem ended {scope : Nat} (status : TransactionStatus) (hopen : s.scopes[scope]?.getD none = none)
    (h : status.call.Succeeds s.driver) :
    Course s [.ended scope status] ((s.called status.call).closing scope status) :=
  .move (.ended scope status) ⟨hopen, h⟩ rfl rfl (.of_eq rfl)

theorem refused {scope : Nat} (status : TransactionStatus) (hopen : s.scopes[scope]?.getD none = none)
    (h : ¬ status.call.Succeeds s.driver) : Course s [.refused scope status] (s.called status.call) :=
  .move (.refused scope status) ⟨hopen, h⟩ rfl rfl (.of_eq rfl)

theorem assumed {scope : Nat} (hopen : s.scopes[scope]?.getD none = none) (h : s.driver.inTransaction = false) :
    Course s [.assumed scope] (s.closing scope .committed) :=
  .move (.assumed scope) ⟨hopen, h⟩ rfl (List.append_nil _).symm (.of_eq rfl)

end Course

namespace Session

/-- The session takes a course of moves of that kind. -/
def Courses (P : Move → Prop) (s t : Session) : Prop := ∃ ms, (∀ m ∈ ms, P m) ∧ Course s ms t

theorem Courses.of_still {s t : Session} (h : Course s [] t) : Courses P s t :=
  ⟨[], fun _ hm => absurd hm List.not_mem_nil, h⟩

theorem Courses.of_move {s t : Session} {m : Move} (hm : P m) (h : Course s [m] t) : Courses P s t := by
  refine ⟨[m], fun m' hm' => ?_, h⟩
  rw [List.mem_singleton.mp hm']
  exact hm

theorem Courses.trans {s t u : Session} (h : Courses P s t) (h' : Courses P t u) : Courses P s u := by
  obtain ⟨ms, hms, h⟩ := h
  obtain ⟨ms', hms', h'⟩ := h'
  refine ⟨ms ++ ms', fun m hm => ?_, h.append h'⟩
  obtain hm | hm := List.mem_append.mp hm
  · exact hms m hm
  · exact hms' m hm

instance : IsPreorder Session (Courses P) where
  refl s := .of_still (.refl s)
  trans _ _ _ := Courses.trans

instance : Lax (Courses P) := ⟨fun _ _ h => .of_still (.of_quiet h)⟩

/-- Executions take courses of statements. -/
theorem executes_courses [env.Keeps (Courses P)] (hP : ∀ c : DriverCall, c.IsStatement → P (.call c)) :
    env.Executes (Courses P) where
  statement c s hc := .of_move (hP c hc) (.called s c)
  pending id _ _ _ _ _ t _ h := h.trans (.of_still (.still rfl rfl (.modifyBuilder t id fun _ => rfl)))

instance [env.Keeps (Courses fun _ => True)] : env.Transacts (Courses fun _ => True) where
  toExecutes := executes_courses fun _ _ => trivial
  called c s := .of_move trivial (.called s c)
  noted s entry h := .of_still (.noted entry h)
  opened s := .of_move trivial (.opened s)
  ended s scope status hopen h := .of_move trivial (.ended status hopen h)
  assumed s scope hopen h := .of_move trivial (.assumed hopen h)
  resumed s t report inner h := by
    obtain ⟨ms, hms, h⟩ := h
    exact ⟨ms, hms, h.resumed report inner⟩

end Session

/-- Whatever the scripts of groups and hooks do, they take a course. -/
instance (depth : Nat) : (Play.surroundings depth).Keeps (Courses fun _ => True) :=
  Play.keeps_surroundings (fun _ _ => inferInstance) (fun _ _ => inferInstance) depth

end SqlBuilder
