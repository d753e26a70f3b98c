import SqlBuilder.Proofs.Session.Aggregating
import SqlBuilder.Proofs.Session.Calling
import SqlBuilder.Proofs.Session.Noting

/-!
Results that are pending, and what leaves them alone. A verbatim statement leaves its result with its builder, and a
selection from that builder takes it. Nothing else does either, be it with the builder or with one that comes up on
the way.
-/

namespace SqlBuilder

open Act Session

variable {α β : Type} {env : Surroundings} {W : Nat → Prop} {s t u : Session} {id : Nat}

namespace Session

/-- The result that is pending for the builder. -/
def owed (s : Session) (id : Nat) : Option QueryResult := (s.builders[id]?).bind (·.pending)

theorem owed_eq {b : Builder} (hb : s.builders[id]? = some b) : s.owed id = b.pending := by
  unfold owed
  rw [hb]
  rfl

/-- No builder is lost, and those that are watched neither get a result nor lose one that is pending. -/
structure Unspent (W : Nat → Prop) (s t : Session) : Prop where
  size : s.builders.size ≤ t.builders.size
  pending : ∀ k, W k → ∀ b : Builder, s.builders[k]? = some b →
    ∃ b' : Builder, t.builders[k]? = some b' ∧ b'.pending = b.pending

namespace Unspent

instance : IsPreorder Session (Unspent W) where
  refl _ := ⟨Nat.le_refl _, fun _ _ b hb => ⟨b, hb, rfl⟩⟩
  trans s t u h h' := by
    refine ⟨Nat.le_trans h.size h'.size, fun k hk b hb => ?_⟩
    obtain ⟨b', hb', hpending⟩ := h.pending k hk b hb
    obtain ⟨b'', hb'', hpending'⟩ := h'.pending k hk b' hb'
    exact ⟨b'', hb'', hpending'.trans hpending⟩

theorem of_eq (hbuilders : t.builders = s.builders) : Unspent W s t :=
  ⟨Nat.le_of_eq (congrArg Array.size hbuilders).symm, fun _ _ b hb => ⟨b, hbuilders ▸ hb, rfl⟩⟩

theorem modifyBuilder (s : Session) (id : Nat) {f : Builder → Builder} (hf : ∀ b, (f b).pending = b.pending) :
    Unspent W s { s with builders := s.builders.modify id f } where
  size := Nat.le_of_eq Array.size_modify.symm
  pending _ _ b hb := getElem?_modify_of_some hb rfl fun _ => hf b

theorem of_push {b : Builder} (hbuilders : t.builders = s.builders.push b) : Unspent W s t where
  size := by
    rw [hbuilders, Array.size_push]
    exact Nat.le_succ _
  pending _ _ b' hb := ⟨b', hbuilders ▸ getElem?_push_of_some hb, rfl⟩

theorem owed (h : Unspent W s t) {k : Nat} (hk : W k) (hlt : k < s.builders.size) : t.owed k = s.owed k := by
  have hb := Array.getElem?_eq_getElem hlt
  obtain ⟨b', hb', hpending⟩ := h.pending k hk _ hb
  rw [owed_eq hb, owed_eq hb', hpending]

/-! ### What leaves results alone -/

theorem newBuilder (role : BuilderRole) : Keeps (Unspent W) env (Act.newBuilder role) :=
  .bind (fun _ => of_eq rfl) fun _ => .bind .get fun _ _ => of_push rfl

theorem modifyDraft (id : Nat) (f : Draft → Draft) : Keeps (Unspent W) env (Act.modifyDraft id f) :=
  .bind (.bind (.builder _) fun _ => .pure _) fun _ _ => of_eq rfl

theorem clone (depth id : Nat) : Keeps (Unspent W) env (Declare.clone depth id) :=
  Keeps.modular.clone .throw .builder .draft (fun _ _ => of_eq rfl) (fun _ _ => of_push rfl) depth id

theorem declaring [env.Keeps (Unspent W)] :
    Declaring (fun _ => Keeps (Unspent W) env) (fun _ => True) fun _ => True where
  making := Keeps.making newBuilder fun _ _ => of_eq rfl
  newBuilder_bind hf := .bind (newBuilder _) hf
  draftOf_bind _ hf := .bind (.bind (.builder _) fun _ => .pure _) fun n => hf n trivial
  modifyDraftAt _ _ _ _ := of_eq rfl
  drafting _ _ := .bind (.draft _) fun _ => .bind (modifyDraft _ _) fun _ => .lift _

theorem redirect (id other : Nat) : Keeps (Unspent W) env (do
    let b' ← Act.builder other
    Act.modifyBuilder id fun b => { b with draft := b'.draft }) :=
  .bind (.builder _) fun _ s => modifyBuilder s id fun _ => rfl

theorem union [env.Keeps (Unspent W)] (id : Nat) (member kind : Value) :
    Keeps (Unspent W) env (Declare.union id member kind) :=
  (declaring.making (K := [])).union modifyDraft id member kind

instance [env.Keeps (Unspent W)] : env.Tends (Unspent W) where
  tending := {
    toMaking := declaring.making (K := [])
    idle := fun answer change hop hidle _ _ s => by
      rw [hop]
      exact of_eq (hidle s).builders
    modifyDraft := fun _ _ _ _ => modifyDraft _ _
    modifyBuilder := fun id _ _ _ _ hpending s => modifyBuilder s id hpending
    clone := clone
    builderFor := (declaring.making (K := [])).builderFor clone redirect
    table := fun id tables => by
      have h : Keeps (Unspent W) env (Declare.table id tables >>= Pure.pure) :=
        declaring.table_bind (K := []) (.inl trivial) tables fun k _ _ => .pure k
      rwa [bind_pure] at h
    condition := fun id => declaring.condition (K := []) (.inl trivial)
    mutate := fun id _ hc hpurpose _ =>
      declaring.mutate (K := []) hc hpurpose (.inl trivial) fun member kind _ => union id member kind
    redirect := redirect
    union := union }

instance [env.Keeps (Unspent W)] : env.Encloses (Unspent W) where
  statement _ _ _ := of_eq rfl
  called _ _ := of_eq rfl
  noted _ _ _ := of_eq rfl
  opened _ := of_eq rfl
  ended _ _ _ _ _ := of_eq rfl
  assumed _ _ _ _ := of_eq rfl

end Unspent

end Session

/-! ### Statements that are sent -/

namespace Execution

variable {x : Execution} {i : Issued} {result : QueryResult}

/-- The execution sends its statement, and the driver answers with the result and is left in that state. -/
inductive Sends (env : Surroundings) (id : Nat) (x : Execution) (s : Session) : QueryResult → Driver → Prop where
  | mk {i : Issued} {t : Session} {result : QueryResult} (h : x.Reaches env id s i t)
      (hanswer : (t.driver.execute i.sql i.bindings).1 = .ok result) :
      Sends env id x s result ((DriverCall.execute i.sql i.bindings).after t.driver)

/-- The result of a statement that goes to the driver is the answer of the driver. -/
theorem answer_of_run (h : (Execute.run id i).exec env s = (.ok result, t)) :
    (s.driver.execute i.sql i.bindings).1 = .ok result := by
  obtain ⟨hopen, -⟩ := run_eq_ok h
  have hitems : (Act.lift (Execute.itemsOf (.tuple i.bindings))).exec env s = (.ok i.bindings, s) := exec_lift _
  unfold Execute.run Execute.statement at h
  rw [exec_bind_ok hopen, exec_bind_ok hitems] at h
  obtain ⟨answer, u, hexecuted, h⟩ := exec_bind_eq_ok h
  obtain ⟨_, v, -, h⟩ := exec_bind_eq_ok h
  cases h
  rw [Execute.exec_reported] at hexecuted
  cases hanswer : (s.driver.execute i.sql i.bindings).1 with
  | error fault =>
      rw [hanswer] at hexecuted
      cases hexecuted
  | ok other =>
      rw [hanswer] at hexecuted
      cases hexecuted
      rfl

end Execution

/-- The rows that a selection gives: those of its own statement, unless a result takes its place. -/
inductive Draws (env : Surroundings) (id : Nat) (s : Session) : Option QueryResult → List Row → Prop where
  | sent {result : QueryResult} {d : Driver} (h : Execution.select.Sends env id s result d) :
      Draws env id s none result.rows
  | pending (result : QueryResult) : Draws env id s (some result) result.rows

namespace Session

/-- What a selection of the builder does at most: its result may be taken, and without one nothing is. -/
structure Spends (W : Nat → Prop) (id : Nat) (s t : Session) : Prop where
  size : s.builders.size ≤ t.builders.size
  unspent : s.owed id = none → Unspent W s t
  owed : t.owed id = s.owed id ∨ t.owed id = none

/-- A builder that is there does not do more than that. -/
def Taking (W : Nat → Prop) (id : Nat) (s t : Session) : Prop := id < s.builders.size → Spends W id s t

theorem Unspent.spends (h : Unspent W s t) (hW : W id) (hid : id < s.builders.size) : Spends W id s t :=
  ⟨h.size, fun _ => h, .inl (h.owed hW hid)⟩

theorem Unspent.taking (hW : W id) (h : Unspent W s t) : Taking W id s t := h.spends hW

instance : IsPreorder Session (Taking W id) where
  refl _ _ := ⟨Nat.le_refl _, fun _ => refl_of _ _, .inl rfl⟩
  trans s t u hst htu hid := by
    have h := hst hid
    have h' := htu (Nat.lt_of_lt_of_le hid h.size)
    -- a result that has been taken does not come back
    have hnone : t.owed id = none → u.owed id = none := fun hnone => h'.owed.elim (·.trans hnone) fun hnone => hnone
    refine ⟨Nat.le_trans h.size h'.size, fun hs => ?_, ?_⟩
    · exact trans_of _ (h.unspent hs) (h'.unspent (h.owed.elim (·.trans hs) fun hnone => hnone))
    · exact h.owed.elim (fun hsame => h'.owed.imp_left (·.trans hsame)) fun ht => .inr (hnone ht)

end Session

/-- What has come of a selection: if it has succeeded, the builder has no pending result any more. -/
structure Drawn (env : Surroundings) (W : Nat → Prop) (id : Nat) (s : Session) (outcome : Except Fault (List Row))
    (u : Session) : Prop extends Spends W id s u where
  rows : ∀ rows, outcome = .ok rows → u.owed id = none ∧ Draws env id s (s.owed id) rows

namespace Execution

variable {i : Issued} {result : QueryResult} {b : Builder}

/-- A pending result is taken in the place of a selection. -/
theorem exec_handOver_some (hb : s.builders[id]? = some b) (hpending : b.pending = some result) :
    (select.handOver id i).exec env s =
      (.ok result, { s with builders := s.builders.modify id fun b => { b with pending := none } }) := by
  unfold handOver
  rw [exec_bind_ok (exec_builder_of_some hb), hpending]
  rfl

end Execution

namespace Execute

variable [env.Keeps (Unspent W)]

theorem unspent_ready (id : Nat) (x : Execution) : Keeps (Unspent W) env (x.ready id) :=
  Keeps.tending.toMaking.ready .get id x

/-- The hooks behind a selection. -/
theorem unspent_behind (id : Nat) (i : Issued) (result : QueryResult) : Keeps (Unspent W) env (do
    let _ ← fire id .afterSelect (some i) (.map [timing])
    pure result.rows) := .bind (Keeps.tending.fire _ _ _ _) fun _ => .pure _

section Handing

variable {i : Issued} {b : Builder} {outcome : Except Fault (List Row)}
  (hW : W id) (hid : id < s.builders.size) (hready : (Execution.select.ready id).exec env s = (.ok i, t))
  (hb : t.builders[id]? = some b) (hpending : b.pending = s.owed id)
  (hexec : (do
    let result ← Execution.select.handOver id i
    let _ ← fire id .afterSelect (some i) (.map [timing])
    pure result.rows : Act (List Row)).exec env t = (outcome, u))

include hW hid hready hb hpending hexec

theorem drawn_of_none (hnone : b.pending = none) : Drawn env W id s outcome u := by
  have hrun : Keeps (Unspent W) env (run id i) := keeps_statement _ _ _
  rw [exec_bind, Execution.exec_handOver_none hb hnone, ← exec_bind] at hexec
  have hback : Unspent W s u := trans_of _ ((unspent_ready id .select).of_exec hready)
    ((Keeps.bind hrun fun result => unspent_behind id i result).of_exec hexec)
  have howed : u.owed id = s.owed id := hback.owed hW hid
  refine ⟨hback.spends hW hid, fun rows hrows => ⟨?_, ?_⟩⟩
  · rw [howed, ← hpending, hnone]
  · subst hrows
    obtain ⟨result, v, hran, hexec⟩ := exec_bind_eq_ok hexec
    obtain ⟨_, w, -, hexec⟩ := exec_bind_eq_ok hexec
    cases hexec
    obtain ⟨hopen, -⟩ := Execution.run_eq_ok hran
    rw [← hpending, hnone]
    exact .sent (.mk ⟨hready, hopen, fun _ => ⟨b, hb, hnone⟩⟩ (Execution.answer_of_run hran))

omit hid in
theorem drawn_of_some {result : QueryResult} (hsome : b.pending = some result) : Drawn env W id s outcome u := by
  let v : Session := { t with builders := t.builders.modify id fun b => { b with pending := none } }
  have hsize : t.builders.size = v.builders.size := Array.size_modify.symm
  have hv : v.owed id = none := by
    have hb' : v.builders[id]? = some { b with pending := none } := by
      rw [Array.getElem?_modify, if_pos rfl, hb]
      rfl
    rw [owed_eq hb']
  rw [exec_bind_ok (Execution.exec_handOver_some hb hsome)] at hexec
  have hvu : Unspent W v u := (unspent_behind id i result).of_exec hexec
  have hu : u.owed id = none := (hvu.owed hW (hsize ▸ (Array.getElem?_eq_some_iff.1 hb).1)).trans hv
  have hst : Unspent W s t := (unspent_ready id .select).of_exec hready
  refine ⟨⟨?_, fun hnone => ?_, .inr hu⟩, fun rows hrows => ⟨hu, ?_⟩⟩
  · exact Nat.le_trans hst.size (Nat.le_trans (Nat.le_of_eq hsize) hvu.size)
  · rw [← hpending, hsome] at hnone
    cases hnone
  · subst hrows
    obtain ⟨_, w, -, hexec⟩ := exec_bind_eq_ok hexec
    cases hexec
    rw [← hpending, hsome]
    exact .pending result

end Handing

theorem drawn_selectRows (hW : W id) (hid : id < s.builders.size) {outcome : Except Fault (List Row)}
    (hexec : (selectRows id).exec env s = (outcome, u)) : Drawn env W id s outcome u := by
  -- the result is taken between the hooks in front of the statement and those behind it
  rw [selectRows_eq] at hexec
  rcases hready : (Execution.select.ready id).exec env s with ⟨made, t⟩
  have hst : Unspent W s t := (unspent_ready id .select).of_exec hready
  cases made with
  | error fault =>
      rw [exec_bind_error hready] at hexec
      cases hexec
      exact ⟨hst.spends hW hid, nofun⟩
  | ok i =>
      rw [exec_bind_ok hready] at hexec
      have hb := Array.getElem?_eq_getElem hid
      obtain ⟨b, hb', hpending⟩ := hst.pending id hW _ hb
      rw [← owed_eq hb] at hpending
      cases hresult : b.pending with
      | none => exact drawn_of_none hW hid hready hb' hpending hexec hresult
      | some result => exact drawn_of_some hW hready hb' hpending hexec hresult

theorem taking_selectRows (hW : W id) : Keeps (Taking W id) env (selectRows id) :=
  fun _ hid => (drawn_selectRows hW hid rfl).toSpends

end Execute

end SqlBuilder
