import SqlBuilder.Proofs.Session.Linking

/-!
The prefix of tables. Every builder has the one that the connection tells new builders, whatever is called on them, as
long as the scripts of groups and hooks keep that up; and scripts do.
-/

namespace SqlBuilder

open Act Session

variable {α β : Type} {env : Surroundings} {s t : Session} {lead : Option String}

namespace Session

/-- The connection has this prefix, and so have all of its builders. -/
structure LedBy (lead : Option String) (s : Session) : Prop where
  connection : s.lead = lead
  builder : ∀ (id : Nat) (b : Builder), s.builders[id]? = some b → b.lead = lead

/-- Builders that have the prefix of the connection keep it, and new ones get it. -/
def Leads (lead : Option String) (s t : Session) : Prop := s.LedBy lead → t.LedBy lead

instance : IsPreorder Session (Leads lead) where
  refl _ h := h
  trans _ _ _ hst htu h := htu (hst h)

namespace LedBy

theorem of_eq (h : s.LedBy lead) (hlead : t.lead = s.lead) (hbuilders : t.builders = s.builders) : t.LedBy lead :=
  ⟨hlead.trans h.connection, fun id b hb => h.builder id b (hbuilders ▸ hb)⟩

/-- A builder comes up with the prefix. -/
theorem push (h : s.LedBy lead) {b : Builder} (hb : b.lead = lead) (hlead : t.lead = s.lead)
    (hbuilders : t.builders = s.builders.push b) : t.LedBy lead where
  connection := hlead.trans h.connection
  builder id b' hb' := by
    rw [hbuilders] at hb'
    obtain rfl | hb' := getElem?_push_eq_some hb'
    · exact hb
    · exact h.builder id b' hb'

theorem modifyBuilder (h : s.LedBy lead) (id : Nat) {f : Builder → Builder} (hf : ∀ b, (f b).lead = b.lead) :
    ({ s with builders := s.builders.modify id f } : Session).LedBy lead where
  connection := h.connection
  builder id' b hb := by
    obtain ⟨-, b', hb', rfl⟩ | ⟨-, hb⟩ := getElem?_modify_eq_some hb
    · exact (hf b').trans (h.builder id' b' hb')
    · exact h.builder id' b hb

end LedBy

namespace Leads

theorem of_eq (hlead : t.lead = s.lead) (hbuilders : t.builders = s.builders) : Leads lead s t :=
  fun h => h.of_eq hlead hbuilders

/-! ### Declarations -/

theorem newBuilder (role : BuilderRole) : Keeps (Leads lead) env (Act.newBuilder role) :=
  fun _ h => h.push h.connection rfl rfl

theorem modifyDraftAt (n : Nat) (f : Draft → Draft) : Keeps (Leads lead) env (Act.modifyDraftAt n f) :=
  fun _ => of_eq rfl rfl

theorem modifyDraft (id : Nat) (f : Draft → Draft) : Keeps (Leads lead) env (Act.modifyDraft id f) :=
  .bind (.bind (.builder _) fun _ => .pure _) fun n => modifyDraftAt n f

/-- What follows finds the prefix in the builder. -/
theorem builder_bind {id : Nat} {f : Builder → Act β} (hf : ∀ b, b.lead = lead → Keeps (Leads lead) env (f b)) :
    Keeps (Leads lead) env (Act.builder id >>= f) := by
  intro s h
  refine Keeps.bind_at (R := Leads lead) (.builder id) (fun b t hbuilder => ?_) h
  obtain ⟨hb, rfl⟩ := exec_builder_eq_ok hbuilder
  exact hf b (h.builder id b hb) t

/-- Whatever is declared, new builders get the prefix. -/
theorem declaring [env.Keeps (Leads lead)] :
    Declaring (fun _ => Keeps (Leads lead) env) (fun _ => True) fun _ => True where
  making := Keeps.making newBuilder fun _ _ => of_eq rfl rfl
  newBuilder_bind hf := .bind (newBuilder _) hf
  draftOf_bind _ hf := .bind (.bind (.builder _) fun _ => .pure _) fun n => hf n trivial
  modifyDraftAt _ _ _ := modifyDraftAt _ _
  drafting _ _ := .bind (.draft _) fun _ => .bind (modifyDraft _ _) fun _ => .lift _

/-- A copy has the prefix of its original. -/
theorem clone (depth id : Nat) : Keeps (Leads lead) env (Declare.clone depth id) := by
  induction depth generalizing id with
  | zero => exact .throw _
  | succ depth ih =>
      refine builder_bind fun b hb => .bind (.draft _) fun _ => .bind ?_ fun _ => ?_
      · refine Keeps.modular.optionMapM (fun joins => Keeps.modular.mapM (fun j => ?_) joins) _
        exact .bind (Keeps.modular.optionMapM ih _) fun _ => .pure _
      · refine .bind (fun _ => of_eq rfl rfl) fun draft s h => ?_
        exact h.push (b := { b with draft, pending := none }) hb rfl rfl

theorem redirect (id other : Nat) : Keeps (Leads lead) env (do
    let b' ← Act.builder other
    Act.modifyBuilder id fun b => { b with draft := b'.draft }) :=
  .bind (.builder _) fun _ _ h => h.modifyBuilder id fun _ => rfl

theorem union [env.Keeps (Leads lead)] (id : Nat) (member kind : Value) :
    Keeps (Leads lead) env (Declare.union id member kind) :=
  (declaring.making (K := [])).union modifyDraft id member kind

/-! ### Calls and scripts -/

theorem working [env.Keeps (Leads lead)] : Working (Keeps (Leads lead) env) where
  toMaking := declaring.making (K := [])
  idle answer change hop hidle _ _ s := by
    rw [hop]
    exact of_eq (hidle s).lead (hidle s).builders
  modifyDraft _ _ _ _ := modifyDraft _ _
  modifyBuilder id _ _ _ hlead _ _ h := h.modifyBuilder id hlead
  clone := clone
  builderFor := (declaring.making (K := [])).builderFor clone redirect
  table id tables := by
    have h : Keeps (Leads lead) env (Declare.table id tables >>= Pure.pure) :=
      declaring.table_bind (K := []) (.inl trivial) tables fun k _ _ => .pure k
    rwa [bind_pure] at h
  condition id := declaring.condition (K := []) (.inl trivial)
  mutate id _ hc hpurpose _ :=
    declaring.mutate (K := []) hc hpurpose (.inl trivial) fun member kind _ => union id member kind
  redirect := redirect
  union := union
  take id _ h := h.modifyBuilder id fun _ => rfl

instance declares [env.Keeps (Leads lead)] : env.Declares (Leads lead) := ⟨working⟩

instance transacts [env.Keeps (Leads lead)] : env.Transacts (Leads lead) where
  statement _ _ _ := of_eq rfl rfl
  pending id _ _ _ _ _ _ _ hst h := (hst h).modifyBuilder id fun _ => rfl
  called _ _ := of_eq rfl rfl
  noted _ _ _ := of_eq rfl rfl
  opened _ := of_eq rfl rfl
  ended _ _ _ _ _ := of_eq rfl rfl
  assumed _ _ _ _ := of_eq rfl rfl
  resumed _ _ _ _ hst h := (hst (h.of_eq rfl rfl)).of_eq rfl rfl

end Leads

namespace LedBy

instance surroundings (depth : Nat) : (Play.surroundings depth).Keeps (Leads lead) :=
  Play.keeps_surroundings (fun _ _ => inferInstance) (fun _ _ => inferInstance) depth

/-- In a session that has been set up every builder has the prefix of the connection. -/
theorem ofSource {source : DriverSource} {config : Option ConnectionConfig}
    (h : (Started.ofSource source config).outcome = .ok s) : s.LedBy (config.bind (·.lead)) := by
  obtain ⟨driver, t, hstart, rfl⟩ := exec_start_of_source h
  have hempty : (Session.ofDriver driver config).LedBy (config.bind (·.lead)) := ⟨rfl, by simp [ofDriver]⟩
  have hkeeps : Keeps (Leads (config.bind (·.lead))) (Play.surroundings Play.maxDepth) (start config) :=
    keeps_start config
  have hled := hkeeps _ hempty
  rw [hstart] at hled
  exact hled.of_eq rfl rfl

end LedBy

end Session

end SqlBuilder
