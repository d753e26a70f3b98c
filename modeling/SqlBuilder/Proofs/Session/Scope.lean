import SqlBuilder.Proofs.Session.Keeps

/-!
The scopes of transactions through a session. A scope that has ended stays so, a builder stays in its scope, and no
builder of a scope that has ended gets a pending result. Most operations are quiet: apart from the scripts that
they run they leave the driver, the journal and the scopes alone.
-/

namespace SqlBuilder

namespace Session

def Closed (s : Session) (scope : Nat) (status : TransactionStatus) : Prop := s.scopes[scope]? = some (some status)

/-- The builder works in the scope. -/
def InScope (s : Session) (scope id : Nat) : Prop :=
  ∃ b : Builder, s.builders[id]? = some b ∧ b.role = .transaction scope

/-- The driver, the journal and the scopes are as before. Every builder keeps its role, and none gets a pending
result. -/
structure Quiet (s s' : Session) : Prop where
  driver : s'.driver = s.driver
  journal : s'.journal = s.journal
  scopes : s'.scopes = s.scopes
  builders : ∀ (id : Nat) (b : Builder), s.builders[id]? = some b →
    ∃ b' : Builder, s'.builders[id]? = some b' ∧ b'.role = b.role ∧ (b.pending = none → b'.pending = none)

/-- What has ended stays so. Every builder keeps its role, and those of scopes that have ended get no pending
result. -/
structure Extends (s s' : Session) : Prop where
  closed : ∀ scope status, s.Closed scope status → s'.Closed scope status
  builders : ∀ (id : Nat) (b : Builder), s.builders[id]? = some b →
    ∃ b' : Builder, s'.builders[id]? = some b' ∧ b'.role = b.role ∧
      ∀ scope status, b.role = .transaction scope → s.Closed scope status → b.pending = none → b'.pending = none

theorem Quiet.refl (s : Session) : Quiet s s := ⟨rfl, rfl, rfl, fun _ b h => ⟨b, h, rfl, id⟩⟩

theorem Quiet.trans {s t u : Session} (h : Quiet s t) (h' : Quiet t u) : Quiet s u := by
  refine ⟨h'.driver.trans h.driver, h'.journal.trans h.journal, h'.scopes.trans h.scopes, fun id b hb => ?_⟩
  obtain ⟨b', hb', hrole, hpending⟩ := h.builders id b hb
  obtain ⟨b'', hb'', hrole', hpending'⟩ := h'.builders id b' hb'
  exact ⟨b'', hb'', hrole'.trans hrole, fun hb => hpending' (hpending hb)⟩

theorem Extends.refl (s : Session) : Extends s s :=
  ⟨fun _ _ h => h, fun _ b h => ⟨b, h, rfl, fun _ _ _ _ hpending => hpending⟩⟩

theorem Extends.trans {s t u : Session} (h : Extends s t) (h' : Extends t u) : Extends s u := by
  refine ⟨fun scope status hs => h'.closed _ _ (h.closed _ _ hs), fun id b hb => ?_⟩
  obtain ⟨b', hb', hrole, hpending⟩ := h.builders id b hb
  obtain ⟨b'', hb'', hrole', hpending'⟩ := h'.builders id b' hb'
  refine ⟨b'', hb'', hrole'.trans hrole, fun scope status hscope hclosed hnone => ?_⟩
  exact hpending' scope status (hrole.trans hscope) (h.closed _ _ hclosed) (hpending scope status hscope hclosed hnone)

instance : IsPreorder Session Quiet where
  refl := Quiet.refl
  trans _ _ _ := Quiet.trans

instance : IsPreorder Session Extends where
  refl := Extends.refl
  trans _ _ _ := Extends.trans

theorem Quiet.of_eq {s s' : Session} (hdriver : s'.driver = s.driver) (hjournal : s'.journal = s.journal)
    (hscopes : s'.scopes = s.scopes) (hbuilders : s'.builders = s.builders) : Quiet s s' :=
  ⟨hdriver, hjournal, hscopes, fun _ b hb => ⟨b, hbuilders ▸ hb, rfl, fun hnone => hnone⟩⟩

theorem Quiet.modifyBuilder (s : Session) (id : Nat) {f : Builder → Builder} (hrole : ∀ b, (f b).role = b.role)
    (hpending : ∀ b, b.pending = none → (f b).pending = none) :
    Quiet s { s with builders := s.builders.modify id f } :=
  ⟨rfl, rfl, rfl, fun _ b hb =>
    getElem?_modify_of_some hb ⟨rfl, fun hnone => hnone⟩ fun _ => ⟨hrole b, hpending b⟩⟩

theorem Quiet.pushBuilder (s : Session) (b : Builder) : Quiet s { s with builders := s.builders.push b } :=
  ⟨rfl, rfl, rfl, fun _ b' hb => ⟨b', getElem?_push_of_some hb, rfl, fun hnone => hnone⟩⟩

theorem Quiet.extends {s s' : Session} (h : Quiet s s') : Extends s s' := by
  refine ⟨fun scope status hs => ?_, fun id b hb => ?_⟩
  · rw [Closed, h.scopes]
    exact hs
  · obtain ⟨b', hb', hrole, hpending⟩ := h.builders id b hb
    exact ⟨b', hb', hrole, fun _ _ _ _ hnone => hpending hnone⟩

theorem Extends.inScope {s s' : Session} {scope id : Nat} (h : Extends s s') (hid : s.InScope scope id) :
    s'.InScope scope id := by
  obtain ⟨b, hb, hrole⟩ := hid
  obtain ⟨b', hb', hrole', -⟩ := h.builders id b hb
  exact ⟨b', hb', hrole'.trans hrole⟩

/-- Builders that are as before are all that a change needs to extend a session, if the scopes are, too. -/
theorem Extends.of_eq {s s' : Session} (hscopes : s'.scopes = s.scopes) (hbuilders : s'.builders = s.builders) :
    Extends s s' := by
  refine ⟨fun scope status hs => ?_, fun id b hb => ⟨b, hbuilders ▸ hb, rfl, fun _ _ _ _ hnone => hnone⟩⟩
  rw [Closed, hscopes]
  exact hs

/-- Any change of a builder but for its role, unless its scope has ended before. -/
theorem Extends.modifyBuilder {s t : Session} (h : Extends s t) {id : Nat} {f : Builder → Builder}
    (hrole : ∀ b, (f b).role = b.role) (hopen : ∀ scope status, s.InScope scope id → ¬ s.Closed scope status) :
    Extends s { t with builders := t.builders.modify id f } := by
  refine ⟨h.closed, fun id' b hb => ?_⟩
  obtain ⟨b', hb', hrole', hpending⟩ := h.builders id' b hb
  refine getElem?_modify_of_some hb' ⟨hrole', hpending⟩ fun hid => ?_
  refine ⟨(hrole b').trans hrole', fun scope status hscope hclosed => ?_⟩
  exact absurd hclosed (hopen scope status ⟨b, hid ▸ hb, hscope⟩)

/-- A scope that is still open may end. -/
theorem Extends.closeScope {s : Session} {scope : Nat} (hopen : ∀ status, ¬ s.Closed scope status)
    (status : TransactionStatus) :
    Extends s { s with scopes := s.scopes.modify scope fun _ => some status } := by
  refine ⟨fun scope' status' hclosed => ?_, fun _ b hb => ⟨b, hb, rfl, fun _ _ _ _ hnone => hnone⟩⟩
  have hne : scope ≠ scope' := by
    rintro rfl
    exact hopen status' hclosed
  unfold Closed
  rw [Array.getElem?_modify, if_neg hne]
  exact hclosed

theorem Extends.pushScope (s : Session) : Extends s { s with scopes := s.scopes.push none } :=
  ⟨fun _ _ hclosed => getElem?_push_of_some hclosed, fun _ b hb => ⟨b, hb, rfl, fun _ _ _ _ hnone => hnone⟩⟩

/-- The state comes about by quiet changes and by the scripts of groups and hooks. -/
inductive Scripted (env : Surroundings) (s : Session) : Session → Prop where
  | quiet {t : Session} (h : Quiet s t) : Scripted env s t
  | later {t u : Session} (h : Scripted env s t) (h' : Quiet t u) : Scripted env s u
  | fill {t : Session} (h : Scripted env s t) (script : Nat) (target : Value) :
      Scripted env s ((env.fill script target).run.run t).2
  | notify {t : Session} (h : Scripted env s t) (name : String) (script : Nat) (call : HookCall) :
      Scripted env s ((env.notify name script call).run.run t).2

theorem Scripted.trans {env : Surroundings} {s t u : Session} (h : Scripted env s t) (h' : Scripted env t u) :
    Scripted env s u := by
  induction h' with
  | quiet hq => exact h.later hq
  | later _ hq ih => exact ih.later hq
  | fill _ script target ih => exact ih.fill script target
  | notify _ name script call ih => exact ih.notify name script call

instance (env : Surroundings) : IsPreorder Session (Scripted env) where
  refl s := .quiet (.refl s)
  trans _ _ _ := Scripted.trans

end Session

/-- The scripts of groups and hooks keep a relation between states. -/
class Surroundings.Keeps (R : Session → Session → Prop) (env : Surroundings) : Prop where
  fill : ∀ script target s, R s ((env.fill script target).run.run s).2
  notify : ∀ name script call s, R s ((env.notify name script call).run.run s).2

namespace Session

/-- What all quiet changes and the scripts keep is kept by whatever is made of them. -/
theorem Scripted.of_keeps {R : Session → Session → Prop} [IsPreorder Session R] {env : Surroundings}
    {s s' : Session} (h : Scripted env s s') (hquiet : ∀ t u, Quiet t u → R t u) [env.Keeps R] : R s s' := by
  induction h with
  | quiet hq => exact hquiet _ _ hq
  | later _ hq ih => exact trans_of R ih (hquiet _ _ hq)
  | fill _ script target ih => exact trans_of R ih (Surroundings.Keeps.fill script target _)
  | notify _ name script call ih => exact trans_of R ih (Surroundings.Keeps.notify name script call _)

theorem Scripted.extends {env : Surroundings} [env.Keeps Extends] {s s' : Session} (h : Scripted env s s') :
    Extends s s' := h.of_keeps fun _ _ => Quiet.extends

end Session

end SqlBuilder
