import SqlBuilder.Proofs.Session.Scope

/-!
Operations that do not look at the scopes of transactions. Such an operation ends in the same way when the scopes
are seen in another guise, if the scripts that it runs do, and it leaves the same state behind but for the guise.
Apart from its scripts it is quiet.
-/

namespace SqlBuilder

open Session

/-- The same session with its scopes in another guise. -/
def Session.rescope (view : Array (Option TransactionStatus) → Array (Option TransactionStatus)) (s : Session) :
    Session := { s with scopes := view s.scopes }

/-- Another guise of the scopes, with surroundings whose scripts do under it what they do without it. The states
that it is for may be restricted, as long as they are not left. -/
structure Guise (env : Surroundings) where
  view : Array (Option TransactionStatus) → Array (Option TransactionStatus)
  other : Surroundings
  holds : Session → Prop
  holds_of_scripted : ∀ s t, holds s → Scripted env s t → holds t
  fill : ∀ script target s, holds s → (other.fill script target).run.run (s.rescope view) =
    Prod.map id (rescope view) ((env.fill script target).run.run s)
  notify : ∀ name script call s, holds s → (other.notify name script call).run.run (s.rescope view) =
    Prod.map id (rescope view) ((env.notify name script call).run.run s)
  depth : other.depth = env.depth

namespace Act

variable {α β : Type} {env : Surroundings} {g : Guise env}

/-- From the given state on, the operation ends in the same way under the guise, and is quiet but for its scripts. -/
structure BlindAt (g : Guise env) (op : Act α) (s : Session) : Prop where
  scripted : Scripted env s (op.exec env s).2
  same : op.exec g.other (s.rescope g.view) = Prod.map id (rescope g.view) (op.exec env s)

/-- The operation ends in the same way under the guise, and is quiet but for its scripts. -/
def Blind (g : Guise env) (op : Act α) : Prop := ∀ s, g.holds s → BlindAt g op s

theorem BlindAt.bind {op : Act α} {k : α → Act β} {s : Session} (hop : BlindAt g op s)
    (hk : ∀ x t, op.exec env s = (.ok x, t) → Scripted env s t → BlindAt g (k x) t) : BlindAt g (op >>= k) s := by
  obtain ⟨hs, hsame⟩ := hop
  rcases hr : op.exec env s with ⟨outcome, t⟩
  rw [hr] at hs hsame
  cases outcome with
  | error fault =>
      constructor
      · rw [exec_bind_error hr]
        exact hs
      · rw [exec_bind_error hr, exec_bind_error hsame]
        rfl
  | ok x =>
      have hkt := hk x t hr hs
      constructor
      · rw [exec_bind_ok hr]
        exact hs.trans hkt.scripted
      · rw [exec_bind_ok hr, exec_bind_ok hsame]
        exact hkt.same

namespace Blind

theorem keeps {op : Act α} (h : Blind g op) (hg : ∀ s, g.holds s) : Keeps (Scripted env) env op :=
  fun s => (h s (hg s)).scripted

theorem bind {op : Act α} {k : α → Act β} (hop : Blind g op) (hk : ∀ x, Blind g (k x)) : Blind g (op >>= k) := by
  intro s hs
  apply (hop s hs).bind
  intro x t _ ht
  exact hk x t (g.holds_of_scripted s t hs ht)

/-- The outcome is read off the state, which is left as it is. -/
theorem reading {op : Act α} (look : Session → Except Fault α) (hop : ∀ env s, op.exec env s = (look s, s))
    (hlook : ∀ s, look (s.rescope g.view) = look s) : Blind g op := by
  intro s _
  constructor
  · rw [hop]
    exact refl_of _ s
  · rw [hop, hop, hlook]
    rfl

/-- The state is changed quietly, and apart from the scopes. -/
theorem changing {op : Act α} (answer : Session → α) (change : Session → Session)
    (hop : ∀ env s, op.exec env s = (.ok (answer s), change s)) (hquiet : ∀ s, Quiet s (change s))
    (hanswer : ∀ s, answer (s.rescope g.view) = answer s)
    (hchange : ∀ s, change (s.rescope g.view) = (change s).rescope g.view) : Blind g op := by
  intro s _
  constructor
  · rw [hop]
    exact .quiet (hquiet s)
  · rw [hop, hop, hanswer, hchange]
    rfl

theorem pure (x : α) : Blind g (Pure.pure x) := reading (fun _ => .ok x) (fun _ _ => rfl) fun _ => rfl

theorem throw (fault : Fault) : Blind g (MonadExcept.throw fault : Act α) :=
  reading (fun _ => .error fault) (fun _ _ => rfl) fun _ => rfl

theorem lift (outcome : Except Fault α) : Blind g (Act.lift outcome) :=
  reading (fun _ => outcome) (fun _ _ => exec_lift _) fun _ => rfl

/-- What follows a look at the state may depend on anything but the scopes. -/
theorem get_bind {k : Session → Act β} (hk : ∀ s, Blind g (k s)) (hview : ∀ s, k (s.rescope g.view) = k s) :
    Blind g (get >>= k) := by
  intro s hs
  obtain ⟨hscripted, hsame⟩ := hk s s hs
  constructor
  · rw [exec_bind, exec_get]
    exact hscripted
  · change (k (s.rescope g.view)).exec g.other (s.rescope g.view) = _
    rw [hview, exec_bind, exec_get]
    exact hsame

/-- What follows a look at the surroundings may depend on their depth, which is the same under the guise. -/
theorem depth_bind {k : Surroundings → Act β} (hk : Blind g (k env))
    (hdepth : ∀ other : Surroundings, other.depth = env.depth → k other = k env) : Blind g (read >>= k) := by
  intro s hs
  obtain ⟨hscripted, hsame⟩ := hk s hs
  constructor
  · rw [exec_bind, exec_read]
    exact hscripted
  · change (k g.other).exec g.other (s.rescope g.view) = _
    rw [hdepth g.other g.depth, exec_bind, exec_read]
    exact hsame

theorem modular : Modular (Blind g) := ⟨pure, bind⟩

/-! ### The operations of sessions -/

theorem builder (id : Nat) : Blind g (Act.builder id) := by
  apply reading _ fun _ _ => exec_builder id
  exact fun _ => rfl

theorem modifyBuilder (id : Nat) {f : Builder → Builder} (hrole : ∀ b, (f b).role = b.role)
    (hpending : ∀ b, b.pending = none → (f b).pending = none) : Blind g (Act.modifyBuilder id f) :=
  changing (fun _ => ⟨⟩) (fun s => { s with builders := s.builders.modify id f }) (fun _ _ => rfl)
    (fun s => Quiet.modifyBuilder s id hrole hpending) (fun _ => rfl) fun _ => rfl

theorem builderValue (id : Nat) : Blind g (Act.builderValue id) := bind (builder id) fun _ => pure _

theorem draftOf (id : Nat) : Blind g (Act.draftOf id) := bind (builder id) fun _ => pure _

theorem draftAt (number : Nat) : Blind g (Act.draftAt number) := get_bind (fun _ => pure _) fun _ => rfl

theorem modifyDraftAt (number : Nat) (f : Draft → Draft) : Blind g (Act.modifyDraftAt number f) :=
  changing (fun _ => ⟨⟩) (fun s => { s with drafts := s.drafts.modify number f }) (fun _ _ => rfl)
    (fun _ => .of_eq rfl rfl rfl rfl) (fun _ => rfl) fun _ => rfl

theorem draft (id : Nat) : Blind g (Act.draft id) := bind (draftOf id) draftAt

theorem modifyDraft (id : Nat) (f : Draft → Draft) : Blind g (Act.modifyDraft id f) :=
  bind (draftOf id) fun _ => modifyDraftAt _ f

theorem drafting (id : Nat) (change : Drafting α) : Blind g (Act.drafting id change) :=
  bind (draft id) fun _ => bind (modifyDraft id _) fun _ => lift _

theorem addDraft (d : Draft) : Blind g (Act.addDraft d) :=
  changing (fun s => s.drafts.size) (fun s => { s with drafts := s.drafts.push d }) (fun _ _ => rfl)
    (fun _ => .of_eq rfl rfl rfl rfl) (fun _ => rfl) fun _ => rfl

theorem addBuilder (b : Builder) : Blind g (Act.addBuilder b) :=
  changing (fun s => s.builders.size) (fun s => { s with builders := s.builders.push b }) (fun _ _ => rfl)
    (fun s => .pushBuilder s b) (fun _ => rfl) fun _ => rfl

theorem newBuilder (role : BuilderRole) : Blind g (Act.newBuilder role) :=
  bind (addDraft {}) fun _ => get_bind (fun _ => addBuilder _) fun _ => rfl

theorem engine : Blind g Act.engine := get_bind (fun _ => pure _) fun _ => rfl

theorem dialect : Blind g Act.dialect := bind engine fun _ => pure _

theorem marked (x : Number.Binary64) : Blind g (Act.marked x) := by
  unfold Act.marked
  split
  · exact changing (fun s => .float (.marked (s.unnumbered + 1))) (fun s => { s with unnumbered := s.unnumbered + 1 })
      (fun _ _ => rfl) (fun _ => .of_eq rfl rfl rfl rfl) (fun _ => rfl) fun _ => rfl
  · exact pure _

theorem issued (q : Query) : Blind g (Act.issued q) := get_bind (fun _ => pure _) fun _ => rfl

theorem fill (script : Nat) (target : Value) : Blind g (Act.fill script target) := by
  intro s hs
  constructor
  · exact .fill (.quiet (.refl s)) script target
  · exact g.fill script target s hs

theorem notify (name : String) (script : Nat) (call : HookCall) :
    Blind g (do (← read).notify name script call : Act Value) := by
  intro s hs
  constructor
  · exact .notify (.quiet (.refl s)) name script call
  · exact g.notify name script call s hs

end Blind

end Act

end SqlBuilder
