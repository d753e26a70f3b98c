import SqlBuilder.Proofs.Session.Members

/-!
A builder with its draft. Scripts that leave both alone can run while the draft is searched or a join is declared
without a part in what comes of that.
-/

namespace SqlBuilder

open Act

variable {α : Type} {env : Surroundings} {s t : Session} {id : Nat} {b : Builder} {d : Draft}

namespace Session

/-- The builder is as given, and so is its draft. -/
structure Has (s : Session) (id : Nat) (b : Builder) (d : Draft) : Prop where
  builder : s.builders[id]? = some b
  draft : s.drafts[b.draft]? = some d

/-- The builder and its draft are as before. -/
def Untouched (id : Nat) (s t : Session) : Prop := ∀ b d, s.Has id b d → t.Has id b d

instance : IsPreorder Session (Untouched id) where
  refl _ _ _ h := h
  trans _ _ _ h h' b d hs := h' b d (h b d hs)

theorem Untouched.of_eq (hbuilders : t.builders = s.builders) (hdrafts : t.drafts = s.drafts) : Untouched id s t :=
  fun _ _ h => ⟨hbuilders ▸ h.builder, hdrafts ▸ h.draft⟩

/-- More builders and drafts. -/
theorem Untouched.of_grown (hbuilders : ∀ (k : Nat) (b : Builder), s.builders[k]? = some b → t.builders[k]? = some b)
    (hdrafts : ∀ (n : Nat) (d : Draft), s.drafts[n]? = some d → t.drafts[n]? = some d) : Untouched id s t :=
  fun _ _ h => ⟨hbuilders _ _ h.builder, hdrafts _ _ h.draft⟩

/-- Every builder with another draft is as before. -/
def SparedBut (n : Nat) (s t : Session) : Prop :=
  ∀ (k : Nat) (b : Builder) (d : Draft), b.draft ≠ n → s.Has k b d → t.Has k b d

namespace SparedBut

variable {n : Nat} {u : Session}

theorem refl (n : Nat) (s : Session) : SparedBut n s s := fun _ _ _ _ h => h

theorem trans (h : SparedBut n s t) (h' : SparedBut n t u) : SparedBut n s u :=
  fun k b d hn hs => h' k b d hn (h k b d hn hs)

theorem modify (n : Nat) (s : Session) (f : Draft → Draft) :
    SparedBut n s { s with drafts := s.drafts.modify n f } :=
  fun _ _ _ hn h => ⟨h.builder, by rw [Array.getElem?_modify, if_neg (Ne.symm hn), h.draft]⟩

end SparedBut

namespace Has

theorem lt (h : s.Has id b d) : id < s.builders.size := (Array.getElem?_eq_some_iff.1 h.builder).1

theorem declared_eq (h : s.Has id b d) : s.declared id = d := by
  rw [Session.declared_eq h.builder, h.draft, Option.getD_some]

/-- A builder comes up with an empty draft. -/
theorem built (s : Session) (own : Builder) (hdraft : own.draft = s.drafts.size) :
    Has { s with drafts := s.drafts.push {}, builders := s.builders.push own } s.builders.size own {} :=
  ⟨Array.getElem?_push_size, hdraft ▸ Array.getElem?_push_size⟩

/-- A change of the draft. -/
theorem modify (h : s.Has id b d) (f : Draft → Draft) :
    Has { s with drafts := s.drafts.modify b.draft f } id b (f d) where
  builder := h.builder
  draft := by rw [Array.getElem?_modify, if_pos rfl, h.draft, Option.map_some]

theorem exec_draftAt (h : s.Has id b d) : (Act.draftAt b.draft).exec env s = (.ok d, s) := by
  have hread : (Act.draftAt b.draft).exec env s = (.ok (s.drafts[b.draft]?.getD {}), s) := rfl
  rw [hread, h.draft, Option.getD_some]

theorem exec_builder (h : s.Has id b d) : (Act.builder id).exec env s = (.ok b, s) :=
  Act.exec_builder_of_some h.builder

theorem exec_builderValue (h : s.Has id b d) :
    (Act.builderValue id).exec env s = (.ok (.builder b.role.kind id), s) := Act.exec_builderValue h.builder

theorem exec_withLead (h : s.Has id b d) (scope : NameScope) (v : Value) :
    (Declare.withLead id scope v).exec env s = (.ok (scope.addPrefix b.lead v), s) := exec_bind_ok h.exec_builder

end Has

end Session

open Session

/-- Whatever compiles or searches leaves the builder alone as long as the scripts do. -/
theorem Act.Keeps.untouched [env.Keeps (Untouched id)] : Making (Keeps (Untouched id) env) :=
  Keeps.making (fun _ _ => .of_grown (fun _ _ => getElem?_push_of_some) fun _ _ => getElem?_push_of_some)
    fun _ _ => .of_eq rfl rfl

end SqlBuilder
