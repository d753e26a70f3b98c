import SqlBuilder.Proofs.Session.Alike
import SqlBuilder.Proofs.Session.Linked
import SqlBuilder.Session.Resolve
import Mathlib.Data.Set.Insert
import Mathlib.Logic.Relation

/-!
What the statement of a builder is made of: its draft, those of its joins, and the builders that it is united with.
Nothing else of a session has a part in it, apart from what groups do.
-/

namespace SqlBuilder

open Act

variable {α : Type} {P Q : Session → Prop} {env : Surroundings}

/-- Some builders and some drafts of a session. -/
structure Footprint where
  builders : Set Nat
  drafts : Set Nat

namespace Session

/-- What the builder has declared. -/
def declared (s : Session) (id : Nat) : Draft :=
  match s.builders[id]? with
  | some b => s.drafts[b.draft]?.getD {}
  | none => {}

theorem declared_eq {s : Session} {id : Nat} {b : Builder} (hb : s.builders[id]? = some b) :
    s.declared id = s.drafts[b.draft]?.getD {} := by
  unfold declared
  rw [hb]

/-- What the writing of a join depends on. -/
def outline (s : Session) (j : DraftJoin) : Value × Value × Option (Option (List Criterion)) :=
  (j.kind, j.table, j.builder.map fun id => (s.declared id).criteria)

end Session

/-- The draft declares the same as the other one, though its joins may have builders of their own. -/
structure Draft.Mirrors (s : Session) (d d' : Draft) : Prop where
  same : { d' with joins := d.joins } = d
  joins : (d'.joins.getD []).map s.outline = (d.joins.getD []).map s.outline

/-- What is read of a draft apart from its joins is the same in both. -/
theorem Draft.Mirrors.read {s : Session} {d d' : Draft} (h : Draft.Mirrors s d d') (f : Draft → α)
    (hf : ∀ d joins, f { d with joins } = f d) : f d' = f d := by
  rw [← hf d' d.joins, h.same]

theorem Draft.Mirrors.refl (s : Session) (d : Draft) : Draft.Mirrors s d d := ⟨rfl, rfl⟩

def Draft.conditions (d : Draft) : List Criterion := d.wheres.getD [] ++ d.criteria.getD [] ++ d.havings.getD []

namespace Footprint

/-- The draft and those of its joins are among the parts. -/
structure Holds (p : Footprint) (s : Session) (n : Nat) : Prop where
  draft : n ∈ p.drafts
  join : ∀ j ∈ (s.drafts[n]?.getD {}).joins.getD [], ∀ k, j.builder = some k →
    ∃ b, s.builders[k]? = some b ∧ b.draft ∈ p.drafts

/-- The parts hold what their builders refer to. -/
structure Closed (p : Footprint) (s : Session) : Prop where
  kept : ∀ n ∈ p.drafts, n < s.drafts.size
  builder : ∀ id ∈ p.builders, ∃ b, s.builders[id]? = some b ∧ p.Holds s b.draft ∧
    ∀ u ∈ (s.drafts[b.draft]?.getD {}).unions.getD [], u.builder ∈ p.builders

/-- The drafts among the parts are as before, no builder has another draft, and what the connection tells new builders
is the same. -/
structure Spares (p : Footprint) (s t : Session) : Prop where
  drafts : ∀ n ∈ p.drafts, t.drafts[n]? = s.drafts[n]?
  builders : ∀ (id : Nat) (b : Builder), s.builders[id]? = some b →
    ∃ b' : Builder, t.builders[id]? = some b' ∧ b'.draft = b.draft
  size : s.drafts.size ≤ t.drafts.size
  engine : t.driver.engine = s.driver.engine
  lead : t.lead = s.lead
  overwriting : t.overwriting = s.overwriting
  scripts : ∀ (n : Nat) (script : Script), s.scripts[n]? = some script → t.scripts[n]? = some script

/-- The builder is one of the parts, or belongs to a join of one. -/
def Names (p : Footprint) (s : Session) (k : Nat) : Prop :=
  k ∈ p.builders ∨ ∃ n ∈ p.drafts, ∃ j ∈ (s.drafts[n]?.getD {}).joins.getD [], j.builder = some k

/-- The parts are as before, and so are the builders that they name. Any other builder may get another draft. -/
structure Sustains (p : Footprint) (s t : Session) : Prop where
  drafts : ∀ n ∈ p.drafts, t.drafts[n]? = s.drafts[n]?
  builders : ∀ k, p.Names s k → ∀ b : Builder, s.builders[k]? = some b →
    ∃ b' : Builder, t.builders[k]? = some b' ∧ b'.draft = b.draft
  engine : t.driver.engine = s.driver.engine

/-- In these states every group among the parts comes to the same whenever it runs. -/
def Steady (p : Footprint) (env : Surroundings) (P : Session → Prop) (s : Session) : Prop :=
  ∀ n ∈ p.drafts, ∀ c ∈ (s.drafts[n]?.getD {}).conditions, ∀ script, c.key = .group script →
    ∀ depth, ∃ outcome, Settled P env (Resolve.members depth script) outcome

/-- Every group among the parts comes to the same in states of both kinds. -/
def Concordant (p : Footprint) (env : Surroundings) (P Q : Session → Prop) (s : Session) : Prop :=
  ∀ n ∈ p.drafts, ∀ c ∈ (s.drafts[n]?.getD {}).conditions, ∀ script, c.key = .group script →
    ∀ depth, Alike P Q env (Resolve.members depth script) (Resolve.members depth script)

variable {p : Footprint} {s t u : Session}

theorem Concordant.steady (h : p.Concordant env P Q s) : p.Steady env P s := by
  intro n hn c hc script hkey depth
  obtain ⟨outcome, houtcome, -⟩ := h n hn c hc script hkey depth
  exact ⟨outcome, houtcome⟩

theorem Steady.concordant (h : p.Steady env P s) : p.Concordant env P P s := by
  intro n hn c hc script hkey depth
  obtain ⟨outcome, houtcome⟩ := h n hn c hc script hkey depth
  exact .of_settled houtcome

/-- In the states of either kind the parts are as in one of two sessions, both for the same engine, and the groups come
to the same. -/
structure Compares (p : Footprint) (env : Surroundings) (P Q : Session → Prop) (s t : Session) : Prop where
  left : ∀ u, P u → p.Sustains s u
  right : ∀ u, Q u → p.Sustains t u
  engine : t.driver.engine = s.driver.engine
  groups : p.Concordant env P Q s

theorem Spares.refl (p : Footprint) (s : Session) : p.Spares s s :=
  ⟨fun _ _ => rfl, fun _ b hb => ⟨b, hb, rfl⟩, le_refl _, rfl, rfl, rfl, fun _ _ h => h⟩

theorem Spares.trans (h : p.Spares s t) (h' : p.Spares t u) : p.Spares s u where
  drafts n hn := (h'.drafts n hn).trans (h.drafts n hn)
  builders id b hb := by
    obtain ⟨b', hb', hdraft⟩ := h.builders id b hb
    obtain ⟨b'', hb'', hdraft'⟩ := h'.builders id b' hb'
    exact ⟨b'', hb'', hdraft'.trans hdraft⟩
  size := h.size.trans h'.size
  engine := h'.engine.trans h.engine
  lead := h'.lead.trans h.lead
  overwriting := h'.overwriting.trans h.overwriting
  scripts n script hn := h'.scripts n script (h.scripts n script hn)

theorem Spares.sustains (h : p.Spares s t) : p.Sustains s t := ⟨h.drafts, fun k _ => h.builders k, h.engine⟩

theorem Sustains.names {k : Nat} (h : p.Sustains s t) (hk : p.Names s k) : p.Names t k := by
  obtain hk | ⟨n, hn, j, hj, hjk⟩ := hk
  · exact .inl hk
  · exact .inr ⟨n, hn, j, (h.drafts n hn).symm ▸ hj, hjk⟩

theorem Sustains.refl (p : Footprint) (s : Session) : p.Sustains s s :=
  ⟨fun _ _ => rfl, fun _ _ b hb => ⟨b, hb, rfl⟩, rfl⟩

instance : IsPreorder Session p.Sustains where
  refl := .refl p
  trans s t u hst htu := by
    refine ⟨fun n hn => (htu.drafts n hn).trans (hst.drafts n hn), fun k hk b hb => ?_, htu.engine.trans hst.engine⟩
    obtain ⟨b', hb', hdraft⟩ := hst.builders k hk b hb
    obtain ⟨b'', hb'', hdraft'⟩ := htu.builders k (hst.names hk) b' hb'
    exact ⟨b'', hb'', hdraft'.trans hdraft⟩

/-- Two footprints taken together. -/
instance : Union Footprint := ⟨fun p q => ⟨p.builders ∪ q.builders, p.drafts ∪ q.drafts⟩⟩

variable {q : Footprint}

theorem Holds.mono {n : Nat} (h : p.Holds s n) (hdrafts : ∀ n ∈ p.drafts, n ∈ q.drafts) : q.Holds s n where
  draft := hdrafts _ h.draft
  join j hj k hk := by
    obtain ⟨b, hb, hdraft⟩ := h.join j hj k hk
    exact ⟨b, hb, hdrafts _ hdraft⟩

theorem Closed.union (hp : p.Closed s) (hq : q.Closed s) : (p ∪ q).Closed s where
  kept n hn := hn.elim (hp.kept n) (hq.kept n)
  builder id hid := by
    obtain hid | hid := hid
    · obtain ⟨b, hb, hholds, hunions⟩ := hp.builder id hid
      exact ⟨b, hb, hholds.mono fun _ => .inl, fun u hu => .inl (hunions u hu)⟩
    · obtain ⟨b, hb, hholds, hunions⟩ := hq.builder id hid
      exact ⟨b, hb, hholds.mono fun _ => .inr, fun u hu => .inr (hunions u hu)⟩

end Footprint

/-! ### The footprint of a builder -/

namespace Session

/-- The builder is united with the other one, be it by way of others. -/
def Unites (s : Session) : Nat → Nat → Prop :=
  Relation.ReflTransGen fun m m' => ∃ u ∈ (s.declared m).unions.getD [], u.builder = m'

/-- The draft is the one of the builder or of one of its joins. -/
def Owns (s : Session) (id n : Nat) : Prop :=
  ∃ (k : Nat) (b : Builder), (k = id ∨ ∃ j ∈ (s.declared id).joins.getD [], j.builder = some k) ∧
    s.builders[k]? = some b ∧ b.draft = n

/-- The builder and all that it is united with, with the drafts of them and of their joins. -/
def footprint (s : Session) (id : Nat) : Footprint :=
  ⟨{m | s.Unites id m}, {n | ∃ m, s.Unites id m ∧ s.Owns m n}⟩

/-- The statement of the builder is made without groups. -/
def Groupless (s : Session) (id : Nat) : Prop :=
  ∀ n ∈ (s.footprint id).drafts, ∀ c ∈ (s.drafts[n]?.getD {}).conditions, ∀ script, c.key ≠ .group script

variable {s : Session} {id : Nat}

theorem Groupless.steady (h : s.Groupless id) : (s.footprint id).Steady env P s :=
  fun n hn c hc script hkey => absurd hkey (h n hn c hc script)

theorem groupless_of_drafts (h : s.drafts.toList.all (fun d => d.conditions.isEmpty) = true) (id : Nat) :
    s.Groupless id := by
  intro n _ c hc
  cases hd : s.drafts[n]? with
  | none =>
      rw [hd] at hc
      cases hc
  | some d =>
      have hmem : d ∈ s.drafts.toList := Array.mem_toList_iff.2 (Array.mem_of_getElem? hd)
      have hempty : d.conditions = [] := List.isEmpty_iff.1 (List.all_eq_true.1 h d hmem)
      rw [hd, Option.getD_some, hempty] at hc
      cases hc

theorem mem_footprint (s : Session) (id : Nat) : id ∈ (s.footprint id).builders := Relation.ReflTransGen.refl

theorem Linked.draft_declared (h : s.Linked) {b : Builder} (hb : s.builders[id]? = some b) :
    s.drafts[b.draft]? = some (s.declared id) := by
  rw [declared_eq hb, Array.getElem?_eq_getElem (h.draft id b hb)]
  rfl

theorem Linked.join_lt (h : s.Linked) (hid : id < s.builders.size) {j : DraftJoin}
    (hj : j ∈ (s.declared id).joins.getD []) {k : Nat} (hk : j.builder = some k) : k < s.builders.size :=
  h.join _ _ (h.draft_declared (Array.getElem?_eq_getElem hid)) j hj k hk

theorem Linked.union_lt (h : s.Linked) (hid : id < s.builders.size) {u : DraftUnion}
    (hu : u ∈ (s.declared id).unions.getD []) : u.builder < s.builders.size :=
  h.union _ _ (h.draft_declared (Array.getElem?_eq_getElem hid)) u hu

theorem Linked.unites_lt (h : s.Linked) (hid : id < s.builders.size) {m : Nat} (hm : s.Unites id m) :
    m < s.builders.size := by
  induction hm with
  | refl => exact hid
  | tail _ hu ih =>
      obtain ⟨u, hu, rfl⟩ := hu
      exact h.union_lt ih hu

/-- The footprint of a builder has everything that its builders refer to. -/
theorem Linked.closed_footprint (h : s.Linked) (hid : id < s.builders.size) : (s.footprint id).Closed s where
  kept n hn := by
    obtain ⟨m, hm, k, b, hk, hb, rfl⟩ := hn
    exact h.draft k b hb
  builder m hm := by
    have hlt := h.unites_lt hid hm
    have hb := Array.getElem?_eq_getElem hlt
    refine ⟨_, hb, ⟨⟨m, hm, m, _, .inl rfl, hb, rfl⟩, fun j hj k hk => ?_⟩, fun u hu => ?_⟩
    · rw [← declared_eq hb] at hj
      have hb' := Array.getElem?_eq_getElem (h.join_lt hlt hj hk)
      exact ⟨_, hb', m, hm, k, _, .inr ⟨j, hj, hk⟩, hb', rfl⟩
    · rw [← declared_eq hb] at hu
      exact Relation.ReflTransGen.tail hm ⟨u, hu, rfl⟩

end Session

end SqlBuilder
