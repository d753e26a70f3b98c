import Mathlib.Data.List.Count
import Mathlib.Data.List.Induction
import Mathlib.Data.Set.Function
import SqlBuilder.Proofs.Session.Independence
import SqlBuilder.Proofs.Session.Members

/-!
Calls that unite builders with each other. What a member was united with so far moves to the builder that it is united
with. There it takes the place of what that builder was united with before, so nothing is lost only as long as one of
the two had no members.
-/

namespace SqlBuilder

open Act Session

variable {env : Surroundings} {s : Session} {ids : Set Nat}

/-! ### Builders with drafts of their own -/

/-- Each of the builders has a draft that none of the others has. -/
def Session.Separate (s : Session) (ids : Set Nat) : Prop :=
  ∀ id ∈ ids, ∃ b : Builder, s.builders[id]? = some b ∧ b.draft < s.drafts.size ∧
    ∀ other ∈ ids, ∀ b' : Builder, s.builders[other]? = some b' → b'.draft = b.draft → other = id

def Session.redrafted (s : Session) (n : Nat) (f : Draft → Draft) : Session :=
  { s with drafts := s.drafts.modify n f }

namespace Session.Separate

theorem redrafted (h : s.Separate ids) (n : Nat) (f : Draft → Draft) : (s.redrafted n f).Separate ids := by
  intro id hid
  obtain ⟨b, hb, hdraft, halone⟩ := h id hid
  have hsize : (s.drafts.modify n f).size = s.drafts.size := Array.size_modify
  exact ⟨b, hb, hsize.symm ▸ hdraft, halone⟩

/-- Of the builders only the one whose draft is changed gets other members. -/
theorem members_redrafted (h : s.Separate ids) {id : Nat} (hid : id ∈ ids) {b : Builder} (hb : s.builders[id]? = some b)
    (f : Draft → Draft) : Set.EqOn (s.redrafted b.draft f).memberList
      (Function.update s.memberList id ((f (s.declared id)).unions.getD [])) ids := by
  intro other hother
  obtain ⟨b', hb', hdraft, halone⟩ := h other hother
  have hread : (s.redrafted b.draft f).declared other = (s.drafts.modify b.draft f)[b'.draft]?.getD {} :=
    declared_eq hb'
  unfold memberList
  rw [hread, Array.getElem?_modify]
  by_cases heq : other = id
  · subst heq
    obtain rfl : b = b' := Option.some.inj (hb.symm.trans hb')
    rw [if_pos rfl, Function.update_self, declared_eq hb, Array.getElem?_eq_getElem hdraft]
    rfl
  · rw [if_neg fun hsame => heq (halone id hid b hb hsame).symm, Function.update_of_ne heq, declared_eq hb']

end Session.Separate

/-! ### One call -/

/-- A call that unites one of the builders with another one. -/
structure Uniting (ids : Set Nat) where
  receiver : Nat
  member : Nat
  role : BuilderKind
  /-- The kind of the union as it is given. -/
  named : Value
  kind : UnionKind
  receiver_mem : receiver ∈ ids
  member_mem : member ∈ ids
  ne : receiver ≠ member
  named_eq : Declare.unionKind named = .ok kind

namespace Uniting

def call (c : Uniting ids) : BuilderCall := .union (.builder c.role c.member) c.named

/-- What the receiver gets. -/
def entry (c : Uniting ids) : DraftUnion := ⟨c.kind, c.member⟩

/-- The members of all builders behind the call: those of the member, if it has any, take the place of those of the
receiver. -/
def replace (c : Uniting ids) (m : Nat → List DraftUnion) : Nat → List DraftUnion :=
  Function.update (Function.update m c.receiver
    ((if (m c.member).isEmpty then m c.receiver else m c.member) ++ [c.entry])) c.member []

def after (env : Surroundings) (s : Session) (c : Uniting ids) : Session := ((c.call.perform c.receiver).exec env s).2

variable (c : Uniting ids) (m : Nat → List DraftUnion)

theorem replace_receiver :
    c.replace m c.receiver = (if (m c.member).isEmpty then m c.receiver else m c.member) ++ [c.entry] := by
  unfold replace
  rw [Function.update_of_ne c.ne, Function.update_self]

theorem replace_member : c.replace m c.member = [] := Function.update_self _ _ _

theorem replace_other {other : Nat} (hreceiver : other ≠ c.receiver) (hmember : other ≠ c.member) :
    c.replace m other = m other := by
  unfold replace
  rw [Function.update_of_ne hmember, Function.update_of_ne hreceiver]

/-- The call loses nothing exactly if the receiver or the member has no members. -/
theorem replace_receiver_eq_iff :
    c.replace m c.receiver = m c.receiver ++ m c.member ++ [c.entry] ↔ m c.receiver = [] ∨ m c.member = [] := by
  rw [replace_receiver, List.append_left_inj]
  rcases hmember : m c.member with _ | ⟨x, rest⟩
  · exact iff_of_true (List.append_nil _).symm (.inr rfl)
  · constructor
    · intro h
      exact .inl (List.self_eq_append_left.1 h)
    · rintro (h | h)
      · rw [h]
        rfl
      · cases h

/-- The draft of the receiver with what the member is united with. -/
def moving (s : Session) (d : Draft) : Draft := { d with unions := some (s.memberList c.member) }

def push (d : Draft) : Draft := { d with unions := extended d.unions [c.entry] }

section Drafts

variable {b b' : Builder} (hs : s.Separate ids) (hb : s.builders[c.receiver]? = some b)

include hs hb

/-- A member that has no members itself only comes behind those of the receiver. -/
theorem members_pushed (hempty : s.memberList c.member = []) :
    Set.EqOn (s.redrafted b.draft c.push).memberList (c.replace s.memberList) ids := by
  intro other hother
  rw [hs.members_redrafted c.receiver_mem hb c.push hother]
  by_cases hmember : other = c.member
  · rw [hmember, Function.update_of_ne c.ne.symm, replace_member, hempty]
  · by_cases hreceiver : other = c.receiver
    · rw [hreceiver, Function.update_self, replace_receiver, hempty]
      rfl
    · rw [Function.update_of_ne hreceiver, c.replace_other _ hreceiver hmember]

/-- The session where what the member is united with has moved to the receiver. -/
def moved (s : Session) (b b' : Builder) : Session :=
  (s.redrafted b.draft (c.moving s)).redrafted b'.draft fun d => { d with unions := none }

variable (hb' : s.builders[c.member]? = some b')

include hb'

theorem members_moved (hmoves : s.memberList c.member ≠ []) :
    Set.EqOn ((c.moved s b b').redrafted b.draft c.push).memberList (c.replace s.memberList) ids := by
  have hmoving := hs.redrafted b.draft (c.moving s)
  have hfirst := hs.members_redrafted c.receiver_mem hb (c.moving s)
  have hsecond := hmoving.members_redrafted c.member_mem hb' fun d => { d with unions := none }
  have hthird := (hmoving.redrafted b'.draft fun d => { d with unions := none }).members_redrafted c.receiver_mem hb
    c.push
  have hreceived : (c.moved s b b').memberList c.receiver = s.memberList c.member := by
    unfold moved
    rw [hsecond c.receiver_mem, Function.update_of_ne c.ne, hfirst c.receiver_mem, Function.update_self]
    rfl
  intro other hother
  refine (hthird hother).trans ?_
  by_cases hmember : other = c.member
  · rw [hmember, Function.update_of_ne c.ne.symm, replace_member, hsecond c.member_mem, Function.update_self]
    rfl
  · by_cases hreceiver : other = c.receiver
    · rw [hreceiver, Function.update_self, replace_receiver, if_neg (by simpa using hmoves), ← hreceived]
      rfl
    · rw [Function.update_of_ne hreceiver, c.replace_other _ hreceiver hmember, hsecond hother,
        Function.update_of_ne hmember, hfirst hother, Function.update_of_ne hreceiver]

end Drafts

/-- The call succeeds and gives the receiver. It changes nothing but drafts. -/
theorem exec_call (env : Surroundings) (hs : s.Separate ids) : ∃ b drafts, s.builders[c.receiver]? = some b ∧
    (c.call.perform c.receiver).exec env s = (.ok (.builder b.role.kind c.receiver), { s with drafts }) ∧
    ({ s with drafts } : Session).Separate ids ∧
    Set.EqOn ({ s with drafts } : Session).memberList (c.replace s.memberList) ids := by
  obtain ⟨b, hb, -, -⟩ := hs c.receiver c.receiver_mem
  obtain ⟨b', hb', -, -⟩ := hs c.member c.member_mem
  have hkind : (Act.lift (Declare.unionKind c.named)).exec env s = (.ok c.kind, s) := by rw [exec_lift, c.named_eq]
  have hvalue : ∀ drafts, (Act.builderValue c.receiver).exec env { s with drafts } =
      (.ok (.builder b.role.kind c.receiver), { s with drafts }) := fun _ => exec_builderValue hb
  have hread : (s.drafts[b'.draft]?.getD {}).unions.getD [] = s.memberList c.member := by
    unfold memberList
    rw [declared_eq hb']
  change ∃ b drafts, _ ∧ exec (BuilderCall.declaring c.receiver
    (Declare.union c.receiver (.builder c.role c.member) c.named)) env s = _ ∧ _
  unfold BuilderCall.declaring Declare.union
  rw [bind_assoc, exec_bind_ok hkind]
  dsimp only
  rw [bind_assoc, exec_bind_ok (exec_draft hb'), hread]
  by_cases hempty : s.memberList c.member = []
  · refine ⟨b, _, hb, ?_, hs.redrafted b.draft c.push, c.members_pushed hs hb hempty⟩
    rw [hempty]
    exact (exec_bind_ok (exec_modifyDraft hb _)).trans (hvalue _)
  · refine ⟨b, _, hb, ?_, ((hs.redrafted b.draft _).redrafted b'.draft _).redrafted b.draft c.push,
      c.members_moved hs hb hb' hempty⟩
    rw [if_neg (by simpa using hempty), bind_assoc, exec_bind_ok (exec_modifyDraft hb _), bind_assoc]
    refine (exec_bind_ok (exec_modifyDraft (s := s.redrafted b.draft _) hb' _)).trans ?_
    exact (exec_bind_ok (exec_modifyDraft (s := c.moved s b b') hb _)).trans (hvalue _)

theorem separate_after (hs : s.Separate ids) : (c.after env s).Separate ids := by
  obtain ⟨b, drafts, -, hexec, hseparate, -⟩ := c.exec_call env hs
  unfold after
  rw [hexec]
  exact hseparate

theorem members_after (hs : s.Separate ids) : Set.EqOn (c.after env s).memberList (c.replace s.memberList) ids := by
  obtain ⟨b, drafts, -, hexec, -, hmembers⟩ := c.exec_call env hs
  unfold after
  rw [hexec]
  exact hmembers

end Uniting

/-! ### Sequences of calls -/

def Session.united (env : Surroundings) (s : Session) (calls : List (Uniting ids)) : Session :=
  calls.foldl (Uniting.after env) s

namespace Uniting

variable {calls : List (Uniting ids)} {c : Uniting ids} {a : Nat}

theorem united_concat (calls : List (Uniting ids)) (c : Uniting ids) :
    s.united env (calls ++ [c]) = c.after env (s.united env calls) := by
  unfold Session.united
  rw [List.foldl_append, List.foldl_cons, List.foldl_nil]

theorem separate_united (hs : s.Separate ids) (calls : List (Uniting ids)) : (s.united env calls).Separate ids := by
  induction calls using List.reverseRecOn with
  | nil => exact hs
  | append_singleton calls c ih =>
      rw [united_concat]
      exact c.separate_after ih

/-- At no call both builders have members. -/
def Lossless (env : Surroundings) (s : Session) (calls : List (Uniting ids)) : Prop :=
  ∀ before c, before ++ [c] <+: calls →
    (s.united env before).memberList c.receiver = [] ∨ (s.united env before).memberList c.member = []

theorem Lossless.nil : Lossless env s ([] : List (Uniting ids)) := by
  intro before c hfront
  cases List.append_eq_nil_iff.1 (List.prefix_nil.1 hfront) with
  | intro _ h => cases h

theorem Lossless.concat (h : Lossless env s calls)
    (hc : (s.united env calls).memberList c.receiver = [] ∨ (s.united env calls).memberList c.member = []) :
    Lossless env s (calls ++ [c]) := by
  intro before d hfront
  rcases List.prefix_concat_iff.1 hfront with hlast | hfront
  · obtain ⟨rfl, hd⟩ := List.append_inj' hlast rfl
    cases hd
    exact hc
  · exact h before d hfront

theorem Lossless.before (h : Lossless env s (calls ++ [c])) : Lossless env s calls :=
  fun before d hfront => h before d (hfront.trans (List.prefix_append _ _))

/-- The builder that has what the other one had in front of the call. -/
def carry (c : Uniting ids) (holder : Nat) : Nat := if holder = c.member then c.receiver else holder

/-- The same for whatever builders hold. -/
def carryAll (c : Uniting ids) (held : List (Nat × DraftUnion)) : List (Nat × DraftUnion) :=
  held.map fun (holder, u) => (c.carry holder, u)

/-- What all calls have united, each with the builder that has it in the end. -/
def holdings (calls : List (Uniting ids)) : List (Nat × DraftUnion) :=
  calls.foldl (fun held c => c.carryAll held ++ [(c.receiver, c.entry)]) []

theorem holdings_concat (calls : List (Uniting ids)) (c : Uniting ids) :
    holdings (calls ++ [c]) = c.carryAll (holdings calls) ++ [(c.receiver, c.entry)] := by
  unfold holdings
  rw [List.foldl_append, List.foldl_cons, List.foldl_nil]

/-- What a builder holds. -/
def heldBy (held : List (Nat × DraftUnion)) (a : Nat) : List DraftUnion := (held.filter (·.1 = a)).map (·.2)

theorem heldBy_cons (holder : Nat) (u : DraftUnion) (held : List (Nat × DraftUnion)) (a : Nat) :
    heldBy ((holder, u) :: held) a = if holder = a then u :: heldBy held a else heldBy held a := by
  unfold heldBy
  by_cases h : holder = a
  · rw [if_pos h, List.filter_cons_of_pos (by simpa using h), List.map_cons]
  · rw [if_neg h, List.filter_cons_of_neg (by simpa using h)]

theorem heldBy_append (held held' : List (Nat × DraftUnion)) (a : Nat) :
    heldBy (held ++ held') a = heldBy held a ++ heldBy held' a := by
  unfold heldBy
  rw [List.filter_append, List.map_append]

theorem heldBy_carried_member (c : Uniting ids) (held : List (Nat × DraftUnion)) :
    heldBy (c.carryAll held) c.member = [] := by
  induction held with
  | nil => rfl
  | cons first rest ih =>
      obtain ⟨holder, u⟩ := first
      have hleft : c.carry holder ≠ c.member := by
        unfold carry
        split
        · exact c.ne
        · assumption
      exact (heldBy_cons _ _ _ _).trans ((if_neg hleft).trans ih)

theorem heldBy_carried_other (c : Uniting ids) (hreceiver : a ≠ c.receiver) (hmember : a ≠ c.member)
    (held : List (Nat × DraftUnion)) : heldBy (c.carryAll held) a = heldBy held a := by
  induction held with
  | nil => rfl
  | cons first rest ih =>
      obtain ⟨holder, u⟩ := first
      have hsame : c.carry holder = a ↔ holder = a := by
        unfold carry
        split
        · rename_i h
          exact iff_of_false hreceiver.symm fun ha => hmember (ha.symm.trans h)
        · exact Iff.rfl
      rw [heldBy_cons, ← ih]
      refine (heldBy_cons _ _ _ _).trans ?_
      simp only [hsame]
      rfl

theorem heldBy_carried_receiver (c : Uniting ids) (held : List (Nat × DraftUnion)) :
    (heldBy (c.carryAll held) c.receiver).Perm (heldBy held c.receiver ++ heldBy held c.member) := by
  induction held with
  | nil => exact .refl _
  | cons first rest ih =>
      obtain ⟨holder, u⟩ := first
      rw [heldBy_cons, heldBy_cons]
      refine (List.Perm.of_eq (heldBy_cons _ _ _ _)).trans ?_
      by_cases hmember : holder = c.member
      · have hcarried : c.carry holder = c.receiver := if_pos hmember
        rw [if_pos hcarried, if_pos hmember, if_neg (hmember ▸ c.ne.symm)]
        exact (ih.cons u).trans List.perm_middle.symm
      · have hcarried : c.carry holder = holder := if_neg hmember
        rw [hcarried, if_neg hmember]
        by_cases hreceiver : holder = c.receiver
        · rw [if_pos hreceiver, if_pos hreceiver]
          exact ih.cons u
        · rw [if_neg hreceiver, if_neg hreceiver]
          exact ih

/-- As long as nothing is lost, each builder has as members what it holds. -/
theorem perm_heldBy (hs : s.Separate ids) (hempty : ∀ id ∈ ids, s.memberList id = []) (h : Lossless env s calls)
    (ha : a ∈ ids) : ((s.united env calls).memberList a).Perm (heldBy (holdings calls) a) := by
  induction calls using List.reverseRecOn generalizing a with
  | nil => exact .of_eq (hempty a ha)
  | append_singleton calls c ih =>
      have ih := fun {a} ha => ih h.before (a := a) ha
      rw [united_concat, c.members_after (separate_united hs calls) ha, holdings_concat, heldBy_append, heldBy_cons]
      by_cases hmember : a = c.member
      · rw [hmember, replace_member, heldBy_carried_member, if_neg c.ne]
        exact .refl _
      · by_cases hreceiver : a = c.receiver
        · rw [hreceiver, if_pos rfl, (c.replace_receiver_eq_iff _).2 (h calls c (List.prefix_refl _))]
          have hboth := (ih c.receiver_mem).append (ih c.member_mem)
          exact (hboth.trans (c.heldBy_carried_receiver _).symm).append_right _
        · rw [c.replace_other _ hreceiver hmember, c.heldBy_carried_other hreceiver hmember,
            if_neg (Ne.symm hreceiver), show heldBy [] a = [] from rfl, List.append_nil]
          exact ih ha

/-- The builder that has the member of a call behind later ones. -/
def carried (later : List (Uniting ids)) (holder : Nat) : Nat := later.foldl (fun holder c => c.carry holder) holder

theorem filter_carryAll (c : Uniting ids) (member : Nat) (held : List (Nat × DraftUnion)) :
    (c.carryAll held).filter (·.2.builder = member) = c.carryAll (held.filter (·.2.builder = member)) := by
  unfold carryAll
  rw [List.filter_map]
  rfl

theorem exists_of_mem_holdings {p : Nat × DraftUnion} (hp : p ∈ holdings calls) : ∃ c ∈ calls, p.2 = c.entry := by
  induction calls using List.reverseRecOn generalizing p with
  | nil => cases hp
  | append_singleton calls c ih =>
      rw [holdings_concat, List.mem_append, List.mem_singleton] at hp
      rcases hp with hp | rfl
      · obtain ⟨p', hp', rfl⟩ := List.mem_map.1 hp
        obtain ⟨d, hd, hentry⟩ := ih hp'
        exact ⟨d, List.mem_append_left _ hd, hentry⟩
      · exact ⟨c, List.mem_append_right _ (List.mem_singleton_self c), rfl⟩

/-- A member that no other call has is held once. -/
theorem holdings_of_once {before later : List (Uniting ids)} (c : Uniting ids)
    (hbefore : ∀ d ∈ before, d.member ≠ c.member) (hlater : ∀ d ∈ later, d.member ≠ c.member) :
    (holdings (before ++ c :: later)).filter (·.2.builder = c.member) = [(carried later c.receiver, c.entry)] := by
  induction later using List.reverseRecOn with
  | nil =>
      have hnone : (holdings before).filter (·.2.builder = c.member) = [] := by
        refine List.filter_eq_nil_iff.2 fun p hp hmember => ?_
        obtain ⟨d, hd, hentry⟩ := exists_of_mem_holdings hp
        rw [hentry, decide_eq_true_iff] at hmember
        exact hbefore d hd hmember
      rw [holdings_concat, List.filter_append, filter_carryAll, hnone]
      have hself : [(c.receiver, c.entry)].filter (·.2.builder = c.member) = [(c.receiver, c.entry)] :=
        List.filter_cons_of_pos (a := (c.receiver, c.entry)) (decide_eq_true rfl)
      rw [hself]
      rfl
  | append_singleton later d ih =>
      have hother : [(d.receiver, d.entry)].filter (·.2.builder = c.member) = [] := by
        refine List.filter_cons_of_neg fun hmember => ?_
        exact hlater d (List.mem_append_right _ (List.mem_singleton_self d)) (of_decide_eq_true hmember)
      have ih := ih fun e he => hlater e (List.mem_append_left _ he)
      rw [← List.cons_append, ← List.append_assoc, holdings_concat, List.filter_append, filter_carryAll, ih,
        hother]
      unfold carried
      rw [List.foldl_append]
      rfl

/-- As long as nothing is lost, a member that one call has is a member once, of the builder that has it in the end. -/
theorem count_members (hs : s.Separate ids) (hempty : ∀ id ∈ ids, s.memberList id = [])
    {before later : List (Uniting ids)} (h : Lossless env s (before ++ c :: later))
    (hbefore : ∀ d ∈ before, d.member ≠ c.member)
    (hlater : ∀ d ∈ later, d.member ≠ c.member) (ha : a ∈ ids) :
    (((s.united env (before ++ c :: later)).memberList a).map (·.builder)).count c.member =
      if carried later c.receiver = a then 1 else 0 := by
  have hcount : ∀ held : List (Nat × DraftUnion), ((heldBy held a).map (·.builder)).count c.member =
      ((held.filter (·.2.builder = c.member)).filter (·.1 = a)).length := by
    intro held
    unfold heldBy
    rw [List.map_map, List.count, List.countP_map, List.countP_eq_length_filter, List.filter_comm]
    rfl
  rw [((perm_heldBy hs hempty h ha).map _).count_eq, hcount, holdings_of_once c hbefore hlater]
  by_cases hcarried : carried later c.receiver = a
  · rw [if_pos hcarried, List.filter_cons_of_pos (by simpa using hcarried)]
    rfl
  · rw [if_neg hcarried, List.filter_cons_of_neg (by simpa using hcarried)]
    rfl

end Uniting

namespace Session

open Uniting

/-- After any calls that unite builders with each other, one more of them gives the receiver and leaves the member
without members. The members of the member, if it has any, take the place of those of the receiver, with the member
behind them; nothing is lost exactly if the receiver or the member had none. As long as that is so at every call, each
builder has as members what was united with it, or with what has been united with it since; so a member that one call
has is there once, with the builder that has it in the end. And a builder compiles to its own projection with that of
each of its members behind it, once and in their order, and to the values of all of them in the same order. -/
theorem union_members (hs : s.Separate ids) (calls : List (Uniting ids)) :
    let t := s.united env calls
    (∀ c : Uniting ids, ∃ b, t.builders[c.receiver]? = some b ∧
      let u := s.united env (calls ++ [c])
      (c.call.perform c.receiver).exec env t = (.ok (.builder b.role.kind c.receiver), u) ∧
      u.memberList c.receiver =
        (if (t.memberList c.member).isEmpty then t.memberList c.receiver else t.memberList c.member) ++ [c.entry] ∧
      (u.memberList c.receiver = t.memberList c.receiver ++ t.memberList c.member ++ [c.entry] ↔
        t.memberList c.receiver = [] ∨ t.memberList c.member = []) ∧
      u.memberList c.member = [] ∧
      ∀ other ∈ ids, other ≠ c.receiver → other ≠ c.member → u.memberList other = t.memberList other) ∧
    ((∀ id ∈ ids, s.memberList id = []) → Lossless env s calls → ∀ a ∈ ids,
      (t.memberList a).Perm (heldBy (holdings calls) a) ∧
      ∀ before c later, calls = before ++ c :: later → (∀ d ∈ before ++ later, d.member ≠ c.member) →
        ((t.memberList a).map (·.builder)).count c.member = if carried later c.receiver = a then 1 else 0) ∧
    ∀ a ∈ ids, ∀ q u, Confined SameUnions env (compile a .select) t →
      (compile a .select).exec env t = (.ok q, u) → ∃ own parts,
        (∃ b clauses v, t.builders[a]? = some b ∧
          (Resolve.selectClauses (env.depth - 1) b.draft).exec env t = (.ok clauses, v) ∧
          clauses.select (.ofEngine t.driver.engine) = .ok own) ∧
        List.Forall₂ (fun member part => part.1 = member.kind ∧ ∃ v w, t.SameUnions v ∧
          (projected (env.depth - 1) member.builder).exec env v = (.ok part.2, w)) (t.memberList a) parts ∧
        q = own.united parts ∧ q.bindings = own.bindings ++ parts.flatMap fun part => part.2.bindings := by
  intro t
  have ht : t.Separate ids := separate_united hs calls
  refine ⟨fun c => ?_, fun hempty hlossless a ha => ⟨perm_heldBy hs hempty hlossless ha, ?_⟩, ?_⟩
  · obtain ⟨b, drafts, hb, hexec, -, hmembers⟩ := c.exec_call env ht
    have hu : s.united env (calls ++ [c]) = { t with drafts } := by
      rw [united_concat]
      exact congrArg Prod.snd hexec
    refine ⟨b, hb, ?_⟩
    rw [hu]
    refine ⟨hexec, ?_, ?_, ?_, fun other hother hreceiver hmember => ?_⟩
    · rw [hmembers c.receiver_mem, replace_receiver]
    · rw [hmembers c.receiver_mem, replace_receiver_eq_iff]
    · rw [hmembers c.member_mem, replace_member]
    · rw [hmembers hother, c.replace_other _ hreceiver hmember]
  · rintro before c later rfl honce
    exact count_members hs hempty hlossless (fun d hd => honce d (List.mem_append_left _ hd))
      (fun d hd => honce d (List.mem_append_right _ hd)) ha
  · intro a ha q u hscripts hq
    obtain ⟨b, hb, hdraft, -⟩ := ht a ha
    obtain ⟨clauses, own, parts, v, hclauses, hown, hparts, rfl⟩ := compile_select_members hb hdraft hscripts hq
    exact ⟨own, parts, ⟨b, clauses, v, hb, hclauses, hown⟩, hparts, rfl, own.bindings_united parts⟩

theorem separate_tables : (tables #[]).Separate {n | n < 4} := by
  have hdrafts : ∀ n < 4, (tables #[]).builders[n]?.map (·.draft) = some n := by decide
  intro id hid
  obtain ⟨b, hb, hdraft⟩ := Option.map_eq_some_iff.1 (hdrafts id hid)
  refine ⟨b, hb, hdraft.symm ▸ hid, fun other hother b' hb' hsame => ?_⟩
  obtain ⟨b'', hb'', hdraft'⟩ := Option.map_eq_some_iff.1 (hdrafts other hother)
  obtain rfl : b' = b'' := Option.some.inj (hb'.symm.trans hb'')
  rw [← hdraft', hsame, hdraft]

def among (receiver member : Fin 4) (hne : receiver.val ≠ member.val) : Uniting {n | n < 4} :=
  ⟨receiver, member, .query, .text "", .unmarked, receiver.isLt, member.isLt, hne, rfl⟩

/-- The friends are united with the strangers, and then the people with the friends. -/
theorem union_members_chain :
    let calls := [among 2 3 (by decide), among 0 2 (by decide)]
    let t := (tables #[]).united (.scriptless 4) calls
    (tables #[]).Separate {n | n < 4} ∧ Lossless (.scriptless 4) (tables #[]) calls ∧
      ((t.memberList 0).map (·.builder)).count 3 = 1 ∧ ((t.memberList 0).map (·.builder)).count 2 = 1 ∧
      ∃ own parts u, (compile 0 .select).exec (.scriptless 4) t = (.ok (Query.united own parts), u) ∧
        (own.united parts).sql =
          "(SELECT * FROM `people`) UNION (SELECT * FROM `strangers`) UNION (SELECT * FROM `friends`)" := by
  intro calls t
  have hlossless : Lossless (.scriptless 4) (tables #[]) calls :=
    (Lossless.nil.concat (c := among 2 3 (by decide)) (.inl rfl)).concat (.inl rfl)
  obtain ⟨-, hmembers, hwritten⟩ := @union_members (.scriptless 4) _ _ separate_tables calls
  have hempty : ∀ n < 4, ((tables #[]).memberList n).isEmpty = true := by decide
  obtain ⟨-, hcount⟩ := hmembers (fun id hid => List.isEmpty_iff.1 (hempty id hid)) hlossless 0 (by decide)
  obtain ⟨q, hq, hsql⟩ := exec_eq_ok (compile 0 .select) (.scriptless 4) t (·.sql)
    (y := "(SELECT * FROM `people`) UNION (SELECT * FROM `strangers`) UNION (SELECT * FROM `friends`)")
    (by decide +kernel)
  obtain ⟨own, parts, -, -, rfl, -⟩ := hwritten 0 (by decide) q _ (.of_keeps _ _) hq
  refine ⟨separate_tables, hlossless, ?_, ?_, own, parts, _, hq, hsql⟩
  · exact hcount [] (among 2 3 (by decide)) [among 0 2 (by decide)] rfl (by decide)
  · exact hcount [among 2 3 (by decide)] (among 0 2 (by decide)) [] rfl (by decide)

/-- The people lose the guests when they are united with friends that have been united with the strangers. -/
theorem not_union_members :
    let t := behind (tables #[]) [(0, uniting 1), (2, uniting 3)]
    t.memberList 0 = [⟨.unmarked, 1⟩] ∧ t.memberList 2 = [⟨.unmarked, 3⟩] ∧
      (behind t [(0, uniting 2)]).memberList 0 = [⟨.unmarked, 3⟩, ⟨.unmarked, 2⟩] ∧
      (behind t [(0, uniting 2)]).memberList 0 ≠ t.memberList 0 ++ t.memberList 2 ++ [⟨.unmarked, 2⟩] ∧
      selection t 0 = some "(SELECT * FROM `people`) UNION (SELECT * FROM `guests`)" ∧
      selection (behind t [(0, uniting 2)]) 0 =
        some "(SELECT * FROM `people`) UNION (SELECT * FROM `strangers`) UNION (SELECT * FROM `friends`)" := by
  intro t
  refine ⟨rfl, rfl, rfl, fun h => ?_, ?_, ?_⟩
  · cases h
  all_goals decide +kernel

end Session

end SqlBuilder
