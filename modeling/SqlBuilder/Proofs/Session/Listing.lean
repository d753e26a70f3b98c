import SqlBuilder.Proofs.Session.KeepingLast

/-!
Orders, joins and conditions on groups of rows. A builder that overwrites keeps of all entries with one key the one that
was declared last, in the order of those that are kept; any other builder keeps all of them.
-/

namespace SqlBuilder

open Act Session Declare

variable {env : Surroundings} {s t u : Session} {id : Nat} {b : Builder} {d : Draft}

/-! ### What calls declare -/

/-- Entries of the three lists. -/
structure Listing where
  orders : List OrderTerm := []
  joins : List DraftJoin := []
  havings : List Criterion := []

namespace Listing

def append (l more : Listing) : Listing := ⟨l.orders ++ more.orders, l.joins ++ more.joins, l.havings ++ more.havings⟩

def keys (l : Listing) : List Value := l.orders.map (·.field) ++ l.joins.map (·.table) ++ l.havings.map (·.key)

def ofDraft (d : Draft) : Listing :=
  ⟨EntryList.orderBys.listed d, EntryList.joins.listed d, EntryList.havings.listed d⟩

def settled (isOverwriting : Bool) (l more : Listing) : Listing where
  orders := EntryList.orderBys.settled isOverwriting l.orders more.orders
  joins := EntryList.joins.settled isOverwriting l.joins more.joins
  havings := EntryList.havings.settled isOverwriting l.havings more.havings

def kept (isOverwriting : Bool) (l : Listing) : Listing where
  orders := EntryList.orderBys.kept isOverwriting l.orders
  joins := EntryList.joins.kept isOverwriting l.joins
  havings := EntryList.havings.kept isOverwriting l.havings

variable {l more : Listing} {P : Value → Prop}

theorem forall_keys_iff : (∀ k ∈ l.keys, P k) ↔
    (∀ x ∈ l.orders, P x.field) ∧ (∀ x ∈ l.joins, P x.table) ∧ ∀ x ∈ l.havings, P x.key := by
  simp only [keys, List.forall_mem_append, List.forall_mem_map, and_assoc]

theorem forall_keys_append (hl : ∀ k ∈ l.keys, P k) (hmore : ∀ k ∈ more.keys, P k) :
    ∀ k ∈ (l.append more).keys, P k := by
  rw [forall_keys_iff] at hl hmore ⊢
  exact ⟨List.forall_mem_append.2 ⟨hl.1, hmore.1⟩, List.forall_mem_append.2 ⟨hl.2.1, hmore.2.1⟩,
    List.forall_mem_append.2 ⟨hl.2.2, hmore.2.2⟩⟩

theorem settled_append (isOverwriting : Bool) (l more more' : Listing) :
    l.settled isOverwriting (more.append more') = (l.settled isOverwriting more).settled isOverwriting more' := by
  simp only [settled, append, EntryList.settled_append]

theorem forall_keys_settled {isOverwriting : Bool} (hl : ∀ k ∈ l.keys, P k) (hmore : ∀ k ∈ more.keys, P k) :
    ∀ k ∈ (l.settled isOverwriting more).keys, P k := by
  obtain ⟨horders, hjoins, hhavings⟩ := forall_keys_iff.1 (forall_keys_append hl hmore)
  exact forall_keys_iff.2 ⟨fun x hx => horders x (EntryList.settled_subset hx),
    fun x hx => hjoins x (EntryList.settled_subset hx), fun x hx => hhavings x (EntryList.settled_subset hx)⟩

theorem settled_nil (isOverwriting : Bool) (hl : ∀ k ∈ l.keys, k.IsProper) :
    settled isOverwriting {} l = l.kept isOverwriting := by
  obtain ⟨horders, hjoins, hhavings⟩ := forall_keys_iff.1 hl
  simp only [settled, kept, Listing.mk.injEq]
  exact ⟨EntryList.settled_nil _ fun x hx => (horders x hx).fair,
    EntryList.settled_nil _ fun x hx => (hjoins x hx).fair, EntryList.settled_nil _ fun x hx => (hhavings x hx).fair⟩

end Listing

/-- The order by a field in a direction, which is written in capital letters. -/
def OrderTerm.declared? (lead : Option String) (entry : Value × Value) : Option OrderTerm :=
  entry.2.text?.map fun direction => ⟨NameScope.columns.addPrefix lead entry.1, Text.upper direction⟩

/-- What a call adds to the three lists of a builder with a prefix, if it is one of those that do. A join with
conditions has them on the builder that comes up next. -/
def BuilderCall.listing? (lead : Option String) (next : Nat) : BuilderCall → Option Listing
  | .orderBy fields direction => do
    let orders ← (orderEntries fields direction).mapM (OrderTerm.declared? lead)
    pure { orders }
  | .join joined key _ _ kind =>
    some { joins := [⟨kind, NameScope.tables.addPrefix lead joined, if key.isNull then none else some next⟩] }
  | .joinUsing joined _ kind => some { joins := [⟨kind, NameScope.tables.addPrefix lead joined, some next⟩] }
  | .having key operator operand joiner =>
    some { havings := [{ key := NameScope.columns.addPrefix lead key, operator, operand, joiner }] }
  | _ => none

/-- The call runs a script on the conditions of a join. -/
def BuilderCall.callsScript : BuilderCall → Bool
  | .join _ key _ _ _ => key.isCallable
  | _ => false

/-! ### What the calls come to -/

namespace Session.Has

variable (h : s.Has id b d)

include h

/-- The builder whose conditions come up next has a draft of its own. -/
theorem exec_newBuilder (env : Surroundings) (role : BuilderRole) :
    ∃ t own, (Act.newBuilder role).exec env s = (.ok s.builders.size, t) ∧
      t.Has id b d ∧ t.Has s.builders.size own {} ∧ b.draft ≠ own.draft := by
  refine ⟨_, ⟨role, s.drafts.size, s.lead, .bool s.overwriting, .null, none⟩, rfl,
    ⟨getElem?_push_of_some h.builder, getElem?_push_of_some h.draft⟩,
    ⟨Array.getElem?_push_size, Array.getElem?_push_size⟩, ?_⟩
  exact (Array.getElem?_eq_some_iff.1 h.draft).1.ne

/-- The draft of another builder changes. -/
theorem exec_modifyDraft_other {k : Nat} {own : Builder} {d' : Draft} (hk : s.Has k own d') (hn : b.draft ≠ own.draft)
    (f : Draft → Draft) : ∃ t, (Act.modifyDraft k f).exec env s = (.ok (), t) ∧ t.Has id b d :=
  ⟨_, exec_modifyDraft hk.builder f, SparedBut.modify _ s f _ _ _ hn h⟩

theorem exec_on (env : Surroundings) {k : Nat} {own : Builder} {d' : Draft} (hk : s.Has k own d')
    (hn : b.draft ≠ own.draft) (key operator operand joiner : Value) :
    ∃ t, (Declare.on k key operator operand joiner).exec env s = (.ok (), t) ∧ t.Has id b d := by
  unfold Declare.on
  rw [exec_bind_ok (hk.exec_withLead _ _), exec_bind_ok (hk.exec_withLead _ _)]
  exact h.exec_modifyDraft_other hk hn _

theorem exec_usingColumns (env : Surroundings) {k : Nat} {own : Builder} {d' : Draft} (hk : s.Has k own d')
    (hn : b.draft ≠ own.draft) (columns : List Value) :
    ∃ t, (Declare.usingColumns k (.list columns)).exec env s = (.ok (), t) ∧ t.Has id b d := by
  unfold Declare.usingColumns
  change ∃ t, (Act.builder k >>= _).exec env s = _ ∧ _
  rw [exec_bind_ok hk.exec_builder]
  exact h.exec_modifyDraft_other hk hn _

variable (hplain : ∀ k ∈ (Listing.ofDraft d).keys, k.isCallable = false)

include hplain

theorem exec_pushJoin (env : Surroundings) (kind table : Value) (builder : Option Nat) :
    ∃ t d', (Declare.pushJoin id kind table builder).exec env s = (.ok (), t) ∧ t.Has id b d' ∧
      .ofDraft d' = (Listing.ofDraft d).settled b.overwriting.isTruthy
        { joins := [⟨kind, NameScope.tables.addPrefix b.lead table, builder⟩] } := by
  unfold Declare.pushJoin
  rw [exec_bind_ok (h.exec_withLead _ _)]
  obtain ⟨t, hexec, ht, -⟩ := EntryList.exec_replace_plain env EntryList.lawful_joins h
    (Listing.forall_keys_iff.1 hplain).2.1 ⟨kind, NameScope.tables.addPrefix b.lead table, builder⟩
  exact ⟨t, _, hexec, ht, rfl⟩

theorem exec_having (key operator operand joiner : Value) :
    ∃ t d', (Declare.having id key operator operand joiner).exec env s = (.ok (), t) ∧ t.Has id b d' ∧
      .ofDraft d' = (Listing.ofDraft d).settled b.overwriting.isTruthy
        { havings := [{ key := NameScope.columns.addPrefix b.lead key, operator, operand, joiner }] } := by
  unfold Declare.having
  rw [exec_bind_ok (h.exec_withLead _ _)]
  obtain ⟨t, hexec, ht, -⟩ := EntryList.exec_replace_plain env EntryList.lawful_havings h
    (Listing.forall_keys_iff.1 hplain).2.2
    { key := NameScope.columns.addPrefix b.lead key, operator, operand, joiner }
  exact ⟨t, _, hexec, ht, rfl⟩

theorem exec_orderByOne (env : Surroundings) {entry : Value × Value} {term : OrderTerm}
    (hterm : OrderTerm.declared? b.lead entry = some term) :
    ∃ t d', (Declare.orderByOne id entry.1 entry.2).exec env s = (.ok (), t) ∧ t.Has id b d' ∧
      .ofDraft d' = (Listing.ofDraft d).settled b.overwriting.isTruthy { orders := [term] } := by
  obtain ⟨field, v⟩ := entry
  obtain ⟨direction, hdirection, rfl⟩ := Option.map_eq_some_iff.1 hterm
  obtain rfl : v = .text direction := by
    cases v with
    | text s => exact congrArg Value.text (Option.some.inj hdirection)
    | _ => cases hdirection
  obtain ⟨t, d', hdrop, ht, haccepted, hset, -⟩ := EntryList.exec_dropReplaced_plain env
    EntryList.lawful_orderBys h (Listing.forall_keys_iff.1 hplain).1
    ⟨NameScope.columns.addPrefix b.lead field, Text.upper direction⟩
  have hopened := ht.modify fun d => { d with orderBys := extended d.orderBys [] }
  obtain ⟨u, hpush, hu⟩ := EntryList.orderBys.exec_push env hopened
    ⟨NameScope.columns.addPrefix b.lead field, Text.upper direction⟩
  refine ⟨u, _, ?_, hu, ?_⟩
  · unfold Declare.orderByOne
    rw [exec_bind_ok (h.exec_withLead _ _)]
    exact (exec_bind_ok hdrop).trans ((exec_bind_ok (exec_modifyDraft ht.builder _)).trans hpush)
  · have hrest := hset none
    have hjoins : d'.joins = d.joins := by injection hrest
    have hhavings : d'.havings = d.havings := by injection hrest
    change Listing.mk (EntryList.orderBys.listed d' ++ [] ++ [_]) (d'.joins.getD []) (d'.havings.getD []) = _
    rw [List.append_nil, haccepted, hjoins, hhavings]
    rfl

/-- The orders come in one by one. -/
theorem exec_orderByEach {entries : List (Value × Value)} {terms : List OrderTerm}
    (hterms : entries.mapM (OrderTerm.declared? b.lead) = some terms)
    (hnew : ∀ term ∈ terms, term.field.isCallable = false) :
    ∃ t d', (entries.forM fun entry => Declare.orderByOne id entry.1 entry.2).exec env s = (.ok (), t) ∧
      t.Has id b d' ∧ .ofDraft d' = (Listing.ofDraft d).settled b.overwriting.isTruthy { orders := terms } := by
  induction entries generalizing s d terms with
  | nil =>
      cases hterms
      exact ⟨s, d, rfl, h, rfl⟩
  | cons entry rest ih =>
      rw [List.mapM_cons] at hterms
      obtain ⟨term, hterm, hterms⟩ := Option.bind_eq_some_iff.1 hterms
      obtain ⟨terms, hrest, hterms⟩ := Option.bind_eq_some_iff.1 hterms
      cases hterms
      obtain ⟨hfirst, hlater⟩ := List.forall_mem_cons.1 hnew
      obtain ⟨t, d', hexec, ht, hd'⟩ := h.exec_orderByOne hplain env hterm
      have hplain' : ∀ k ∈ (Listing.ofDraft d').keys, k.isCallable = false := by
        rw [hd']
        exact Listing.forall_keys_settled hplain (Listing.forall_keys_iff.2
          ⟨List.forall_mem_singleton.2 hfirst, List.forall_mem_nil _, List.forall_mem_nil _⟩)
      obtain ⟨u, d'', hexec', hu, hd''⟩ := ih ht hplain' hrest hlater
      refine ⟨u, d'', (exec_bind_ok hexec).trans hexec', hu, ?_⟩
      rw [hd'', hd']
      exact (Listing.settled_append _ _ { orders := [term] } { orders := terms }).symm

end Session.Has

/-- A call that runs no script succeeds, and declares what it should. -/
theorem BuilderCall.exec_listing (env : Surroundings) {c : BuilderCall} {more : Listing} (h : s.Has id b d)
    (hplain : ∀ k ∈ (Listing.ofDraft d).keys, k.isCallable = false)
    (hlisting : c.listing? b.lead s.builders.size = some more) (hmore : ∀ k ∈ more.keys, k.isCallable = false)
    (hscript : c.callsScript = false) :
    ∃ v t d', (c.perform id).exec env s = (.ok v, t) ∧ t.Has id b d' ∧
      .ofDraft d' = (Listing.ofDraft d).settled b.overwriting.isTruthy more := by
  have hdeclaring : ∀ {change : Act Unit}, (∃ t d', change.exec env s = (.ok (), t) ∧ t.Has id b d' ∧
      .ofDraft d' = (Listing.ofDraft d).settled b.overwriting.isTruthy more) →
      ∃ v t d', (declaring id change).exec env s = (.ok v, t) ∧ t.Has id b d' ∧
        .ofDraft d' = (Listing.ofDraft d).settled b.overwriting.isTruthy more := by
    rintro change ⟨t, d', hchange, ht, hd'⟩
    exact ⟨_, t, d', (exec_bind_ok hchange).trans ht.exec_builderValue, ht, hd'⟩
  cases c with
  | orderBy fields direction =>
      obtain ⟨terms, hterms, hlisting⟩ := Option.bind_eq_some_iff.1 hlisting
      cases hlisting
      exact hdeclaring (h.exec_orderByEach hplain hterms (Listing.forall_keys_iff.1 hmore).1)
  | having key operator operand joiner =>
      cases hlisting
      exact hdeclaring (h.exec_having hplain key operator operand joiner)
  | joinUsing joined fields kind =>
      cases hlisting
      refine hdeclaring ?_
      obtain ⟨t, own, hnew, ht, hown, hn⟩ := h.exec_newBuilder env .join
      obtain ⟨u, husing, hu⟩ := ht.exec_usingColumns env hown hn (fields.items?.getD [fields])
      obtain ⟨w, d', hpush, hw⟩ := hu.exec_pushJoin hplain env kind joined (some s.builders.size)
      refine ⟨w, d', ?_, hw⟩
      unfold Declare.joinUsing
      rw [exec_bind_ok hnew, exec_bind_ok husing, hpush]
  | join joined key operator operand kind =>
      cases hlisting
      refine hdeclaring ?_
      unfold Declare.join
      cases hnull : key.isNull with
      | true => exact h.exec_pushJoin hplain env kind joined none
      | false =>
          obtain ⟨t, own, hnew, ht, hown, hn⟩ := h.exec_newBuilder env .join
          obtain ⟨u, hon, hu⟩ := ht.exec_on env hown hn key operator operand (.text "AND")
          obtain ⟨w, d', hpush, hw⟩ := hu.exec_pushJoin hplain env kind joined (some s.builders.size)
          refine ⟨w, d', ?_, hw⟩
          have hplain : key.isCallable = false := hscript
          simp only [hplain, Bool.false_eq_true, if_false]
          rw [exec_bind_ok hnew, exec_bind_ok hon, hpush]
  | _ => cases hlisting

/-- A call that lists something declares it, or fails and leaves the builder as it is. -/
theorem BuilderCall.listing_cases [env.Keeps (Untouched id)] {c : BuilderCall} {more : Listing} (h : s.Has id b d)
    (hplain : ∀ k ∈ (Listing.ofDraft d).keys, k.isCallable = false)
    (hlisting : c.listing? b.lead s.builders.size = some more) (hmore : ∀ k ∈ more.keys, k.isCallable = false)
    {outcome : Except Fault Value} (hexec : (c.perform id).exec env s = (outcome, t)) :
    (∃ fault, outcome = .error fault) ∧ t.Has id b d ∨ (∃ v, outcome = .ok v) ∧ ∃ d', t.Has id b d' ∧
      .ofDraft d' = (Listing.ofDraft d).settled b.overwriting.isTruthy more := by
  cases hscript : c.callsScript with
  | false =>
      obtain ⟨v, u, d', hok, hu⟩ := BuilderCall.exec_listing env h hplain hlisting hmore hscript
      cases hok.symm.trans hexec
      exact .inr ⟨⟨v, rfl⟩, d', hu⟩
  | true =>
      cases c with
      | join joined key operator operand kind =>
          have hcallable : key.isCallable = true := hscript
          have hnull : key.isNull = false := by
            cases key <;> first | rfl | cases hcallable
          cases hlisting
          obtain ⟨u, own, hnew, hu, -⟩ := h.exec_newBuilder env .join
          simp only [perform, declaring, Declare.join, hnull, hcallable, Bool.false_eq_true, if_false, if_true,
            bind_assoc] at hexec
          rw [exec_bind_ok hnew, exec_bind] at hexec
          rcases hcall : (callOn key s.builders.size).exec env u with ⟨outcome', w⟩
          have hw : w.Has id b d := (Keeps.untouched.callOn _ _).of_exec hcall _ _ hu
          rw [hcall] at hexec
          cases outcome' with
          | error fault =>
              cases hexec
              exact .inl ⟨⟨fault, rfl⟩, hw⟩
          | ok =>
              obtain ⟨w', d', hpush, hw', hd'⟩ :=
                hw.exec_pushJoin hplain env kind joined (some s.builders.size)
              cases ((exec_bind_ok hpush).trans hw'.exec_builderValue).symm.trans hexec
              refine .inr ⟨⟨_, rfl⟩, d', hw', ?_⟩
              rw [hd', hnull]
              rfl
      | _ => cases hscript

/-! ### Runs -/

/-- What calls have listed on a builder since a state. A call may fail, and in between anything may happen that leaves
the builder alone. The scripts of joins do. -/
inductive Listed (env : Surroundings) (id : Nat) (lead : Option String) (s : Session) : Session → Listing → Prop where
  | start : Listed env id lead s s {}
  | between {t u : Session} {l : Listing} (h : Listed env id lead s t l) (hbetween : Untouched id t u) :
      Listed env id lead s u l
  | failed {t u : Session} {l more : Listing} {c : BuilderCall} {fault : Fault} (h : Listed env id lead s t l)
      (hlisting : c.listing? lead t.builders.size = some more) (hplain : ∀ k ∈ more.keys, k.isCallable = false)
      (hscripts : Confined (Untouched id) env (c.perform id) t)
      (hcall : (c.perform id).exec env t = (.error fault, u)) : Listed env id lead s u l
  | called {t u : Session} {l more : Listing} {c : BuilderCall} {v : Value} (h : Listed env id lead s t l)
      (hlisting : c.listing? lead t.builders.size = some more)
      (hscripts : Confined (Untouched id) env (c.perform id) t)
      (hcall : (c.perform id).exec env t = (.ok v, u)) : Listed env id lead s u (l.append more)

variable {l : Listing}

theorem Listing.forall_keys_of_append {l more : Listing} {P : Value → Prop} (h : ∀ k ∈ (l.append more).keys, P k) :
    (∀ k ∈ l.keys, P k) ∧ ∀ k ∈ more.keys, P k := by
  obtain ⟨horders, hjoins, hhavings⟩ := forall_keys_iff.1 h
  obtain ⟨horders, horders'⟩ := List.forall_mem_append.1 horders
  obtain ⟨hjoins, hjoins'⟩ := List.forall_mem_append.1 hjoins
  obtain ⟨hhavings, hhavings'⟩ := List.forall_mem_append.1 hhavings
  exact ⟨forall_keys_iff.2 ⟨horders, hjoins, hhavings⟩, forall_keys_iff.2 ⟨horders', hjoins', hhavings'⟩⟩

theorem Listed.settled (h : Listed env id b.lead s t l) (hs : s.Has id b d) (hempty : Listing.ofDraft d = {})
    (hplain : ∀ k ∈ l.keys, k.isCallable = false) :
    ∃ d', t.Has id b d' ∧ .ofDraft d' = Listing.settled b.overwriting.isTruthy {} l := by
  have hdeclared : ∀ {l : Listing} {d' : Draft}, (∀ k ∈ l.keys, k.isCallable = false) →
      .ofDraft d' = Listing.settled b.overwriting.isTruthy {} l →
      ∀ k ∈ (Listing.ofDraft d').keys, k.isCallable = false := by
    intro l d' hl hd'
    rw [hd']
    exact Listing.forall_keys_settled (fun _ hk => nomatch hk) hl
  induction h with
  | start => exact ⟨d, hs, hempty⟩
  | between _ hbetween ih =>
      obtain ⟨d', ht, hd'⟩ := ih hplain
      exact ⟨d', hbetween _ _ ht, hd'⟩
  | failed _ hlisting hmore hscripts hcall ih =>
      obtain ⟨d', ht, hd'⟩ := ih hplain
      rw [← hscripts] at hcall
      obtain ⟨-, hu⟩ | ⟨⟨v, hv⟩, -⟩ := BuilderCall.listing_cases ht (hdeclared hplain hd') hlisting hmore hcall
      · exact ⟨d', hu, hd'⟩
      · cases hv
  | called _ hlisting hscripts hcall ih =>
      obtain ⟨hl, hmore⟩ := Listing.forall_keys_of_append hplain
      obtain ⟨d', ht, hd'⟩ := ih hl
      rw [← hscripts] at hcall
      obtain ⟨⟨fault, hfault⟩, -⟩ | ⟨-, d'', hu, hd''⟩ :=
        BuilderCall.listing_cases ht (hdeclared hl hd') hlisting hmore hcall
      · cases hfault
      · refine ⟨d'', hu, ?_⟩
        rw [hd'', hd', Listing.settled_append]

/-- Orders, joins and conditions on groups of rows are kept as they have been declared; on a builder that overwrites
those that no later one has the key of. A further call that runs no script succeeds. -/
theorem listing_of_listed (h : Listed env id b.lead s t l) (hs : s.Has id b d) (hempty : Listing.ofDraft d = {})
    (hproper : ∀ k ∈ l.keys, k.IsProper) (hplain : ∀ k ∈ l.keys, k.isCallable = false) :
    Listing.ofDraft (t.declared id) = l.kept b.overwriting.isTruthy ∧
      ∀ (c : BuilderCall) (more : Listing), c.listing? b.lead t.builders.size = some more →
        (∀ k ∈ more.keys, k.isCallable = false) → c.callsScript = false →
          ∃ v u, (c.perform id).exec env t = (.ok v, u) := by
  obtain ⟨d', ht, hd'⟩ := h.settled hs hempty hplain
  refine ⟨?_, fun c more hlisting hmore hscript => ?_⟩
  · rw [ht.declared_eq, hd', Listing.settled_nil _ hproper]
  · have hdeclared : ∀ k ∈ (Listing.ofDraft d').keys, k.isCallable = false := by
      rw [hd']
      exact Listing.forall_keys_settled (fun _ hk => nomatch hk) hplain
    obtain ⟨v, u, _, hexec, -⟩ := BuilderCall.exec_listing env ht hdeclared hlisting hmore hscript
    exact ⟨v, u, hexec⟩

/-- A field that is repeated in one call is kept once, where it was declared last. -/
theorem listing_of_listed_repeated : ∃ t, Listed (.scriptless 1) 0 none (Session.overwritten #[]) t
      { orders := [⟨.text "a", "ASC"⟩, ⟨.text "b", "DESC"⟩, ⟨.text "a", "DESC"⟩] } ∧
    Listing.ofDraft (t.declared 0) = { orders := [⟨.text "b", "DESC"⟩, ⟨.text "a", "DESC"⟩] } := by
  have hs : (Session.overwritten #[]).Has 0 ⟨.query, 0, none, .bool true, .null, none⟩ (.over (.text "people")) :=
    ⟨rfl, rfl⟩
  have hasc : Text.upper "asc" = "ASC" := by decide +kernel
  have hdesc : Text.upper "desc" = "DESC" := by decide +kernel
  have hfirst : ∀ next, (BuilderCall.orderBy (.text "a") (.text "asc")).listing? none next =
      some { orders := [⟨.text "a", "ASC"⟩] } := fun _ => by
    rw [← hasc]
    rfl
  have hsecond : ∀ next, (BuilderCall.orderBy (.list [.text "b", .text "a"]) (.text "desc")).listing? none next =
      some { orders := [⟨.text "b", "DESC"⟩, ⟨.text "a", "DESC"⟩] } := fun _ => by
    rw [← hdesc]
    rfl
  obtain ⟨_, t, d, hcall, ht, hd⟩ :=
    BuilderCall.exec_listing (.scriptless 1) hs (by decide) (hfirst _) (by decide) rfl
  obtain ⟨_, u, _, hcall', -⟩ :=
    BuilderCall.exec_listing (.scriptless 1) ht (by rw [hd]; decide) (hsecond _) (by decide) rfl
  have hlisted := (Listed.called .start (hfirst _) (.of_keeps _ _) hcall).called (hsecond _) (.of_keeps _ _) hcall'
  refine ⟨u, hlisted, (listing_of_listed hlisted hs rfl (fun k hk => ?_) (by decide)).1.trans rfl⟩
  simp only [Listing.append, Listing.keys, List.nil_append, List.singleton_append, List.map_cons, List.map_nil,
    List.append_nil, List.mem_cons, List.not_mem_nil, or_false] at hk
  rcases hk with rfl | rfl | rfl <;> trivial

end SqlBuilder
