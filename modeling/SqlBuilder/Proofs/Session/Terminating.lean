import Mathlib.Order.WellFoundedSet
import SqlBuilder.Proofs.Session.Ends
import SqlBuilder.Proofs.Session.Swapping
import SqlBuilder.Proofs.Session.Tying

/-!
Whether a projection comes to an end. It does if no draft is written with itself, and never does if the draft of the
builder is.
-/

namespace SqlBuilder

open Act Session Footprint

variable {env : Surroundings} {s t u : Session} {id n : Nat}

/-! ### Drafts that are written with themselves -/

namespace Session

/-- The draft is written with one that is written with itself. -/
def Loops (s : Session) (n : Nat) : Prop := ∃ m, s.Gathers n m ∧ Relation.TransGen s.Enlists m m

theorem Loops.next (h : s.Loops n) : ∃ m, s.Enlists n m ∧ s.Loops m := by
  obtain ⟨m, hpath, hcycle⟩ := h
  obtain rfl | ⟨k, hk, hpath⟩ := Relation.ReflTransGen.cases_head hpath
  · obtain ⟨k, hk, hback⟩ := Relation.TransGen.head'_iff.1 hcycle
    exact ⟨k, hk, n, hback, hcycle⟩
  · exact ⟨k, hk, m, hpath, hcycle⟩

theorem Knotless.not_loops (h : s.Knotless) (n : Nat) : ¬ s.Loops n := fun ⟨m, _, hcycle⟩ => h m hcycle

/-- The drafts that do not loop, from those that are written by themselves on. -/
theorem Linked.induction {P : Nat → Prop} (hs : s.Linked)
    (h : ∀ n < s.drafts.size, ¬ s.Loops n → (∀ m, s.Enlists n m → P m) → P n) (hn : n < s.drafts.size)
    (hloops : ¬ s.Loops n) : P n := by
  let below (m n : Nat) : Prop := Relation.TransGen s.Enlists n m ∧ ¬ s.Loops n
  have horder : IsStrictOrder Nat below :=
    { irrefl := fun n hbelow => hbelow.2 ⟨n, .refl, hbelow.1⟩
      trans := fun _ _ _ hab hbc => ⟨hbc.1.trans hab.1, hbc.2⟩ }
  have hwf := (Set.finite_lt_nat s.drafts.size).wellFoundedOn (r := below)
  refine hwf.induction (P := fun n => ¬ s.Loops n → P n) hn (fun n hn ih hloops => ?_) hloops
  refine h n hn hloops fun m hm => ih m ?_ ⟨.single hm, hloops⟩ fun ⟨k, hpath, hcycle⟩ => ?_
  · obtain ⟨u, -, b, hb, rfl⟩ := hm
    exact hs.draft _ b hb
  · exact hloops ⟨k, .head hm hpath, hcycle⟩

end Session

/-! ### Compilations that end -/

/-- At every depth from some on the builder compiles to the same, and that is not that it goes too deep. -/
def Session.Terminates (s : Session) (env : Surroundings) (id : Nat) : Prop :=
  ∃ enough outcome t, outcome ≠ .error .tooDeep ∧ ∀ depth, enough ≤ depth →
    (compile id .select).exec { env with depth } s = (outcome, t)

theorem Footprint.Closed.ends_select {p : Footprint} (hp : p.Closed s) (hs : s.Linked) (hfinite : p.Finite env s)
    {b : Builder} (hid : id ∈ p.builders) (hb : s.builders[id]? = some b) (hloops : ¬ s.Loops b.draft)
    (hst : Keeping s t) : Ends env (fun depth => Resolve.select depth id) t := by
  have hall : ∀ id ∈ p.builders, ∀ b', s.builders[id]? = some b' → b'.draft = b.draft → ∀ t, Keeping s t →
      Ends env (fun depth => Resolve.select depth id) t := by
    refine hs.induction (P := fun n => ∀ id ∈ p.builders, ∀ b', s.builders[id]? = some b' → b'.draft = n → ∀ t,
      Keeping s t → Ends env (fun depth => Resolve.select depth id) t) ?_ (hs.draft id b hb) hloops
    rintro n hn - ih id hid b hb rfl t hst
    obtain ⟨b₁, hb₁, hholds, hunions⟩ := hp.builder id hid
    obtain rfl := Option.some.inj (hb.symm.trans hb₁)
    obtain ⟨b', hb', hdraft⟩ := hst.builders id b hb
    refine .of_succ ?_
    simp only [Resolve.select]
    refine .read_bind (x := b.draft) (fun _ => (exec_draftOf hb').trans (by rw [hdraft])) ?_
    refine .bind (hp.ends_selectClauses hfinite hst hholds) fun clauses u hu => ?_
    refine .bind (.each rfl fun x hx place v hv => ?_) fun _ _ _ => .pure _
    have hsu := hst.trans hu
    rw [hsu.drafts b.draft hn] at hx
    have hmember := Array.getElem?_eq_getElem (hs.union b.draft _ (Array.getElem?_eq_getElem hn) x (by
      rwa [Array.getElem?_eq_getElem hn] at hx))
    exact .bind (ih _ ⟨x, hx, _, hmember, rfl⟩ x.builder (hunions x hx) _ hmember rfl v (hsu.trans hv))
      fun _ _ _ => .pure _
  exact hall id hid b hb rfl t hst

/-- With finite groups a builder compiles in the end if its draft does not loop. -/
theorem Session.Linked.terminates {b : Builder} (hs : s.Linked) (hb : s.builders[id]? = some b)
    (hloops : ¬ s.Loops b.draft) (hfinite : (s.footprint id).Finite env s) : s.Terminates env id := by
  have hid := (Array.getElem?_eq_some_iff.1 hb).1
  have hends : Ends env (fun depth => projected depth id) s :=
    .read_bind (fun _ => rfl) (.bind ((hs.closed_footprint hid).ends_select hs hfinite (mem_footprint s id) hb hloops
      (.of_eq rfl rfl rfl rfl rfl rfl)) fun tree _ _ => .lift (.tree tree))
  obtain ⟨enough, outcome, t, houtcome, -, hexec⟩ := hends
  exact ⟨enough, outcome, t, houtcome, fun depth hdepth => (exec_compile_select hb).trans (hexec depth hdepth depth)⟩

/-! ### Compilations that do not -/

/-- A builder whose draft loops never resolves to anything. -/
theorem Resolve.not_select_of_loops [env.Keeps SameUnions] {b : Builder} (hs : s.Linked)
    (hb : s.builders[id]? = some b) (hloops : s.Loops b.draft) {depth : Nat} (hst : s.SameUnions t) {tree : SelectTree}
    (h : (select depth id).exec env t = (.ok tree, u)) : False := by
  induction depth generalizing id b t u tree with
  | zero => cases h
  | succ depth ih =>
      obtain ⟨m, ⟨x, hx, b', hb', rfl⟩, hnext⟩ := hloops.next
      obtain ⟨c, hc, hdraft⟩ := hst.builders id b hb
      have hn := hs.draft id b hb
      have hlt : c.draft < t.drafts.size := by
        obtain ⟨d, hd, -⟩ := hst.drafts b.draft _ (Array.getElem?_eq_getElem hn)
        exact hdraft ▸ (Array.getElem?_eq_some_iff.1 hd).1
      obtain ⟨clauses, members, v, -, -, hmembers⟩ := select_eq_ok hc hlt h
      rw [hst.members hb hn] at hmembers
      have hx' : x ∈ s.memberList id := by
        unfold memberList
        rw [declared_eq hb]
        exact hx
      obtain ⟨member, -, -, v, w, htv, hmember⟩ := exists_mem_of_forall₂ hmembers hx'
      exact ih hb' hnext (trans_of SameUnions hst htv) hmember

/-- So it never compiles, as long as scripts leave the unions alone. -/
theorem not_compile_of_loops {b : Builder} {q : Query} (hs : s.Linked) (hb : s.builders[id]? = some b)
    (hloops : s.Loops b.draft) (hscripts : Confined SameUnions env (compile id .select) s) :
    (compile id .select).exec env s ≠ (.ok q, t) := by
  intro h
  rw [← hscripts, exec_compile_select hb] at h
  obtain ⟨dialect, u, hdialect, h⟩ := exec_bind_eq_ok h
  cases hdialect
  obtain ⟨tree, v, htree, -⟩ := exec_bind_eq_ok h
  exact Resolve.not_select_of_loops hs hb hloops (refl_of SameUnions s) htree

/-! ### Runs of calls -/

theorem Session.Weaving.linked [env.Keeps (Links [])] (h : Weaving env s t) (hs : s.Linked) : t.Linked := by
  induction h with
  | start => exact hs
  | called hrun id c hopen hscripts ih => exact ih.exec (BuilderCall.keeps_perform id c)
  | directed hrun c hscripts ih => exact ih.exec (ConnectionCall.keeps_perform c)

/-- Calls unite builders that come to an end when they are compiled, whatever is called on which builder. None of them
ever loops unless a builder is united with one that is written with its draft, or comes to share such a draft: behind
such a call its draft loops, and whatever has a draft that loops never compiles, while everything else still does. -/
theorem weaving_terminates [env.Keeps (Links [])] (hs : s.Linked) (hknotless : s.Knotless) (hrun : Weaving env s t) :
    t.Knotless ∧
    (∀ id < t.builders.size, (t.footprint id).Finite env t → t.Terminates env id) ∧
    ∀ (id : Nat) (c : BuilderCall) (v : Value) (u : Session), c.Ties → (c.perform id).exec env t = (.ok v, u) →
      (u.Knotless ↔ ¬ c.Knots t id) ∧
      (c.Knots t id → ∃ b : Builder, u.builders[id]? = some b ∧ u.Loops b.draft) ∧
      ∀ (k : Nat) (b : Builder), u.builders[k]? = some b →
        (¬ u.Loops b.draft → (u.footprint k).Finite env u → u.Terminates env k) ∧
        (u.Loops b.draft → ∀ (depth : Nat) (q : Query) (w : Session),
          Confined SameUnions { env with depth } (compile k .select) u →
            (compile k .select).exec { env with depth } u ≠ (.ok q, w)) := by
  have ht := hrun.linked hs
  have horderly := hrun.orderly (hs.orderly hknotless)
  refine ⟨horderly.knotless, fun id hid hfinite => ?_, fun id c v u hties hcall => ?_⟩
  · have hb := Array.getElem?_eq_getElem hid
    exact ht.terminates hb (horderly.knotless.not_loops _) hfinite
  · have hu : u.Linked := by
      have hlinked : ((c.perform id).exec env t).2.Linked := ht.exec (BuilderCall.keeps_perform id c)
      rwa [hcall] at hlinked
    have hloops : c.Knots t id → ∃ b : Builder, u.builders[id]? = some b ∧ u.Loops b.draft := by
      intro hknots
      obtain ⟨b, hb, hcycle⟩ := horderly.cycle_of_knots hknots hcall
      exact ⟨b, hb, b.draft, .refl, hcycle⟩
    refine ⟨⟨fun hnone hknots => ?_, fun hopen => ?_⟩, hloops, fun k b hb => ⟨?_, ?_⟩⟩
    · obtain ⟨b, -, hloop⟩ := hloops hknots
      exact hnone.not_loops _ hloop
    · have hafter : ((c.perform id).exec env t).2.Orderly := horderly.tie hties hopen
      rw [hcall] at hafter
      exact hafter.knotless
    · exact hu.terminates hb
    · exact fun hloop depth q w hscripts => not_compile_of_loops hu hb hloop hscripts

/-! ### Builders that are united with each other in turn, or with themselves -/

theorem linked_tables : (tables #[]).Linked where
  draft id b hb := by
    rcases id with _ | _ | _ | _ | id <;> cases hb <;> decide
  join n d hd j hj := by
    rcases n with _ | _ | _ | _ | n <;> cases hd <;> cases hj
  union n d hd u hu := by
    rcases n with _ | _ | _ | _ | n <;> cases hd <;> cases hu

theorem knotless_tables : (tables #[]).Knotless := by
  refine knotless_of_unionsAt fun n => ?_
  rcases n with _ | _ | _ | _ | n <;> rfl

/-- Without conditions there are no groups. -/
theorem Footprint.finite_of_conditions (p : Footprint) (h : ∀ d ∈ s.drafts, d.conditions = []) : p.Finite env s := by
  intro n _ c hc
  have hnone : (s.drafts[n]?.getD {}).conditions = [] := by
    by_cases hn : n < s.drafts.size
    · rw [Array.getElem?_eq_getElem hn]
      exact h _ (Array.getElem_mem hn)
    · rw [Array.getElem?_eq_none (Nat.le_of_not_lt hn)]
      rfl
  rw [hnone] at hc
  cases hc

/-- The people are united with the guests, and then the guests with the people. That ties a knot, though none of them
was ever united with itself: what the people were united with moves to the guests, who are united with themselves then.
The people still compile. -/
theorem weaving_terminates_in_turn :
    let env := Surroundings.scriptless 4
    let t := (((uniting 1).perform 0).exec env (tables #[])).2
    let u := (((uniting 0).perform 1).exec env t).2
    (tables #[]).Linked ∧ (tables #[]).Knotless ∧ Weaving env (tables #[]) t ∧ t.Knotless ∧
      (∀ id < 4, t.Terminates env id) ∧ (uniting 0).Knots t 1 ∧ ¬ u.Knotless ∧ u.Terminates env 0 ∧
      ∀ (depth : Nat) (q : Query) (w : Session), (compile 1 .select).exec (.scriptless depth) u ≠ (.ok q, w) := by
  intro env t u
  have hopen : ¬ (uniting 1).Knots (tables #[]) 0 := by
    rintro ⟨b, b', hb, hb', hpath⟩
    cases hb
    cases hb'
    obtain hsame | ⟨m, ⟨x, hx, -⟩, -⟩ := Relation.ReflTransGen.cases_head hpath
    · cases hsame
    · cases hx
  have hrun : Weaving env (tables #[]) t := .called .start 0 (uniting 1) hopen (.of_keeps _ _)
  obtain ⟨hknotless, hends, hcalls⟩ := weaving_terminates linked_tables knotless_tables hrun
  have hfinite : ∀ {v : Session}, (v.drafts.all fun d => d.conditions.isEmpty) = true → ∀ id,
      (v.footprint id).Finite env v := fun hall id => Footprint.finite_of_conditions _ fun d hd =>
    List.isEmpty_iff.1 (Array.all_eq_true_iff_forall_mem.1 hall d hd)
  have hknots : (uniting 0).Knots t 1 :=
    ⟨_, _, rfl, rfl, .single ⟨⟨.unmarked, 1⟩, List.mem_singleton_self _, _, rfl, rfl⟩⟩
  obtain ⟨v, hcall, -⟩ := exec_eq_ok ((uniting 0).perform 1) env t (fun _ => ()) (y := ()) (by decide +kernel)
  obtain ⟨hafter, hloop, hbuilders⟩ := hcalls 1 (uniting 0) v u trivial hcall
  have hterminates : ∀ id < 4, t.Terminates env id := fun id hid => hends id hid (hfinite (by decide +kernel) id)
  refine ⟨linked_tables, knotless_tables, hrun, hknotless, hterminates, hknots, fun hnone => hafter.1 hnone hknots,
    ?_, ?_⟩
  · have hnone : (u.unionsAt 0).isEmpty = true := by decide +kernel
    refine (hbuilders 0 ⟨.query, 0, none, .bool false, .null, none⟩ rfl).1 (fun hloops => ?_)
      (hfinite (by decide +kernel) 0)
    obtain ⟨m, ⟨x, hx, -⟩, -⟩ := hloops.next
    exact absurd (List.isEmpty_iff.1 hnone ▸ hx) List.not_mem_nil
  · obtain ⟨b, hb, hloops⟩ := hloop hknots
    intro depth q w
    have hscripts : Confined SameUnions (.scriptless depth) (compile 1 .select) u := .of_keeps _ _
    exact (hbuilders 1 b hb).2 hloops depth q w hscripts

/-- The people, who are united with themselves. -/
def Draft.rounded : Draft := { Draft.over (.text "people") with unions := some [⟨.unmarked, 0⟩] }

theorem Resolve.exec_selectClauses_rounded (depth other : Nat) :
    (selectClauses depth 0).exec (.scriptless other) (.ofDraft .mysql .rounded) =
      (.ok (opening .rounded), .ofDraft .mysql .rounded) :=
  exec_selectClauses_of_none depth rfl rfl rfl rfl rfl rfl rfl rfl rfl rfl

/-- They go too deep at every depth. -/
theorem Resolve.exec_select_rounded (depth other : Nat) :
    (select depth 0).exec (.scriptless other) (.ofDraft .mysql .rounded) =
      (.error .tooDeep, .ofDraft .mysql .rounded) := by
  induction depth with
  | zero => rfl
  | succ depth ih =>
      have hdraft : (Act.draftOf 0).exec (.scriptless other) (.ofDraft .mysql .rounded) =
          (.ok 0, .ofDraft .mysql .rounded) := rfl
      simp only [select]
      rw [exec_bind_ok hdraft, exec_bind_ok (exec_selectClauses_rounded depth other)]
      exact exec_bind_error (exec_each_error rfl (exec_bind_error ih))

/-- A builder that is united with itself never compiles. -/
theorem not_weaving_terminates :
    ((uniting 0).perform 0).exec (.scriptless 4) (.ofDraft .mysql (.over (.text "people"))) =
        (.ok (.builder .query 0), .ofDraft .mysql .rounded) ∧
      ¬ (Session.ofDraft .mysql .rounded).Knotless ∧
      ∀ depth, (compile 0 .select).exec (.scriptless depth) (.ofDraft .mysql .rounded) =
        (.error .tooDeep, .ofDraft .mysql .rounded) := by
  refine ⟨rfl, fun hnone => ?_, fun depth => ?_⟩
  · exact hnone 0 (.single ⟨⟨.unmarked, 0⟩, List.mem_singleton_self _, _, rfl, rfl⟩)
  · rw [exec_compile_select (b := ⟨.query, 0, none, .bool false, .null, none⟩) rfl]
    exact (exec_bind_ok exec_dialect).trans (exec_bind_error (Resolve.exec_select_rounded depth depth))

end SqlBuilder
