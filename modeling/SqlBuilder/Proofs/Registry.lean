import Mathlib.Data.List.Basic
import Mathlib.Data.List.Induction
import SqlBuilder.Proofs.Keys
import SqlBuilder.Registry

/-!
A registry after any history of additions, choices of a default and removals. The connections and the name of the
default are changed apart from each other, yet the default is always one of the connections. What stands under a name is
told by the last addition under it, and its place among the names by the first one that no removal has undone. A call
that fails leaves the registry as it is.
-/

namespace SqlBuilder

namespace Registry

/-- The name of a connection: a text, in which code points of surrogates may occur. -/
inductive Name where
  | text (s : String)
  | surrogates (s : String)
  deriving DecidableEq

namespace Name

def value : Name → Value
  | text s => .text s
  | surrogates s => .surrogates s

def shown : Name → String
  | text s => s
  | surrogates s => s

theorem value_injective : Function.Injective value := by
  intro m n h
  cases m <;> cases n <;> cases h <;> rfl

theorem value_inj {m n : Name} : m.value = n.value ↔ m = n := value_injective.eq_iff

theorem isExact_value (n : Name) : n.value.IsExact := by
  cases n with
  | text s => exact Value.isExact_text s
  | surrogates s => exact Value.isExact_surrogates s

theorem isNull_value (n : Name) : n.value.isNull = false := by
  cases n <;> rfl

theorem value_ne_null (n : Name) : n.value ≠ .null := by
  cases n <;> exact Value.noConfusion

theorem checkName_value (n : Name) : checkName n.value = .ok () := by
  cases n <;> rfl

theorem written_value (n : Name) : n.value.written = .ok n.shown := by
  cases n <;> rfl

theorem same_value (m n : Name) : m.value.same n.value = decide (m = n) := by
  cases m <;> cases n <;> simp [value, Value.same, Value.sameScalar, Value.asInt?, beq_eq_decide]

theorem null_same_value (n : Name) : Value.null.same n.value = false := by
  cases n <;> rfl

end Name

variable {α : Type}

/-- A call that may change a registry. -/
inductive Call (α : Type) where
  | add (name : Name) (connection : α) (isDefault : Bool)
  | setDefault (name : Name)
  | remove (name : Name)

def Call.perform (r : Registry α) : Call α → Except Fault (Registry α)
  | .add name connection isDefault => r.add name.value connection isDefault
  | .setDefault name => r.setDefault name.value
  | .remove name => (·.2) <$> r.remove name.value

/-- The registry after a call, whether it succeeds or fails. -/
def after (r : Registry α) (c : Call α) : Registry α :=
  match c.perform r with
  | .ok changed => changed
  | .error _ => r

/-- The registry that a history of calls leaves, from an empty one on. -/
def run (history : List (Call α)) : Registry α := history.foldl after {}

theorem run_concat (history : List (Call α)) (c : Call α) : run (history ++ [c]) = (run history).after c := by
  unfold run
  rw [List.foldl_append]
  rfl

/-! ### What one call does -/

section Step

variable (r : Registry α) (n : Name)

theorem find?_value : r.find? n.value = .ok (Value.lookup? n.value r.entries) := by
  unfold find?
  rw [n.checkName_value]
  rfl

theorem mem_names_iff : n.value ∈ r.names ↔ ∃ x, Value.lookup? n.value r.entries = some x := by
  rw [← Option.ne_none_iff_exists', ne_eq, n.isExact_value.lookup?_eq_none_iff, not_not]
  rfl

variable {r n} in
theorem setDefault_of_mem (hn : n.value ∈ r.names) :
    r.setDefault n.value = .ok { r with defaultName := n.value } := by
  obtain ⟨x, hx⟩ := (r.mem_names_iff n).1 hn
  unfold setDefault contains
  rw [r.find?_value, hx]
  rfl

variable {r n} in
theorem setDefault_of_not_mem (hn : n.value ∉ r.names) :
    r.setDefault n.value = .error (.sql (.unregistered n.shown)) := by
  have hnone : Value.lookup? n.value r.entries = none := (n.isExact_value.lookup?_eq_none_iff r.entries).2 hn
  unfold setDefault contains
  rw [r.find?_value, hnone, n.written_value]
  rfl

theorem after_add (x : α) (isDefault : Bool) : r.after (.add n x isDefault) =
    { entries := Value.insertEntry n.value x r.entries
      defaultName := if isDefault || r.defaultName.isNull then n.value else r.defaultName } := by
  unfold after Call.perform add
  dsimp only
  rw [n.checkName_value]
  rfl

variable {r n} in
theorem after_setDefault_of_mem (hn : n.value ∈ r.names) :
    r.after (.setDefault n) = { r with defaultName := n.value } := by
  unfold after Call.perform
  dsimp only
  rw [setDefault_of_mem hn]

variable {r n} in
theorem after_setDefault_of_not_mem (hn : n.value ∉ r.names) : r.after (.setDefault n) = r := by
  unfold after Call.perform
  dsimp only
  rw [setDefault_of_not_mem hn]

theorem after_remove : r.after (.remove n) =
    { entries := r.entries.filter fun entry => !n.value.alike entry.1
      defaultName := if r.defaultName.same n.value then (r.after (.remove n)).names.head?.getD .null
        else r.defaultName } := by
  have hstep : r.after (.remove n) =
      { entries := r.entries.filter fun entry => !n.value.alike entry.1
        defaultName := if r.defaultName.same n.value then
          (((r.entries.filter fun entry => !n.value.alike entry.1).head?.map (·.1)).getD .null)
          else r.defaultName } := by
    unfold after Call.perform remove
    dsimp only
    rw [r.find?_value]
    rfl
  rw [hstep]
  unfold names
  rw [List.head?_map]

variable {r n} in
/-- The first of the other names takes the place of a default that is removed. -/
theorem defaultName_remove_self (hn : r.defaultName = n.value) :
    (r.after (.remove n)).defaultName = (r.after (.remove n)).names.head?.getD .null := by
  conv_lhs => rw [after_remove]
  dsimp only
  rw [hn, Name.same_value, if_pos (decide_eq_true rfl)]

theorem names_after_remove : (r.after (.remove n)).names = r.names.filter fun v => !n.value.alike v := by
  rw [after_remove]
  unfold names
  rw [List.filter_map]
  rfl

end Step

/-! ### Names since when -/

/-- The place in the history of the earliest addition of the name since it has last been removed. -/
def Since (history : List (Call α)) (n : Name) (t : Nat) : Prop :=
  (∃ x d, history[t]? = some (.add n x d)) ∧
  (∀ v, t < v → history[v]? ≠ some (.remove n)) ∧
  ∀ u < t, ∀ x d, history[u]? = some (.add n x d) → ∃ v, u < v ∧ v < t ∧ history[v]? = some (.remove n)

def lastAdded (history : List (Call α)) (n : Name) : Option α :=
  (history.filterMap fun
    | .add m x _ => if m = n then some x else none
    | _ => none).getLast?

section Since

variable {history : List (Call α)} {c a : Call α} {m n : Name} {t u : Nat}

theorem getElem?_concat_eq_some :
    (history ++ [c])[u]? = some a ↔ history[u]? = some a ∨ (u = history.length ∧ c = a) := by
  rcases Nat.lt_trichotomy u history.length with hu | hu | hu
  · rw [List.getElem?_append_left hu]
    exact (or_iff_left fun h => Nat.ne_of_lt hu h.1).symm
  · rw [hu, List.getElem?_concat_length, List.getElem?_eq_none (Nat.le_refl _)]
    simp
  · rw [List.getElem?_eq_none (by simp; omega), List.getElem?_eq_none (by omega)]
    simp; omega

theorem Since.lt (h : Since history n t) : t < history.length := by
  obtain ⟨⟨x, d, hadd⟩, -, -⟩ := h
  exact (List.getElem?_eq_some_iff.1 hadd).1

theorem Since.unique (ht : Since history n t) (hu : Since history n u) : t = u := by
  have hle : ∀ {t u}, Since history n t → Since history n u → ¬t < u := by
    rintro t u ⟨⟨x, d, hadd⟩, hstays, -⟩ ⟨-, -, hfirst⟩ hlt
    obtain ⟨v, htv, -, hremove⟩ := hfirst t hlt x d hadd
    exact hstays v htv hremove
  exact Nat.le_antisymm (Nat.not_lt.1 (hle hu ht)) (Nat.not_lt.1 (hle ht hu))

/-- A name that is not since any time has been removed after each of its additions. -/
theorem exists_remove_of_not_since (hnone : ∀ t, ¬Since history n t) {x : α} {d : Bool}
    (hadd : history[u]? = some (.add n x d)) : ∃ v, u < v ∧ history[v]? = some (.remove n) := by
  induction u using Nat.strongRecOn generalizing x d with
  | ind u ih =>
      by_contra hstays
      have hkept : ∀ v, u < v → history[v]? ≠ some (.remove n) := fun v huv hv => hstays ⟨v, huv, hv⟩
      refine hnone u ⟨⟨x, d, hadd⟩, hkept, fun w hwu y e hw => ?_⟩
      obtain ⟨v, hwv, hremove⟩ := ih w hwu hw
      -- the removal is behind the earlier addition, and neither behind this one nor at its place
      have hvu : v ≠ u := by
        rintro rfl
        rw [hadd] at hremove
        cases hremove
      exact ⟨v, hwv, Nat.lt_of_le_of_ne (Nat.not_lt.1 fun h => hkept v h hremove) hvu, hremove⟩

theorem Since.concat (h : Since history n t) (hc : c ≠ .remove n) : Since (history ++ [c]) n t := by
  have hlt := h.lt
  obtain ⟨⟨x, d, hadd⟩, hstays, hfirst⟩ := h
  refine ⟨⟨x, d, getElem?_concat_eq_some.2 (.inl hadd)⟩, fun v hv hremove => ?_, fun u hu y e hadd' => ?_⟩
  · rcases getElem?_concat_eq_some.1 hremove with hremove | ⟨-, rfl⟩
    · exact hstays v hv hremove
    · exact hc rfl
  · rcases getElem?_concat_eq_some.1 hadd' with hadd' | ⟨rfl, -⟩
    · obtain ⟨v, huv, hvt, hremove⟩ := hfirst u hu y e hadd'
      exact ⟨v, huv, hvt, getElem?_concat_eq_some.2 (.inl hremove)⟩
    · omega

theorem Since.of_concat (h : Since (history ++ [c]) n t) :
    Since history n t ∨ (t = history.length ∧ ∃ x d, c = .add n x d) := by
  obtain ⟨⟨x, d, hadd⟩, hstays, hfirst⟩ := h
  rcases getElem?_concat_eq_some.1 hadd with hadd | ⟨rfl, rfl⟩
  · have hlt : t < history.length := (List.getElem?_eq_some_iff.1 hadd).1
    refine .inl ⟨⟨x, d, hadd⟩, fun v hv hremove => ?_, fun u hu y e hadd' => ?_⟩
    · exact hstays v hv (getElem?_concat_eq_some.2 (.inl hremove))
    · obtain ⟨v, huv, hvt, hremove⟩ := hfirst u hu y e (getElem?_concat_eq_some.2 (.inl hadd'))
      rcases getElem?_concat_eq_some.1 hremove with hremove | ⟨rfl, -⟩
      · exact ⟨v, huv, hvt, hremove⟩
      · omega
  · exact .inr ⟨rfl, x, d, rfl⟩

theorem not_since_remove : ¬Since (history ++ [.remove n]) n t := by
  rintro ⟨⟨x, d, hadd⟩, hstays, -⟩
  rcases getElem?_concat_eq_some.1 hadd with hadd | ⟨-, hc⟩
  · exact hstays history.length (List.getElem?_eq_some_iff.1 hadd).1 List.getElem?_concat_length
  · cases hc

/-- A name that comes in, or comes in again, does so with the addition. -/
theorem since_add (hnone : ∀ t, ¬Since history n t) (x : α) (d : Bool) :
    Since (history ++ [.add n x d]) n history.length := by
  refine ⟨⟨x, d, List.getElem?_concat_length⟩, fun v hv hremove => ?_, fun u hu y e hadd => ?_⟩
  · rcases getElem?_concat_eq_some.1 hremove with hremove | ⟨rfl, -⟩
    · exact Nat.lt_asymm hv (List.getElem?_eq_some_iff.1 hremove).1
    · exact Nat.lt_irrefl _ hv
  · rw [List.getElem?_append_left hu] at hadd
    obtain ⟨v, huv, hremove⟩ := exists_remove_of_not_since hnone hadd
    exact ⟨v, huv, (List.getElem?_eq_some_iff.1 hremove).1, getElem?_concat_eq_some.2 (.inl hremove)⟩

theorem lastAdded_concat (history : List (Call α)) (c : Call α) (n : Name) :
    lastAdded (history ++ [c]) n = match c with
      | .add m x _ => if m = n then some x else lastAdded history n
      | _ => lastAdded history n := by
  unfold lastAdded
  rw [List.filterMap_append]
  cases c with
  | add m x d =>
      by_cases hm : m = n
      · simp [hm]
      · simp [hm]
  | setDefault m => simp
  | remove m => simp

end Since

/-! ### What a history tells -/

/-- The one name is in the registry since an earlier time than the other. -/
def Before (history : List (Call α)) (m n : Name) : Prop := ∃ t u, Since history m t ∧ Since history n u ∧ t < u

/-- The names, in the order of the times since when they are in the registry. -/
def Lists (history : List (Call α)) (names : List Name) : Prop :=
  names.Pairwise (Before history) ∧ ∀ n, n ∈ names ↔ ∃ t, Since history n t

/-- What is known of the registry that a history leaves. -/
structure Told (history : List (Call α)) (r : Registry α) : Prop where
  listed : ∃ names, r.names = names.map Name.value ∧ Lists history names
  found : ∀ n : Name, n.value ∈ r.names → Value.lookup? n.value r.entries = lastAdded history n
  linked : (r.defaultName = .null ∧ r.entries = []) ∨ ∃ n : Name, r.defaultName = n.value ∧ n.value ∈ r.names

section Told

variable {history : List (Call α)} {r : Registry α} {names : List Name}

theorem Before.concat {c : Call α} {m n : Name} (h : Before history m n) (hm : c ≠ .remove m) (hn : c ≠ .remove n) :
    Before (history ++ [c]) m n := by
  obtain ⟨t, u, ht, hu, hlt⟩ := h
  exact ⟨t, u, ht.concat hm, hu.concat hn, hlt⟩

/-- No name is listed twice. -/
theorem Lists.nodup (h : Lists history names) : names.Nodup := by
  refine h.1.imp fun {m n} hbefore hmn => ?_
  obtain ⟨t, u, ht, hu, hlt⟩ := hbefore
  rw [hmn] at ht
  exact Nat.ne_of_lt hlt (ht.unique hu)

/-- A call that neither removes a name nor adds a new one lists the same names. -/
theorem Lists.same (h : Lists history names) {c : Call α} (hremove : ∀ n, c ≠ .remove n)
    (hadd : ∀ n x d, c = .add n x d → n ∈ names) : Lists (history ++ [c]) names := by
  refine ⟨h.1.imp fun hbefore => hbefore.concat (hremove _) (hremove _), fun n => (h.2 n).trans ⟨?_, ?_⟩⟩
  · rintro ⟨t, ht⟩
    exact ⟨t, ht.concat (hremove n)⟩
  · rintro ⟨t, ht⟩
    rcases ht.of_concat with ht | ⟨-, x, d, hc⟩
    · exact ⟨t, ht⟩
    · exact (h.2 n).1 (hadd n x d hc)

theorem Lists.new (h : Lists history names) {n : Name} (hn : n ∉ names) (x : α) (d : Bool) :
    Lists (history ++ [.add n x d]) (names ++ [n]) := by
  have hsince := since_add (fun t ht => hn ((h.2 n).2 ⟨t, ht⟩)) x d
  refine ⟨List.pairwise_append.2 ⟨?_, List.pairwise_singleton _ _, ?_⟩, fun m => ?_⟩
  · exact h.1.imp fun hbefore => hbefore.concat nofun nofun
  · intro m hm other hother
    rw [List.mem_singleton.1 hother]
    obtain ⟨t, ht⟩ := (h.2 m).1 hm
    exact ⟨t, history.length, ht.concat nofun, hsince, ht.lt⟩
  · rw [List.mem_append, List.mem_singleton, h.2 m]
    constructor
    · rintro (⟨t, ht⟩ | rfl)
      · exact ⟨t, ht.concat nofun⟩
      · exact ⟨_, hsince⟩
    · rintro ⟨t, ht⟩
      rcases ht.of_concat with ht | ⟨-, x, d, hc⟩
      · exact .inl ⟨t, ht⟩
      · cases hc
        exact .inr rfl

theorem Lists.remove (h : Lists history names) (n : Name) :
    Lists (history ++ [.remove n]) (names.filter fun m => m ≠ n) := by
  have hkeeps : ∀ {m : Name}, m ≠ n → (.remove n : Call α) ≠ .remove m := fun hm hc => hm (Call.remove.inj hc).symm
  refine ⟨?_, fun m => ?_⟩
  · refine (h.1.filter _).imp_of_mem fun hm hm' hbefore => ?_
    exact hbefore.concat (hkeeps (by simpa using (List.mem_filter.1 hm).2))
      (hkeeps (by simpa using (List.mem_filter.1 hm').2))
  · rw [List.mem_filter, h.2 m, decide_eq_true_iff]
    constructor
    · rintro ⟨⟨t, ht⟩, hm⟩
      exact ⟨t, ht.concat (hkeeps hm)⟩
    · rintro ⟨t, ht⟩
      refine ⟨?_, ?_⟩
      · rcases ht.of_concat with ht | ⟨-, x, d, hc⟩
        · exact ⟨t, ht⟩
        · cases hc
      · rintro rfl
        exact not_since_remove ht

theorem mem_map_value {n : Name} : n.value ∈ names.map Name.value ↔ n ∈ names :=
  List.mem_map_of_injective Name.value_injective

theorem filter_map_value (names : List Name) (n : Name) : ((names.map Name.value).filter fun v => !n.value.alike v) =
    (names.filter fun m => m ≠ n).map Name.value := by
  rw [List.filter_map]
  congr 1
  refine List.filter_congr fun m _ => ?_
  by_cases hm : m = n
  · simp [hm, n.isExact_value.alike_self]
  · simp [hm, n.isExact_value.alike_of_ne (mt Name.value_inj.1 hm)]

/-- One more addition. A registry without a default has no entries, so the name that comes in is its default. -/
theorem Told.add (h : Told history r) (n : Name) (x : α) (d : Bool) :
    Told (history ++ [.add n x d]) (r.after (.add n x d)) := by
  have hexact := n.isExact_value
  obtain ⟨names, hnames, hlists⟩ := h.listed
  rw [after_add]
  refine ⟨?_, fun m hm => ?_, .inr ?_⟩
  · by_cases hn : n ∈ names
    · have hmem : n.value ∈ r.names := hnames ▸ mem_map_value.2 hn
      refine ⟨names, (hexact.keys_insertEntry_of_mem x hmem).trans hnames, hlists.same (fun _ => nofun) ?_⟩
      intro m y e hc
      cases hc
      exact hn
    · have hmem : n.value ∉ r.names := fun hmem => hn (mem_map_value.1 (hnames ▸ hmem))
      refine ⟨names ++ [n], (hexact.keys_insertEntry_of_not_mem x hmem).trans ?_, hlists.new hn x d⟩
      rw [List.map_append, List.map_singleton, ← hnames]
      rfl
  · rw [lastAdded_concat]
    dsimp only
    by_cases hmn : n = m
    · rw [if_pos hmn, ← hmn, hexact.lookup?_insertEntry_self]
    · have hne : m.value ≠ n.value := fun hv => hmn (Name.value_inj.1 hv).symm
      have hlookup := hexact.lookup?_insertEntry_of_ne m.isExact_value hne x r.entries
      rw [if_neg hmn, hlookup]
      refine h.found m ((mem_names_iff r m).2 ?_)
      rw [← hlookup]
      exact (mem_names_iff _ m).1 hm
  · have hself : n.value ∈ (Value.insertEntry n.value x r.entries).map (·.1) := by
      by_contra hnone
      rw [← hexact.lookup?_eq_none_iff, hexact.lookup?_insertEntry_self] at hnone
      cases hnone
    rcases h.linked with ⟨hnull, -⟩ | ⟨m, hdefault, hm⟩
    · refine ⟨n, ?_, hself⟩
      rw [hnull]
      cases d <;> rfl
    · cases d with
      | true => exact ⟨n, rfl, hself⟩
      | false =>
          refine ⟨m, ?_, ?_⟩
          · rw [hdefault, m.isNull_value]
            rfl
          · change m.value ∈ (Value.insertEntry n.value x r.entries).map (·.1)
            by_cases hn : n.value ∈ r.names
            · rw [hexact.keys_insertEntry_of_mem x hn]
              exact hm
            · rw [hexact.keys_insertEntry_of_not_mem x hn]
              exact List.mem_append_left _ hm

theorem Told.setDefault (h : Told history r) (n : Name) :
    Told (history ++ [.setDefault n]) (r.after (.setDefault n)) := by
  obtain ⟨names, hnames, hlists⟩ := h.listed
  have hsame := hlists.same (c := .setDefault n) nofun nofun
  have hfound : ∀ m : Name, m.value ∈ r.names →
      Value.lookup? m.value r.entries = lastAdded (history ++ [.setDefault n]) m := by
    intro m hm
    rw [lastAdded_concat]
    exact h.found m hm
  by_cases hn : n.value ∈ r.names
  · rw [after_setDefault_of_mem hn]
    exact ⟨⟨names, hnames, hsame⟩, hfound, .inr ⟨n, rfl, hn⟩⟩
  · rw [after_setDefault_of_not_mem hn]
    exact ⟨⟨names, hnames, hsame⟩, hfound, h.linked⟩

theorem Told.defaultName_remove_other (h : Told history r) {n : Name} (hn : r.defaultName ≠ n.value) :
    (r.after (.remove n)).defaultName = r.defaultName := by
  rw [after_remove]
  dsimp only
  rcases h.linked with ⟨hnull, -⟩ | ⟨m, hdefault, -⟩
  · rw [hnull, n.null_same_value]
    rfl
  · have hmn : m ≠ n := fun hmn => hn (hdefault.trans (congrArg Name.value hmn))
    rw [hdefault, Name.same_value, if_neg (by simpa using hmn)]

/-- One removal. If it takes the default, the first of the other names takes its place. -/
theorem Told.remove (h : Told history r) (n : Name) : Told (history ++ [.remove n]) (r.after (.remove n)) := by
  have hexact := n.isExact_value
  obtain ⟨names, hnames, hlists⟩ := h.listed
  have hleft : (r.after (.remove n)).names = (names.filter fun m => m ≠ n).map Name.value := by
    rw [names_after_remove, hnames, filter_map_value]
  refine ⟨⟨_, hleft, hlists.remove n⟩, fun m hm => ?_, ?_⟩
  · have hm' := hm
    rw [hleft, mem_map_value, List.mem_filter, decide_eq_true_iff] at hm'
    rw [lastAdded_concat, after_remove]
    dsimp only
    rw [hexact.lookup?_removed_of_ne m.isExact_value (mt Name.value_inj.1 hm'.2)]
    exact h.found m (hnames ▸ mem_map_value.2 hm'.1)
  · rcases h.linked with ⟨hnull, hempty⟩ | ⟨m, hdefault, hm⟩
    · left
      rw [after_remove, hnull, n.null_same_value, hempty]
      exact ⟨rfl, rfl⟩
    · by_cases hmn : m = n
      · -- the default goes: what is first among the rest, if anything is
        rw [defaultName_remove_self (hdefault.trans (congrArg Name.value hmn)), hleft]
        cases hrest : names.filter fun m => m ≠ n with
        | nil =>
            rw [hrest] at hleft
            exact .inl ⟨rfl, List.map_eq_nil_iff.1 hleft⟩
        | cons first rest => exact .inr ⟨first, rfl, List.mem_cons_self⟩
      · right
        refine ⟨m, ?_, ?_⟩
        · rw [h.defaultName_remove_other fun hv => hmn (Name.value_inj.1 (hdefault.symm.trans hv)), hdefault]
        · have hmem : m ∈ names := mem_map_value.1 (hnames ▸ hm)
          rw [hleft, mem_map_value, List.mem_filter, decide_eq_true_iff]
          exact ⟨hmem, hmn⟩

theorem Told.after (h : Told history r) (c : Call α) : Told (history ++ [c]) (r.after c) := by
  cases c with
  | add n x d => exact h.add n x d
  | setDefault n => exact h.setDefault n
  | remove n => exact h.remove n

theorem told_run (history : List (Call α)) : Told history (run history) := by
  induction history using List.reverseRecOn with
  | nil =>
      refine ⟨⟨[], rfl, List.Pairwise.nil, fun n => ?_⟩, fun n hn => absurd hn List.not_mem_nil, .inl ⟨rfl, rfl⟩⟩
      refine iff_of_false List.not_mem_nil ?_
      rintro ⟨t, ht⟩
      exact Nat.not_lt_zero t ht.lt
  | append_singleton history c ih =>
      rw [run_concat]
      exact ih.after c

theorem Told.defaultName_eq_null_iff (h : Told history r) : r.defaultName = .null ↔ r.entries = [] := by
  rcases h.linked with ⟨hnull, hempty⟩ | ⟨n, hdefault, hn⟩
  · exact iff_of_true hnull hempty
  · refine iff_of_false (fun hnull => n.value_ne_null (hdefault.symm.trans hnull)) fun hempty => ?_
    unfold names at hn
    rw [hempty] at hn
    exact List.not_mem_nil hn

/-- What is found without a name is the connection that was added last under the name of the default. -/
theorem Told.get_default (h : Told history r) (hr : r.entries ≠ []) : ∃ n x, r.defaultName = Name.value n ∧
    n.value ∈ r.names ∧ lastAdded history n = some x ∧ r.get .null = .ok x := by
  rcases h.linked with ⟨-, hempty⟩ | ⟨n, hdefault, hn⟩
  · exact absurd hempty hr
  · obtain ⟨x, hx⟩ := (r.mem_names_iff n).1 hn
    refine ⟨n, x, hdefault, hn, (h.found n hn).symm.trans hx, ?_⟩
    have hname : (if Value.null.isNull = true then r.defaultName else Value.null) = n.value := hdefault
    unfold get
    dsimp only
    rw [hname, if_neg (ne_true_of_eq_false n.isNull_value), r.find?_value, hx]
    rfl

end Told

/-- After any history of calls, failing ones included:

- there is no default exactly if there are no connections; otherwise the default is one of the names, and what is found
  without a name is the connection that was added last under it;
- a choice of a default fails exactly for what is not one of the names, and then changes nothing;
- the names are those that have been added since they were last removed, in the order of the earliest such additions;
- a removal of the default makes the first of the other names the default, and any other removal leaves it. -/
theorem run_invariant (history : List (Call α)) :
    let r := run history
    (r.defaultName = .null ↔ r.entries = []) ∧
    (r.entries ≠ [] → ∃ n x, r.defaultName = Name.value n ∧ n.value ∈ r.names ∧ lastAdded history n = some x ∧
      r.get .null = .ok x) ∧
    (∀ n : Name, (n.value ∈ r.names → r.setDefault n.value = .ok { r with defaultName := n.value }) ∧
      (n.value ∉ r.names → r.setDefault n.value = .error (.sql (.unregistered n.shown)) ∧
        run (history ++ [.setDefault n]) = r)) ∧
    (∃ names, r.names = names.map Name.value ∧ Lists history names) ∧
    ∀ n : Name,
      (r.defaultName = n.value → (run (history ++ [.remove n])).defaultName =
        (run (history ++ [.remove n])).names.head?.getD .null) ∧
      (r.defaultName ≠ n.value → (run (history ++ [.remove n])).defaultName = r.defaultName) := by
  intro r
  have htold : Told history r := told_run history
  refine ⟨htold.defaultName_eq_null_iff, htold.get_default, fun n => ⟨setDefault_of_mem, fun hn => ?_⟩,
    htold.listed, fun n => ?_⟩
  · exact ⟨setDefault_of_not_mem hn, (run_concat _ _).trans (after_setDefault_of_not_mem hn)⟩
  · rw [run_concat]
    exact ⟨defaultName_remove_self, htold.defaultName_remove_other⟩

/-- The default is removed and added again, so it comes last and the name before it is the default. -/
example : (run [.add (.text "main") 0 false, .add (.text "log") 1 false, .setDefault (.text "ghost"),
    .remove (.text "main"), .add (.text "main") 2 false]).names = [.text "log", .text "main"] := by
  rfl

end Registry

end SqlBuilder
