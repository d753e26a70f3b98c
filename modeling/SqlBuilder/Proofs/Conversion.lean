import SqlBuilder.Placeholder
import SqlBuilder.Proofs.Reading

/-!
The conversion of placeholders, for a text whose outline is known. Where no region is left open the cutting into
tokens agrees with a reading character by character: a quoted token ends where the region does, and every value has
a placeholder token of its own, with the number that its place has among the values.
-/

namespace SqlBuilder

/-- The text of an outline with numbered placeholders, where the rest of the text is kept. -/
def Outline.styled (style : PlaceholderStyle) : Nat → Outline → List Char
  | _, [] => []
  | number, .inl c :: o => style.keep [c] ++ Outline.styled style number o
  | number, .inr _ :: o => (style.placeholder (number + 1)).toList ++ Outline.styled style (number + 1) o

theorem PlaceholderStyle.keep_cons (style : PlaceholderStyle) (c : Char) (cs : List Char) :
    style.keep (c :: cs) = style.keep [c] ++ style.keep cs := by
  unfold keep
  split
  · simp
  · rfl

theorem Outline.styled_ofChars_append (style : PlaceholderStyle) (number : Nat) (cs : List Char) (o : Outline) :
    Outline.styled style number (Outline.ofChars cs ++ o) = style.keep cs ++ Outline.styled style number o := by
  induction cs with
  | nil =>
      have hnil : style.keep [] = [] := by
        unfold PlaceholderStyle.keep
        split <;> rfl
      rw [hnil]
      rfl
  | cons c cs ih =>
      rw [style.keep_cons, List.append_assoc, ← ih]
      rfl

namespace SqlToken

/-- A character that is no mark belongs to the token. -/
theorem closeDoubled?_of_ne {mark c : Char} (hc : c ≠ mark) (cs : List Char) :
    closeDoubled? mark (c :: cs) = (closeDoubled? mark cs).map fun (body, behind) => (c :: body, behind) := by
  rw [closeDoubled?.eq_def]
  exact if_pos hc

/-- A mark closes the token, unless it is doubled and another one follows that closes it. -/
theorem closeDoubled?_mark (mark : Char) (cs : List Char) :
    closeDoubled? mark (mark :: cs) = match cs with
      | [] => some ([mark], [])
      | d :: later =>
        if d ≠ mark then some ([mark], d :: later)
        else match closeDoubled? mark later with
          | some (body, behind) => some (mark :: d :: body, behind)
          | none => some ([mark], d :: later) := by
  rw [closeDoubled?.eq_def]
  exact if_neg (not_not_intro rfl)

end SqlToken

namespace Reading

/-- The token ends within the outline, and nothing is open behind it. -/
def ClosesIn (close : List Char → Option (List Char × List Char)) (o : Outline) : Prop :=
  ∃ (cs : List Char) (p : Outline), o = Outline.ofChars cs ++ p ∧ quoting.Reads none p ∧
    close o.marked = some (cs, p.marked)

/-- Inside of a region without an escape the first closing mark ends the token. -/
theorem closesIn_closeFirst? {region : Region} {o : Outline} (h : quoting.Reads (some region) o) :
    ClosesIn (SqlToken.closeFirst? region.closing) o := by
  induction o with
  | nil => exact absurd h (by simp [Reads])
  | cons place o ih =>
      cases place with
      | inr v => exact absurd h.1 (by simp)
      | inl c =>
          have hnext : quoting.next (some region) c = if c = region.closing then none else some region := rfl
          have htail := h.2
          rw [hnext] at htail
          by_cases hc : c = region.closing
          · rw [if_pos hc] at htail
            refine ⟨[c], o, rfl, htail, ?_⟩
            change SqlToken.closeFirst? region.closing (c :: Outline.marked o) = _
            rw [SqlToken.closeFirst?, if_pos hc]
          · rw [if_neg hc] at htail
            obtain ⟨cs, p, ho, hp, hclose⟩ := ih htail
            refine ⟨c :: cs, p, congrArg (Sum.inl c :: ·) ho, hp, ?_⟩
            change SqlToken.closeFirst? region.closing (c :: Outline.marked o) = _
            rw [SqlToken.closeFirst?, if_neg hc, hclose]
            rfl

/-- A character in front that is not the mark belongs to the token. -/
theorem ClosesIn.cons {mark c : Char} {o : Outline} (hc : c ≠ mark)
    (h : ClosesIn (SqlToken.closeDoubled? mark) o) : ClosesIn (SqlToken.closeDoubled? mark) (.inl c :: o) := by
  obtain ⟨cs, p, ho, hp, hclose⟩ := h
  refine ⟨c :: cs, p, congrArg (Sum.inl c :: ·) ho, hp, ?_⟩
  change SqlToken.closeDoubled? mark (c :: Outline.marked o) = _
  rw [SqlToken.closeDoubled?_of_ne hc, hclose]
  rfl

/-- A doubled mark in front belongs to the token. -/
theorem ClosesIn.cons_doubled {mark : Char} {o : Outline} (h : ClosesIn (SqlToken.closeDoubled? mark) o) :
    ClosesIn (SqlToken.closeDoubled? mark) (.inl mark :: .inl mark :: o) := by
  obtain ⟨cs, p, ho, hp, hclose⟩ := h
  have hlast := SqlToken.closeDoubled?_mark mark (mark :: Outline.marked o)
  refine ⟨mark :: mark :: cs, p, congrArg (Sum.inl mark :: Sum.inl mark :: ·) ho, hp, hlast.trans ?_⟩
  simp only [ne_eq, not_true_eq_false, if_false, hclose]

/-- A mark that is not doubled is the end of the token. -/
theorem closesIn_mark {mark : Char} (hmark : mark ≠ '?') {o : Outline} (h : quoting.Reads none o)
    (hsingle : o.head? ≠ some (.inl mark)) : ClosesIn (SqlToken.closeDoubled? mark) (.inl mark :: o) := by
  refine ⟨[mark], o, rfl, h, (SqlToken.closeDoubled?_mark mark o.marked).trans ?_⟩
  cases o with
  | nil => rfl
  | cons place later =>
      cases place with
      | inr v => exact if_pos hmark.symm
      | inl d =>
          have hd : d ≠ mark := by
            rintro rfl
            exact hsingle rfl
          exact if_pos hd

/-- Inside of a region with doubled marks the token goes on behind a doubled mark, and ends where the region does. -/
theorem closesIn_closeDoubled? {region : Region} (hopens : Region.openedBy? region.closing = some region)
    {o : Outline} (h : quoting.Reads (some region) o) :
    ClosesIn (SqlToken.closeDoubled? region.closing) o := by
  have hmark : region.closing ≠ '?' := by cases region <;> decide
  have hnext : ∀ c, quoting.next (some region) c = if c = region.closing then none else some region := fun _ => rfl
  -- Two marks are passed over at once, so the induction is on the length.
  induction hlength : o.length using Nat.strongRecOn generalizing o with
  | _ n ih =>
      cases o with
      | nil => exact absurd h (by simp [Reads])
      | cons place o =>
          cases place with
          | inr v => exact absurd h.1 (by simp)
          | inl c =>
              have htail := h.2
              rw [hnext] at htail
              have hshorter : o.length < n := by
                rw [← hlength]
                simp
              by_cases hc : c = region.closing
              · rw [if_pos hc] at htail
                subst hc
                by_cases hsingle : o.head? = some (.inl region.closing)
                · obtain ⟨later, rfl⟩ := List.head?_eq_some_iff.1 hsingle
                  have hreopened : quoting.Reads (some region) later := by
                    have hlater := htail.2
                    rwa [show quoting.next none region.closing = Region.openedBy? region.closing from rfl,
                      hopens] at hlater
                  have hlast : later.length < n := Nat.lt_trans (Nat.lt_succ_self _) hshorter
                  exact (ih later.length hlast hreopened rfl).cons_doubled
                · exact closesIn_mark hmark htail hsingle
              · rw [if_neg hc] at htail
                exact (ih o.length hshorter htail rfl).cons hc

/-- The token that a character opens ends where its region does. -/
theorem closesIn_close? {c : Char} {region : Region} {o : Outline} (hc : Region.openedBy? c = some region)
    (h : quoting.Reads (some region) o) : ClosesIn (SqlToken.close? c) o := by
  unfold Region.openedBy? at hc
  split_ifs at hc with h1 h2 h3 h4
  · cases hc
    subst h1
    exact closesIn_closeDoubled? (show Region.openedBy? Region.literal.closing = some .literal from rfl) h
  · cases hc
    subst h2
    exact closesIn_closeDoubled? (show Region.openedBy? Region.name.closing = some .name from rfl) h
  · cases hc
    subst h3
    exact closesIn_closeFirst? h
  · cases hc
    subst h4
    exact closesIn_closeFirst? h

/-- A character that opens no region begins no quoted token. -/
theorem close?_eq_none {c : Char} (hc : Region.openedBy? c = none) (cs : List Char) : SqlToken.close? c cs = none := by
  unfold Region.openedBy? at hc
  split_ifs at hc with h1 h2 h3 h4
  simp [SqlToken.close?, h1, h2, h3, h4]

/-- The tokens of a text whose first character opens no region. -/
theorem ofChars_cons {c : Char} (hc : Region.openedBy? c = none) (cs : List Char) :
    SqlToken.ofChars (c :: cs) = (if c = '?' then .placeholder else .plain c) :: SqlToken.ofChars cs := by
  have hclose := close?_eq_none hc cs
  rw [SqlToken.ofChars]
  split
  · rename_i body behind h
    rw [h] at hclose
    exact absurd hclose (by simp)
  · rfl

/-- The tokens of a text whose first character opens a region. -/
theorem ofChars_quoted {c : Char} {cs body behind : List Char} (h : SqlToken.close? c cs = some (body, behind)) :
    SqlToken.ofChars (c :: cs) = .quoted (c :: body) :: SqlToken.ofChars behind := by
  rw [SqlToken.ofChars]
  split
  · rename_i body' behind' h'
    rw [h] at h'
    cases h'
    rfl
  · rename_i h'
    rw [h] at h'
    exact absurd h' (by simp)

/-- Cut into tokens, the text has a placeholder for every value of its outline, and the rest of it is kept. -/
def Converts (style : PlaceholderStyle) (o : Outline) : Prop :=
  (SqlToken.ofChars o.marked).count .placeholder = o.values.length ∧
    ∀ number, style.write number (SqlToken.ofChars o.marked) = o.styled style number

theorem converts_nil (style : PlaceholderStyle) : Converts style [] := by
  have htokens : SqlToken.ofChars (Outline.marked []) = [] := by
    rw [Outline.marked, Outline.filled_nil, SqlToken.ofChars]
  rw [Converts, htokens]
  exact ⟨rfl, fun _ => rfl⟩

variable {style : PlaceholderStyle}

theorem Converts.value {o : Outline} (h : Converts style o) (v : Value) : Converts style (.inr v :: o) := by
  have htokens : SqlToken.ofChars (Outline.marked (.inr v :: o)) =
      .placeholder :: SqlToken.ofChars (Outline.marked o) :=
    ofChars_cons (by decide) (Outline.marked o)
  rw [Converts, htokens]
  refine ⟨?_, fun number => ?_⟩
  · rw [List.count_cons_self, h.1]
    rfl
  · rw [PlaceholderStyle.write, h.2]
    rfl

theorem Converts.plain {o : Outline} (h : Converts style o) {c : Char} (hc : Region.openedBy? c = none)
    (hmark : c ≠ '?') : Converts style (.inl c :: o) := by
  have htokens : SqlToken.ofChars (Outline.marked (.inl c :: o)) =
      .plain c :: SqlToken.ofChars (Outline.marked o) := by
    refine (ofChars_cons hc (Outline.marked o)).trans ?_
    rw [if_neg hmark]
  rw [Converts, htokens]
  refine ⟨?_, fun number => ?_⟩
  · rw [List.count_cons_of_ne (by simp), h.1]
    rfl
  · rw [PlaceholderStyle.write, h.2]
    rfl

/-- A quoted token is kept as a whole. -/
theorem Converts.quoted {p : Outline} (h : Converts style p) {c : Char} {cs : List Char}
    (hclose : SqlToken.close? c (Outline.marked (Outline.ofChars cs ++ p)) = some (cs, p.marked)) :
    Converts style (.inl c :: (Outline.ofChars cs ++ p)) := by
  have htokens : SqlToken.ofChars (Outline.marked (.inl c :: (Outline.ofChars cs ++ p))) =
      .quoted (c :: cs) :: SqlToken.ofChars (Outline.marked p) :=
    ofChars_quoted hclose
  rw [Converts, htokens]
  refine ⟨?_, fun number => ?_⟩
  · rw [List.count_cons_of_ne (by simp), h.1, Outline.values_inl, Outline.values_append, Outline.values_ofChars]
    rfl
  · rw [PlaceholderStyle.write, h.2]
    exact (Outline.styled_ofChars_append style number (c :: cs) p).symm

/-- A text converts if its outline suits the reader who knows the quoted regions. -/
theorem Reads.converts (style : PlaceholderStyle) {o : Outline} (h : quoting.Reads none o) : Converts style o := by
  -- A quoted token takes up many places at once, so the induction is on the length.
  induction hlength : o.length using Nat.strongRecOn generalizing o with
  | _ n ih =>
      cases o with
      | nil => exact converts_nil style
      | cons place o =>
          have hshorter : o.length < n := by
            rw [← hlength]
            simp
          cases place with
          | inr v => exact (ih o.length hshorter h.2 rfl).value v
          | inl c =>
              have htail := h.2
              rw [show quoting.next none c = Region.openedBy? c from rfl] at htail
              cases hc : Region.openedBy? c with
              | none =>
                  rw [hc] at htail
                  exact (ih o.length hshorter htail rfl).plain hc fun hmark => h.1 ⟨rfl, hmark⟩
              | some region =>
                  rw [hc] at htail
                  obtain ⟨cs, p, rfl, hp, hclose⟩ := closesIn_close? hc htail
                  have hlast : p.length < n := by
                    rw [List.length_append] at hshorter
                    omega
                  exact (ih p.length hlast hp rfl).quoted hclose

end Reading

/-- The conversion keeps the text of an outline and numbers its values. -/
theorem PlaceholderStyle.convert_eq {style : PlaceholderStyle} (hstyle : style ≠ .qmark) {sql : String} {o : Outline}
    (h : Reading.quoting.Reads none o) (hsql : o.marked = sql.toList) :
    style.convert sql = String.ofList (o.styled style 0) := by
  rw [convert, if_neg hstyle, ← hsql, (h.converts style).2]

end SqlBuilder
