import SqlBuilder.Dialect
import SqlBuilder.Proofs.Outline
import SqlBuilder.Proofs.Text.Avoids

/-!
Readers of SQL, who tell placeholders from other question marks. A reader goes through a text character by
character and keeps in mind which quoted region is open. A plain reader knows no regions, so every question mark
is a placeholder; a quoting reader passes over those inside literals and quoted identifiers. An outline suits a
reader if the places of its values are those of the placeholders and no region is left open.
-/

namespace SqlBuilder

/-- The regions that a mark may open. -/
inductive Region where
  | literal
  | name
  | backtick
  | bracket
  deriving DecidableEq

namespace Region

def closing : Region → Char
  | literal => '\''
  | name => '"'
  | backtick => '`'
  | bracket => ']'

def openedBy? (c : Char) : Option Region :=
  if c = '\'' then some literal
  else if c = '"' then some name
  else if c = '`' then some backtick
  else if c = '[' then some bracket
  else none

end Region

/-- How the region that is open changes with each character. -/
structure Reading where
  /-- The region that is open behind a character. -/
  next : Option Region → Char → Option Region
  /-- The characters that may matter. -/
  special : List Char
  special_subset : ∀ c ∈ special, c ∈ Text.marks
  mark_mem : '?' ∈ special
  next_of_not_mem : ∀ {c}, c ∉ special → ∀ region, next region c = region
  next_mark : next none '?' = none
  /-- The marks around an identifier leave nothing open. -/
  next_name : ∀ e, next (next none (Dialect.ofEngine e).openMark) (Dialect.ofEngine e).closeMark = none

namespace Reading

def plain : Reading where
  next region _ := region
  special := ['?']
  special_subset := Text.placeholder_subset_marks
  mark_mem := by decide
  next_of_not_mem _ _ := rfl
  next_mark := rfl
  next_name _ := rfl

/-- Quotes, backticks and brackets open regions, which the next mark of their kind closes. A doubled mark closes a
region and opens another one at once. -/
def quoting : Reading where
  next
    | none, c => Region.openedBy? c
    | some region, c => if c = region.closing then none else some region
  special := Text.marks
  special_subset _ h := h
  mark_mem := by decide
  next_of_not_mem := by
    intro c hc region
    simp only [Text.marks, List.mem_cons, List.not_mem_nil, or_false, not_or] at hc
    cases region with
    | none => simp [Region.openedBy?, hc]
    | some region => cases region <;> simp [Region.closing, hc]
  next_mark := by decide
  next_name e := by cases e <;> decide

variable (r : Reading)

/-- The region that is open behind a text. -/
def final (region : Option Region) (cs : List Char) : Option Region := cs.foldl r.next region

def openMarks : Option Region → List Char → Nat
  | _, [] => 0
  | region, c :: cs => (if region = none ∧ c = '?' then 1 else 0) + openMarks (r.next region c) cs

/-- The values stand outside of regions, and nothing else is a placeholder there. -/
def Reads : Option Region → Outline → Prop
  | region, [] => region = none
  | region, .inl c :: o => ¬(region = none ∧ c = '?') ∧ Reads (r.next region c) o
  | region, .inr _ :: o => region = none ∧ Reads none o

/-- The text with values in the places of its placeholders. -/
def outline : Option Region → List Char → List Value → Outline
  | _, [], _ => []
  | region, c :: cs, [] => .inl c :: outline (r.next region c) cs []
  | region, c :: cs, v :: vs =>
    if region = none ∧ c = '?' then .inr v :: outline none cs vs
    else .inl c :: outline (r.next region c) cs (v :: vs)

variable {r} {region : Option Region} {o p : Outline}

theorem Reads.append (ho : r.Reads region o) (hp : r.Reads none p) : r.Reads region (o ++ p) := by
  induction o generalizing region with
  | nil =>
      rw [show region = none from ho]
      exact hp
  | cons place o ih =>
      cases place with
      | inl c => exact ⟨ho.1, ih ho.2⟩
      | inr v => exact ⟨ho.1, ih ho.2⟩

/-- Text without special characters. -/
theorem reads_ofChars {cs : List Char} (h : ∀ c ∈ cs, c ∉ r.special) : r.Reads none (.ofChars cs) := by
  induction cs with
  | nil => exact rfl
  | cons c cs ih =>
      have hc := h c List.mem_cons_self
      refine ⟨?_, ?_⟩
      · rintro ⟨-, rfl⟩
        exact hc r.mark_mem
      · rw [r.next_of_not_mem hc]
        exact ih fun d hd => h d (List.mem_cons_of_mem c hd)

/-- A part of an identifier between its marks. -/
theorem reads_name (e : Engine) {part : List Char} (h : ∀ c ∈ part, c ∉ r.special) :
    r.Reads none (.ofChars ((Dialect.ofEngine e).openMark :: part ++ [(Dialect.ofEngine e).closeMark])) := by
  have hclose : ∀ region, r.next region (Dialect.ofEngine e).closeMark = none →
      r.Reads region (.ofChars (part ++ [(Dialect.ofEngine e).closeMark])) := by
    intro region hnext
    induction part with
    | nil =>
        refine ⟨?_, hnext⟩
        rintro ⟨-, hmark⟩
        revert hmark
        cases e <;> decide
    | cons c part ih =>
        have hc := h c List.mem_cons_self
        refine ⟨?_, ?_⟩
        · rintro ⟨-, rfl⟩
          exact hc r.mark_mem
        · rw [r.next_of_not_mem hc]
          exact ih fun d hd => h d (List.mem_cons_of_mem c hd)
  refine ⟨?_, hclose _ (r.next_name e)⟩
  rintro ⟨-, hmark⟩
  revert hmark
  cases e <;> decide

/-! ### Blanks -/

theorem next_of_isBlank {c : Char} (h : Text.isBlank c = true) (region : Option Region) :
    r.next region c = region := by
  refine r.next_of_not_mem (fun hmem => ?_) region
  have hmarks : (Text.marks.all fun m => !Text.isBlank m) = true := by decide
  have hc := List.all_eq_true.mp hmarks c (r.special_subset c hmem)
  rw [h] at hc
  exact absurd hc Bool.false_ne_true

theorem Reads.stripLeft (h : r.Reads none o) : r.Reads none o.stripLeft := by
  induction o with
  | nil => exact h
  | cons place o ih =>
      unfold Outline.stripLeft
      rw [List.dropWhile_cons]
      split
      · rename_i hblank
        cases place with
        | inl c =>
            refine ih ?_
            have hnext := h.2
            rwa [next_of_isBlank hblank] at hnext
        | inr v => exact absurd hblank Bool.false_ne_true
      · exact h

/-- Blanks at the end stand outside of regions. -/
theorem Reads.dropLast {place : Char ⊕ Value} (hblank : Outline.isBlankPlace place = true)
    (h : r.Reads region (o ++ [place])) : r.Reads region o := by
  induction o generalizing region with
  | nil =>
      cases place with
      | inl c =>
          have hnext : r.next region c = none := h.2
          rwa [next_of_isBlank hblank] at hnext
      | inr v => exact absurd hblank Bool.false_ne_true
  | cons first o ih =>
      cases first with
      | inl c => exact ⟨h.1, ih h.2⟩
      | inr v => exact ⟨h.1, ih h.2⟩

theorem Reads.stripRight (h : r.Reads region o) : r.Reads region (Outline.stripLeft o.reverse).reverse := by
  have hreverse : ∀ p : Outline, r.Reads region p.reverse → r.Reads region (Outline.stripLeft p).reverse := by
    intro p hp
    induction p with
    | nil => exact hp
    | cons place p ih =>
        unfold Outline.stripLeft
        rw [List.dropWhile_cons]
        split
        · rename_i hblank
          refine ih ?_
          rw [List.reverse_cons] at hp
          exact hp.dropLast hblank
        · exact hp
  refine hreverse o.reverse ?_
  rwa [List.reverse_reverse]

theorem Reads.strip (h : r.Reads none o) : r.Reads none o.strip := h.stripLeft.stripRight

/-! ### The outline of a text -/

/-- A text that leaves no region open and has a placeholder for every value. -/
theorem outline_spec {cs : List Char} {vs : List Value} (hfinal : r.final region cs = none)
    (hmarks : r.openMarks region cs = vs.length) :
    r.Reads region (r.outline region cs vs) ∧ (r.outline region cs vs).marked = cs ∧
      (r.outline region cs vs).values = vs := by
  induction cs generalizing region vs with
  | nil =>
      have hvs : vs = [] := List.length_eq_zero_iff.1 hmarks.symm
      rw [hvs]
      exact ⟨hfinal, rfl, rfl⟩
  | cons c cs ih =>
      by_cases hopen : region = none ∧ c = '?'
      · obtain ⟨rfl, rfl⟩ := hopen
        have hnext : r.next none '?' = none := r.next_mark
        rw [openMarks, if_pos ⟨rfl, rfl⟩, hnext] at hmarks
        rw [final, List.foldl_cons, hnext] at hfinal
        cases vs with
        | nil => exact absurd hmarks (by simp)
        | cons v vs =>
            have hlength : r.openMarks none cs = vs.length := by
              rw [List.length_cons] at hmarks
              omega
            obtain ⟨hreads, hmarked, hvalues⟩ := ih hfinal hlength
            rw [outline, if_pos ⟨rfl, rfl⟩]
            refine ⟨⟨rfl, hreads⟩, ?_, ?_⟩
            · exact congrArg ('?' :: ·) hmarked
            · exact congrArg (v :: ·) hvalues
      · rw [openMarks, if_neg hopen, Nat.zero_add] at hmarks
        obtain ⟨hreads, hmarked, hvalues⟩ := ih hfinal hmarks
        have houtline : r.outline region (c :: cs) vs = .inl c :: r.outline (r.next region c) cs vs := by
          cases vs with
          | nil => rfl
          | cons v vs => rw [outline, if_neg hopen]
        rw [houtline]
        exact ⟨⟨hopen, hreads⟩, congrArg (c :: ·) hmarked, hvalues⟩

/-- An outline is that of its text. -/
theorem Reads.outline_marked (h : r.Reads region o) : r.outline region o.marked o.values = o := by
  induction o generalizing region with
  | nil => rfl
  | cons place o ih =>
      cases place with
      | inl c =>
          have htail := ih h.2
          change r.outline region (c :: Outline.marked o) (Outline.values o) = _
          cases hvalues : Outline.values o with
          | nil =>
              rw [hvalues] at htail
              rw [outline, htail]
          | cons v vs =>
              rw [hvalues] at htail
              rw [outline, if_neg h.1, htail]
      | inr v =>
          obtain ⟨rfl, ho⟩ := h
          change r.outline none ('?' :: Outline.marked o) (v :: Outline.values o) = _
          rw [outline, if_pos ⟨rfl, rfl⟩, ih ho]

end Reading

end SqlBuilder
