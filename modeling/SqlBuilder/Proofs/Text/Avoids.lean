import SqlBuilder.Text.Case
import SqlBuilder.Text.Strip
import Mathlib.Data.List.Basic

/-!
Texts that hold none of some given characters. The characters that matter to a reader of SQL are the
placeholder mark and the marks around literals and identifiers. Stripping, joining and changing the case of a
text that holds none of them gives another such text, since the case tables map no character to a mark.
-/

namespace SqlBuilder.Text

/-- The placeholder mark, and the marks that open or close a quoted region in some dialect. -/
def marks : List Char := ['?', '\'', '"', '`', '[', ']']

/-- The mark of a place for a value is one of them. -/
theorem placeholder_subset_marks : ∀ c ∈ ['?'], c ∈ marks := List.forall_mem_singleton.mpr (by decide)

/-- The text holds none of the characters. -/
def Avoids (chars : List Char) (s : String) : Prop := ∀ c ∈ s.toList, c ∉ chars

instance (chars : List Char) (s : String) : Decidable (Avoids chars s) :=
  List.decidableBAll (fun c => c ∉ chars) s.toList

variable {chars : List Char} {s t : String}

theorem Avoids.mono {fewer : List Char} (h : Avoids chars s) (hsub : ∀ c ∈ fewer, c ∈ chars) :
    Avoids fewer s :=
  fun c hc hmem => h c hc (hsub c hmem)

theorem avoids_empty : Avoids chars "" := by
  intro c hc
  simp at hc

theorem Avoids.append (hs : Avoids chars s) (ht : Avoids chars t) : Avoids chars (s ++ t) := by
  intro c hc
  rw [String.toList_append, List.mem_append] at hc
  rcases hc with hc | hc
  · exact hs c hc
  · exact ht c hc

theorem Avoids.of_subset (h : Avoids chars s) {cs : List Char} (hsub : ∀ c ∈ cs, c ∈ s.toList) :
    Avoids chars (String.ofList cs) := by
  intro c hc
  rw [String.toList_ofList] at hc
  exact h c (hsub c hc)

theorem mem_of_mem_stripLeftChars {c : Char} {cs : List Char} (h : c ∈ stripLeftChars cs) : c ∈ cs :=
  (List.dropWhile_sublist _).subset h

theorem mem_of_mem_stripChars {c : Char} {cs : List Char} (h : c ∈ stripChars cs) : c ∈ cs := by
  unfold stripChars at h
  have h1 := mem_of_mem_stripLeftChars (List.mem_reverse.1 h)
  exact mem_of_mem_stripLeftChars (List.mem_reverse.1 h1)

theorem Avoids.strip (h : Avoids chars s) : Avoids chars (strip s) :=
  h.of_subset fun _ hc => mem_of_mem_stripChars hc

theorem mem_of_splitFirstChars (mark : Char) (cs : List Char) :
    (∀ c ∈ (splitFirstChars mark cs).1, c ∈ cs) ∧ ∀ rest ∈ (splitFirstChars mark cs).2, ∀ c ∈ rest, c ∈ cs := by
  induction cs with
  | nil => exact ⟨fun c hc => hc, fun rest hrest => absurd hrest (Option.not_mem_none rest)⟩
  | cons d cs ih =>
      rw [splitFirstChars]
      split
      · refine ⟨fun c hc => absurd hc List.not_mem_nil, fun rest hrest c hc => ?_⟩
        rw [Option.mem_some_iff.1 hrest]
        exact List.mem_cons_of_mem d hc
      · refine ⟨fun c hc => ?_, fun rest hrest c hc => List.mem_cons_of_mem d (ih.2 rest hrest c hc)⟩
        rcases List.mem_cons.1 hc with rfl | hc
        · exact List.mem_cons_self
        · exact List.mem_cons_of_mem d (ih.1 c hc)

/-! ### Case -/

/-- No run of the table has a mark among its images. -/
def CaseRun.missesMarks (run : CaseRun) : Bool :=
  marks.all fun m => decide ((m.toNat : Int) < run.first + run.shift) ||
    decide ((run.last : Int) + run.shift < m.toNat)

theorem upperRuns_missMarks : upperRuns.all CaseRun.missesMarks = true := by decide +kernel

theorem lowerRuns_missMarks : lowerRuns.all CaseRun.missesMarks = true := by decide +kernel

theorem CaseRun.not_mem_marks_of_image {run : CaseRun} (hrun : run.missesMarks = true) {code image : Nat}
    (h : run.image? code = some image) : Char.ofNat image ∉ marks := by
  intro hmem
  obtain ⟨⟨hfirst, hlast⟩, himage⟩ :
      (run.first ≤ code ∧ code ≤ run.last) ∧ (code + run.shift).toNat = image := by
    simp only [CaseRun.image?, Option.ite_none_right_eq_some, Bool.and_eq_true, decide_eq_true_eq,
      Option.some.injEq] at h
    exact ⟨h.1.1, h.2⟩
  have hmiss := List.all_eq_true.1 hrun _ hmem
  have hvalid : (Char.ofNat image).toNat = image := by
    by_cases hv : image.isValidChar
    · have hchar : Char.ofNat image = Char.ofNatAux image hv := dif_pos hv
      rw [hchar]
      rfl
    · have hzero : Char.ofNat image = Char.ofNat 0 := dif_neg hv
      rw [hzero] at hmem
      exact absurd hmem (by decide)
  rw [hvalid] at hmiss
  simp only [Bool.or_eq_true, decide_eq_true_eq] at hmiss
  have hpos : (0 : Int) < image := by
    rcases Nat.eq_zero_or_pos image with rfl | hp
    · exact absurd hmem (by decide)
    · exact_mod_cast hp
  omega

/-- A mark in the image of a character is the character itself. -/
theorem shiftCase_eq_of_mem_marks {runs : List CaseRun} (hruns : runs.all CaseRun.missesMarks = true)
    {c : Char} (h : shiftCase runs c ∈ marks) : shiftCase runs c = c := by
  unfold shiftCase at h ⊢
  split
  · rename_i code hcode
    obtain ⟨run, hrun, himage⟩ := List.exists_of_findSome?_eq_some hcode
    rw [hcode] at h
    exact absurd h (run.not_mem_marks_of_image (List.all_eq_true.1 hruns run hrun) himage)
  · rfl

theorem upperSequences_missMarks :
    upperSequences.all (fun entry => entry.2.all fun code => decide (Char.ofNat code ∉ marks)) = true := by
  decide +kernel

theorem toUpper_ascii_eq_of_mem_marks :
    ∀ code < 0x80, (Char.ofNat code).toUpper ∈ marks → (Char.ofNat code).toUpper = Char.ofNat code := by
  decide +kernel

theorem toLower_ascii_eq_of_mem_marks :
    ∀ code < 0x80, (Char.ofNat code).toLower ∈ marks → (Char.ofNat code).toLower = Char.ofNat code := by
  decide +kernel

theorem eq_of_mem_upperChar {x c : Char} (hx : x ∈ upperChar c) (hmark : x ∈ marks) : x = c := by
  unfold upperChar at hx
  split at hx
  · rename_i hascii
    rw [List.mem_singleton] at hx
    have h := toUpper_ascii_eq_of_mem_marks c.toNat hascii
    rw [Char.ofNat_toNat] at h
    rw [hx] at hmark ⊢
    exact h hmark
  · split at hx
    · rename_i entry hentry
      obtain ⟨code, hcode, rfl⟩ := List.mem_map.1 hx
      have hmiss := List.all_eq_true.1 upperSequences_missMarks entry (List.mem_of_find?_eq_some hentry)
      exact absurd hmark (of_decide_eq_true (List.all_eq_true.1 hmiss code hcode))
    · rw [List.mem_singleton] at hx
      rw [hx] at hmark ⊢
      exact shiftCase_eq_of_mem_marks upperRuns_missMarks hmark

theorem eq_of_mem_lowerChar {x c : Char} {before after : List Char} (hx : x ∈ lowerChar before c after)
    (hmark : x ∈ marks) : x = c := by
  unfold lowerChar at hx
  split at hx
  · rename_i hascii
    rw [List.mem_singleton] at hx
    have h := toLower_ascii_eq_of_mem_marks c.toNat hascii
    rw [Char.ofNat_toNat] at h
    rw [hx] at hmark ⊢
    exact h hmark
  · split at hx
    · rw [List.mem_singleton] at hx
      rw [hx] at hmark
      split at hmark <;> exact absurd hmark (by decide)
    · split at hx
      · rcases List.mem_cons.1 hx with rfl | hx
        · exact absurd hmark (by decide)
        · rw [List.mem_singleton] at hx
          exact absurd (hx ▸ hmark) (by decide)
      · rw [List.mem_singleton] at hx
        rw [hx] at hmark ⊢
        exact shiftCase_eq_of_mem_marks lowerRuns_missMarks hmark

theorem mem_of_mem_lowerChars {x : Char} {before cs : List Char} (hx : x ∈ lowerChars before cs)
    (hmark : x ∈ marks) : x ∈ cs := by
  induction cs generalizing before with
  | nil => exact absurd hx List.not_mem_nil
  | cons c after ih =>
      rw [lowerChars, List.mem_append] at hx
      rcases hx with hx | hx
      · rw [eq_of_mem_lowerChar hx hmark]
        exact List.mem_cons_self
      · exact List.mem_cons_of_mem c (ih hx)

/-- Upper case brings in no mark. -/
theorem Avoids.upper (h : Avoids chars s) (hmarks : ∀ c ∈ chars, c ∈ marks) : Avoids chars (upper s) := by
  intro x hx hmem
  rw [Text.upper, String.toList_ofList] at hx
  obtain ⟨c, hc, hxc⟩ := List.mem_flatMap.1 hx
  rw [eq_of_mem_upperChar hxc (hmarks x hmem)] at hmem
  exact h c hc hmem

/-- Lower case brings in no mark. -/
theorem Avoids.lower (h : Avoids chars s) (hmarks : ∀ c ∈ chars, c ∈ marks) : Avoids chars (lower s) := by
  intro x hx hmem
  rw [Text.lower, String.toList_ofList] at hx
  exact h x (mem_of_mem_lowerChars hx (hmarks x hmem)) hmem

end SqlBuilder.Text
