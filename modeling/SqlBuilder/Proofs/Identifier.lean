import SqlBuilder.Dialect
import SqlBuilder.Proofs.Text.Avoids
import Mathlib.Data.List.TakeWhile

/-!
Identifiers as a database reads them. A quoted identifier ends at its closing mark, unless that mark is doubled, in
which case it stands for one mark in the name. The dialects put a part of a name between the marks as it is, so what
is read is the name that was meant exactly if no part of it holds the closing mark; behind such a mark, the rest of
the part is no longer within the quotes.
-/

namespace SqlBuilder

namespace Text

theorem isBlank_or_mem_of_mem_stripLeftChars {c : Char} {cs : List Char} (h : c ∈ cs) :
    isBlank c = true ∨ c ∈ stripLeftChars cs := by
  rw [← List.takeWhile_append_dropWhile (p := isBlank) (l := cs), List.mem_append] at h
  exact h.imp_left fun hc => List.mem_takeWhile_imp hc

theorem isBlank_or_mem_stripChars {c : Char} {cs : List Char} (h : c ∈ cs) :
    isBlank c = true ∨ c ∈ stripChars cs := by
  rcases isBlank_or_mem_of_mem_stripLeftChars h with hblank | hleft
  · exact .inl hblank
  rcases isBlank_or_mem_of_mem_stripLeftChars (List.mem_reverse.2 hleft) with hblank | hright
  · exact .inl hblank
  · exact .inr (List.mem_reverse.2 hright)

/-- The text with every occurrence of the mark doubled. -/
def doubled (mark : Char) (cs : List Char) : List Char :=
  cs.flatMap fun c => if c = mark then [mark, mark] else [c]

variable {mark : Char}

theorem length_doubled (mark : Char) (cs : List Char) :
    (doubled mark cs).length = cs.length + cs.count mark := by
  induction cs with
  | nil => rfl
  | cons c cs ih =>
      have htail : doubled mark (c :: cs) = (if c = mark then [mark, mark] else [c]) ++ doubled mark cs := rfl
      rw [htail, List.length_append, ih]
      by_cases hc : c = mark
      · subst hc
        simp
        omega
      · simp [hc]
        omega

theorem doubled_eq_self_iff {cs : List Char} : doubled mark cs = cs ↔ mark ∉ cs := by
  constructor
  · intro h
    have hlength := length_doubled mark cs
    rw [h] at hlength
    exact List.count_eq_zero.1 (by omega)
  · intro h
    induction cs with
    | nil => rfl
    | cons c cs ih =>
        obtain ⟨hc, hcs⟩ := List.ne_and_not_mem_of_not_mem_cons h
        have htail : doubled mark (c :: cs) = (if c = mark then [mark, mark] else [c]) ++ doubled mark cs := rfl
        rw [htail, if_neg (Ne.symm hc), ih hcs]
        rfl

/-- The name in front of the closing mark and the text behind it; a doubled mark stands for one in the name. -/
def readQuoted (mark : Char) : List Char → Option (List Char × List Char)
  | [] => none
  | [c] => if c = mark then some ([], []) else none
  | c :: d :: cs =>
    if c = mark then
      if d = mark then (readQuoted mark cs).map (Prod.map (mark :: ·) id) else some ([], d :: cs)
    else (readQuoted mark (d :: cs)).map (Prod.map (c :: ·) id)

theorem readQuoted_mark_cons {behind : List Char} (h : mark ∉ behind.head?) :
    readQuoted mark (mark :: behind) = some ([], behind) := by
  cases behind with
  | nil => simp [readQuoted]
  | cons d cs =>
      have hd : d ≠ mark := fun hd => h (by simp [hd])
      simp [readQuoted, hd]

theorem readQuoted_cons {c : Char} (hc : c ≠ mark) (cs : List Char) :
    readQuoted mark (c :: cs) = (readQuoted mark cs).map (Prod.map (c :: ·) id) := by
  cases cs with
  | nil => simp [readQuoted, hc]
  | cons d cs => simp [readQuoted, hc]

/-- A name with its marks doubled is read back. -/
theorem readQuoted_doubled (name : List Char) {behind : List Char} (h : mark ∉ behind.head?) :
    readQuoted mark (doubled mark name ++ mark :: behind) = some (name, behind) := by
  induction name with
  | nil => exact readQuoted_mark_cons h
  | cons c name ih =>
      have htail : doubled mark (c :: name) ++ mark :: behind =
          (if c = mark then [mark, mark] else [c]) ++ (doubled mark name ++ mark :: behind) := by
        rw [← List.append_assoc]
        rfl
      rw [htail]
      by_cases hc : c = mark
      · subst hc
        simp [readQuoted, ih]
      · rw [if_neg hc, List.singleton_append, readQuoted_cons hc, ih]
        rfl

/-- What is read is a name with its marks doubled, up to the closing mark. -/
theorem eq_of_readQuoted {cs name behind : List Char} (h : readQuoted mark cs = some (name, behind)) :
    cs = doubled mark name ++ mark :: behind := by
  induction cs using readQuoted.induct mark generalizing name with
  | case1 => cases h
  | case2 =>
      simp only [readQuoted, reduceIte, Option.some.injEq, Prod.mk.injEq] at h
      obtain ⟨rfl, rfl⟩ := h
      rfl
  | case3 c hc => simp [readQuoted, hc] at h
  | case4 cs ih =>
      simp only [readQuoted, reduceIte, Option.map_eq_some_iff, Prod.exists, Prod.map_apply, id_eq,
        Prod.mk.injEq] at h
      obtain ⟨front, rest, hread, rfl, rfl⟩ := h
      rw [ih hread]
      simp [doubled]
  | case5 d cs hd =>
      simp only [readQuoted, reduceIte, hd, Option.some.injEq, Prod.mk.injEq] at h
      obtain ⟨rfl, rfl⟩ := h
      rfl
  | case6 c d cs hc ih =>
      simp only [readQuoted, if_neg hc, Option.map_eq_some_iff, Prod.exists, Prod.map_apply, id_eq,
        Prod.mk.injEq] at h
      obtain ⟨front, rest, hread, rfl, rfl⟩ := h
      rw [ih hread]
      simp [doubled, hc]

end Text

/-- A part of a dotted name, as it is read. -/
inductive NamePart where
  | quoted (name : List Char)
  /-- A star that stands bare, with the blanks around it. -/
  | star (text : List Char)
  deriving DecidableEq

namespace NamePart

/-- What a part of a name is to be read as. -/
def of (part : List Char) : NamePart := if Text.stripChars part = ['*'] then star part else quoted part

/-- The name between the marks holds no closing mark. -/
def Spares (mark : Char) : NamePart → Prop
  | quoted name => mark ∉ name
  | star _ => True

instance (mark : Char) : DecidablePred (Spares mark)
  | quoted name => inferInstanceAs (Decidable (mark ∉ name))
  | star _ => .isTrue trivial

end NamePart

/-- An identifier, or two of them with a dot in between. -/
inductive DottedName where
  | plain (part : NamePart)
  | qualified (qualifier part : NamePart)
  deriving DecidableEq

namespace DottedName

/-- What a text is to be read as: its qualifier ends at the first dot. -/
def of (name : List Char) : DottedName :=
  match Text.splitFirstChars '.' name with
  | (whole, none) => plain (.of whole)
  | (qualifier, some rest) => qualified (.of qualifier) (.of rest)

def parts : DottedName → List NamePart
  | plain part => [part]
  | qualified qualifier part => [qualifier, part]

end DottedName

namespace Dialect

variable {d : Dialect}

/-! ### Readers -/

/-- The first part of a name and the text behind it: a quoted identifier, or a star up to the next dot. -/
def readPart (d : Dialect) : List Char → Option (NamePart × List Char)
  | [] => none
  | c :: cs =>
    if c = d.openMark then (Text.readQuoted d.closeMark cs).map (Prod.map NamePart.quoted id)
    else
      let front := (c :: cs).takeWhile (· != '.')
      if Text.stripChars front = ['*'] then some (.star front, (c :: cs).dropWhile (· != '.')) else none

/-- The name that a text is, to its last character. -/
def readName (d : Dialect) (cs : List Char) : Option DottedName :=
  match d.readPart cs with
  | some (part, []) => some (.plain part)
  | some (qualifier, '.' :: behind) =>
    match d.readPart behind with
    | some (part, []) => some (.qualified qualifier part)
    | _ => none
  | _ => none

/-! ### Writers that double the closing mark -/

def writePart (d : Dialect) : NamePart → List Char
  | .quoted name => d.openMark :: Text.doubled d.closeMark name ++ [d.closeMark]
  | .star text => text

def writeName (d : Dialect) : DottedName → List Char
  | .plain part => d.writePart part
  | .qualified qualifier part => d.writePart qualifier ++ '.' :: d.writePart part

theorem eq_of_readPart {cs behind : List Char} {part : NamePart} (h : d.readPart cs = some (part, behind)) :
    cs = d.writePart part ++ behind := by
  cases cs with
  | nil => cases h
  | cons c cs =>
      rw [readPart] at h
      split at h
      · rename_i hc
        simp only [Option.map_eq_some_iff, Prod.exists, Prod.map_apply, id_eq, Prod.mk.injEq] at h
        obtain ⟨name, rest, hread, rfl, rfl⟩ := h
        rw [Text.eq_of_readQuoted hread, hc, writePart]
        simp
      · simp only [Option.ite_none_right_eq_some, Option.some.injEq, Prod.mk.injEq] at h
        obtain ⟨-, rfl, rfl⟩ := h
        rw [writePart, List.takeWhile_append_dropWhile]

/-- What is read as a name is the name with its closing marks doubled. -/
theorem eq_of_readName {cs : List Char} {name : DottedName} (h : d.readName cs = some name) :
    cs = d.writeName name := by
  unfold readName at h
  split at h
  · rename_i part hpart
    cases h
    rw [eq_of_readPart hpart, List.append_nil]
    rfl
  · rename_i qualifier behind hqualifier
    split at h
    · rename_i part hpart
      cases h
      rw [eq_of_readPart hqualifier, eq_of_readPart hpart, List.append_nil]
      rfl
    · cases h
  · cases h

/-- The marks of a dialect tell the parts of a name from the dot and from a bare star. -/
structure Legible (d : Dialect) : Prop where
  openMark : d.openMark ≠ '*' ∧ Text.isBlank d.openMark = false
  closeMark : d.closeMark ≠ '.'

theorem legible_ofEngine (e : Engine) : (ofEngine e).Legible := by
  cases e <;> exact ⟨by decide, by decide⟩

theorem not_mem_of_stripChars_eq_star {c : Char} {text : List Char} (h : Text.stripChars text = ['*'])
    (hc : c ≠ '*' ∧ Text.isBlank c = false) : c ∉ text := by
  intro hmem
  rcases Text.isBlank_or_mem_stripChars hmem with hblank | hstar
  · rw [hc.2] at hblank
    cases hblank
  · rw [h, List.mem_singleton] at hstar
    exact hc.1 hstar

/-- A part of a name is read back in front of a dot and at the end. -/
theorem readPart_writePart (hd : d.Legible) (part : List Char) {behind : List Char}
    (hbehind : behind = [] ∨ behind.head? = some '.') :
    d.readPart (d.writePart (.of part) ++ behind) = some (.of part, behind) := by
  unfold NamePart.of
  split
  · rename_i hstar
    obtain ⟨c, cs, rfl⟩ : ∃ c cs, part = c :: cs := by
      cases part with
      | nil => cases hstar
      | cons c cs => exact ⟨c, cs, rfl⟩
    have hc : c ≠ d.openMark := fun hc =>
      not_mem_of_stripChars_eq_star hstar hd.openMark (hc ▸ List.mem_cons_self)
    have hdot : ∀ x ∈ c :: cs, (x != '.') = true := fun x hx =>
      bne_iff_ne.2 fun h => not_mem_of_stripChars_eq_star hstar (by decide) (h ▸ hx)
    have htake : behind.takeWhile (· != '.') = [] ∧ behind.dropWhile (· != '.') = behind := by
      rcases behind with _ | ⟨x, xs⟩
      · exact ⟨rfl, rfl⟩
      · obtain rfl : x = '.' := by simpa using hbehind
        exact ⟨rfl, rfl⟩
    rw [writePart, List.cons_append, readPart, if_neg hc, ← List.cons_append,
      List.takeWhile_append_of_pos hdot, List.dropWhile_append_of_pos hdot, htake.1, htake.2, List.append_nil,
      if_pos hstar]
  · have hclose : d.closeMark ∉ behind.head? := by
      rcases hbehind with rfl | hdot
      · simp
      · rw [hdot]
        exact fun h => hd.closeMark (Option.some.inj h).symm
    rw [writePart, List.append_assoc, List.cons_append, List.singleton_append, readPart, if_pos rfl,
      Text.readQuoted_doubled part hclose]
    rfl

/-- A name with its closing marks doubled is read back. -/
theorem readName_writeName (hd : d.Legible) (name : List Char) :
    d.readName (d.writeName (.of name)) = some (.of name) := by
  unfold DottedName.of
  rcases Text.splitFirstChars '.' name with ⟨qualifier, _ | rest⟩
  · have hpart := readPart_writePart hd qualifier (.inl rfl)
    rw [List.append_nil] at hpart
    simp only [readName, writeName, hpart]
  · have hqualifier : d.readPart (d.writePart (.of qualifier) ++ '.' :: d.writePart (.of rest)) =
        some (.of qualifier, '.' :: d.writePart (.of rest)) := readPart_writePart hd qualifier (.inr rfl)
    have hrest := readPart_writePart hd rest (.inl rfl)
    rw [List.append_nil] at hrest
    simp only [readName, writeName, hqualifier, hrest]

/-! ### The parts that are written -/

/-- A part of a name is written with its marks doubled exactly if there are none in it. -/
theorem quotePart_eq_writePart_iff {part : List Char} :
    d.quotePart part = d.writePart (.of part) ↔ (NamePart.of part).Spares d.closeMark := by
  unfold quotePart NamePart.of
  split
  · simp [writePart, NamePart.Spares]
  · simp only [writePart, NamePart.Spares, List.cons_append, List.cons.injEq, true_and,
      List.append_cancel_right_eq]
    exact eq_comm.trans Text.doubled_eq_self_iff

theorem length_quotePart_le (part : List Char) :
    (d.quotePart part).length ≤ (d.writePart (.of part)).length := by
  unfold quotePart NamePart.of
  split
  · exact Nat.le_refl _
  · simp [writePart, Text.length_doubled]

theorem quoteName_eq_writeName_iff {name : List Char} :
    d.quoteName name = d.writeName (.of name) ↔
      ∀ part ∈ (DottedName.of name).parts, part.Spares d.closeMark := by
  unfold quoteName DottedName.of
  rcases Text.splitFirstChars '.' name with ⟨qualifier, _ | rest⟩
  · simp [writeName, DottedName.parts, quotePart_eq_writePart_iff]
  · rw [DottedName.parts, List.forall_mem_cons, List.forall_mem_singleton]
    simp only [writeName, ← quotePart_eq_writePart_iff]
    constructor
    · intro h
      -- neither part is longer than the written one, so the dots stand at the same place
      have hlengths := congrArg List.length h
      simp only [List.length_append, List.length_cons] at hlengths
      have hqualifier := d.length_quotePart_le qualifier
      have hrest := d.length_quotePart_le rest
      obtain ⟨hfront, hback⟩ := List.append_inj h (by omega)
      exact ⟨hfront, (List.cons.inj hback).2⟩
    · rintro ⟨hfront, hback⟩
      rw [hfront, hback]

/-! ### The names that are read back -/

/-- What is written where an identifier is expected is read as the name that was meant exactly if no part of that
name but a bare star holds the closing mark of the dialect. -/
theorem identifier_reads_iff (e : Engine) {v : Value} {s : String} (hraw : v.isRaw = false)
    (hcallable : v.isCallable = false) (hs : v.written = .ok s) :
    ∃ sql, (ofEngine e).identifier v = .ok sql ∧
      ((ofEngine e).readName sql.toList = some (.of s.toList) ↔
        ∀ part ∈ (DottedName.of s.toList).parts, part.Spares (ofEngine e).closeMark) := by
  refine ⟨String.ofList ((ofEngine e).quoteName s.toList), ?_, ?_⟩
  · rw [identifier, hraw, hcallable, hs]
    rfl
  · rw [String.toList_ofList, ← quoteName_eq_writeName_iff]
    constructor
    · exact eq_of_readName
    · intro h
      rw [h]
      exact readName_writeName (legible_ofEngine e) s.toList

/-- A qualified name, with a star and a mark of another dialect. -/
theorem identifier_reads_iff_qualified :
    ∃ sql, (ofEngine .mysql).identifier (.text "a\"b.*") = .ok sql ∧
      (ofEngine .mysql).readName sql.toList = some (.qualified (.quoted "a\"b".toList) (.star ['*'])) := by
  obtain ⟨sql, hsql, hread⟩ := identifier_reads_iff .mysql (v := .text "a\"b.*") rfl rfl rfl
  exact ⟨sql, hsql, hread.2 (by decide +kernel)⟩

/-- A name with the closing mark in it is written as something that is no name at all. -/
theorem not_identifier_reads_mark :
    (ofEngine .mysql).identifier (.text "a`b") = .ok "`a`b`" ∧
      (ofEngine .mysql).readName "`a`b`".toList = none ∧
      DottedName.of "a`b".toList = .plain (.quoted "a`b".toList) := by
  exact ⟨rfl, by decide +kernel, by decide +kernel⟩

end Dialect

end SqlBuilder
