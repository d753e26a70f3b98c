import SqlBuilder.Proofs.Statement.Showing

/-!
The alias of a table in a statement: behind the table it is for, behind a table that is joined, and in front of a
column. A prefix comes in front of it in the latter two places, but not in the first one.
-/

namespace SqlBuilder

namespace Text

/-- No blank is a letter, digit or low line. -/
theorem isBlank_of_isWordChar {c : Char} (h : isWordChar c = true) : isBlank c = false := by
  have hblanks : ∀ range ∈ blanks, ∀ n ∈ List.range' range.1 (range.2 + 1 - range.1),
      isWordChar (Char.ofNat n) = false := by decide +kernel
  refine Bool.eq_false_iff.2 fun hblank => ?_
  obtain ⟨range, hrange, hc⟩ := List.any_eq_true.1 hblank
  simp only [Bool.and_eq_true, decide_eq_true_eq] at hc
  have hword := hblanks range hrange c.toNat (List.mem_range'_1.2 (by omega))
  rw [Char.ofNat_toNat, h] at hword
  cases hword

theorem IsWord.solid {s : String} (h : IsWord s) : Solid s :=
  solid_of_forall (mt String.toList_eq_nil_iff.1 h.1) fun c hc => isBlank_of_isWordChar (h.2 c hc)

end Text

/-- Where an alias stands in a statement. -/
inductive AliasRole where
  /-- Behind the table that it is declared for. -/
  | table
  /-- Behind a table that is joined. -/
  | join
  /-- In front of a column. -/
  | qualifier (column : String)

namespace AliasRole

def word : AliasRole → String
  | qualifier _ => ""
  | _ => "AS "

/-- The alias in writing, with the column that it qualifies. -/
def name (d : Dialect) (lead a : String) : AliasRole → String
  | table => if d.quotesTables then d.quoted a else a
  | join => d.quoted (lead ++ a)
  | qualifier column => d.quoted (lead ++ (a ++ "." ++ column))

/-- A qualifier stands behind no word. -/
theorem word_append_name_qualifier (d : Dialect) (lead a column : String) :
    (qualifier column).word ++ (qualifier column).name d lead a = d.quoted (lead ++ (a ++ "." ++ column)) :=
  String.empty_append

def identifier (lead a : String) : AliasRole → DottedName
  | table => .of a.toList
  | join => .of (lead ++ a).toList
  | qualifier _ => .plain (.of ((lead ++ a).toList.takeWhile (· ≠ '.')))

/-- The text is read so, a qualifier up to its dot. Without marks it is the name itself. -/
def Reads (d : Dialect) (name : List Char) (x : DottedName) : AliasRole → Prop
  | qualifier _ => ∃ part behind, x = .plain part ∧ d.readPart name = some (part, '.' :: behind)
  | _ => (d.readName name).getD (.of name) = x

/-- The alias stands in the query, and is read as it should be unless the prefix holds closing marks. -/
def Stands (q : Query) (e : Engine) (lead a : String) (role : AliasRole) : Prop :=
  q.Shows (role.word ++ role.name (.ofEngine e) lead a) ∧
    ((Dialect.ofEngine e).closeMark ∉ lead.toList →
      role.Reads (.ofEngine e) (role.name (.ofEngine e) lead a).toList (role.identifier lead a))

/-- There are no blanks around a star. -/
def IsTight : AliasRole → Prop
  | qualifier column => Text.strip column = "*" → column = "*"
  | _ => True

section Reading

variable {e : Engine} {lead a column : String}

/-- A qualified column is split at the first dot of what is in front of its own dot, or else there. -/
theorem splitFirstChars_qualified (front column : List Char) : ∃ behind,
    Text.splitFirstChars '.' (front ++ '.' :: column) = (front.takeWhile (· ≠ '.'), some behind) ∧
      (behind = column ∨ '.' ∈ behind) := by
  have hfront : '.' ∉ front.takeWhile (· ≠ '.') := fun h => by simpa using List.mem_takeWhile_imp h
  rcases hrest : front.dropWhile (· ≠ '.') with _ | ⟨c, rest⟩
  · have hwhole := List.takeWhile_append_dropWhile (p := (· ≠ '.')) (l := front)
    rw [hrest, List.append_nil] at hwhole
    refine ⟨column, ?_, .inl rfl⟩
    conv_lhs => rw [← hwhole]
    exact Text.splitFirstChars_append hfront column
  · have hwhole := List.takeWhile_append_dropWhile (p := (· ≠ '.')) (l := front)
    obtain rfl : c = '.' := by
      have hhead := List.head?_dropWhile_not (· ≠ '.') front
      rw [hrest] at hhead
      simpa using hhead
    refine ⟨rest ++ '.' :: column, ?_, .inr (List.mem_append_right _ List.mem_cons_self)⟩
    conv_lhs => rw [← hwhole, hrest, List.append_assoc, List.cons_append]
    exact Text.splitFirstChars_append hfront _

/-- A part ends at its closing mark, or at a star. -/
theorem ends_quotePart {part : List Char} (h : Text.stripChars part = ['*'] → part = ['*']) :
    Text.Opens ((Dialect.ofEngine e).quotePart part).reverse := by
  unfold Dialect.quotePart
  split
  · rename_i hstar
    rw [h hstar]
    exact ⟨'*', [], rfl, by decide⟩
  · have hclose : Text.isBlank (Dialect.ofEngine e).closeMark = false := by cases e <;> decide
    rw [List.reverse_append, List.reverse_singleton]
    exact ⟨_, _, rfl, hclose⟩

theorem spares_of_not_mem {c : Char} {part : List Char} (h : c ∉ part) : (NamePart.of part).Spares c := by
  unfold NamePart.of
  split
  · trivial
  · exact h

/-- A name without closing marks is read as what it is. -/
theorem readName_quoteName {name : List Char} (h : (Dialect.ofEngine e).closeMark ∉ name) :
    (Dialect.ofEngine e).readName ((Dialect.ofEngine e).quoteName name) = some (.of name) := by
  obtain ⟨hfront, hback⟩ := Text.mem_of_splitFirstChars '.' name
  rw [Dialect.quoteName_eq_writeName_iff.2, Dialect.readName_writeName (Dialect.legible_ofEngine e)]
  unfold DottedName.of
  rcases hsplit : Text.splitFirstChars '.' name with ⟨front, _ | back⟩
  · rw [hsplit] at hfront
    rw [DottedName.parts, List.forall_mem_singleton]
    exact spares_of_not_mem fun hmem => h (hfront _ hmem)
  · rw [hsplit] at hfront hback
    rw [DottedName.parts, List.forall_mem_cons, List.forall_mem_singleton]
    exact ⟨spares_of_not_mem fun hmem => h (hfront _ hmem), spares_of_not_mem fun hmem => h (hback back rfl _ hmem)⟩

theorem toList_qualified (lead a column : String) :
    (lead ++ (a ++ "." ++ column)).toList = (lead ++ a).toList ++ '.' :: column.toList := by
  have hdot : ".".toList = ['.'] := rfl
  simp only [String.toList_append, hdot, List.append_assoc, List.singleton_append]

/-- A qualified column with its qualifier in front of the dot. -/
theorem quoteName_qualified (d : Dialect) (lead a column : String) :
    ∃ behind, (behind = column.toList ∨ '.' ∈ behind) ∧ d.quoteName (lead ++ (a ++ "." ++ column)).toList =
      d.quotePart ((lead ++ a).toList.takeWhile (· ≠ '.')) ++ '.' :: d.quotePart behind := by
  obtain ⟨behind, hsplit, hbehind⟩ := splitFirstChars_qualified (lead ++ a).toList column.toList
  refine ⟨behind, hbehind, ?_⟩
  rw [toList_qualified, Dialect.quoteName, hsplit]

variable (ha : Text.IsWord a)

include ha

theorem not_mem_lead_append {c : Char} (hc : Text.isWordChar c = false) (h : c ∉ lead.toList) :
    c ∉ (lead ++ a).toList := by
  rw [String.toList_append, List.mem_append, not_or]
  exact ⟨h, ha.not_mem hc⟩

/-- The alias is no star, whatever is in front of it. -/
theorem stripChars_lead_append_ne (lead : String) : Text.stripChars (lead ++ a).toList ≠ ['*'] := by
  intro hstar
  rcases hchars : a.toList with _ | ⟨c, cs⟩
  · exact ha.1 (String.toList_eq_nil_iff.1 hchars)
  · have hc : c ∈ a.toList := hchars ▸ List.mem_cons_self
    have hother : c ≠ '*' := fun h => ha.not_mem (by decide) (h ▸ hc)
    refine Dialect.not_mem_of_stripChars_eq_star hstar ⟨hother, Text.isBlank_of_isWordChar (ha.2 c hc)⟩ ?_
    rw [String.toList_append]
    exact List.mem_append_right _ hc

theorem of_lead_append (lead : String) : NamePart.of (lead ++ a).toList = .quoted (lead ++ a).toList :=
  if_neg (stripChars_lead_append_ne ha lead)

theorem takeWhile_lead_append (hdot : '.' ∉ lead.toList) :
    (lead ++ a).toList.takeWhile (· ≠ '.') = (lead ++ a).toList := by
  have hdots := not_mem_lead_append ha (by decide) hdot
  exact List.takeWhile_eq_self_iff.2 fun c hc => decide_eq_true fun h => hdots (h ▸ hc)

theorem splitFirstChars_lead_append (hdot : '.' ∉ lead.toList) :
    Text.splitFirstChars '.' (lead ++ a).toList = ((lead ++ a).toList, none) :=
  Text.splitFirstChars_of_not_mem (not_mem_lead_append ha (by decide) hdot)

/-- In front of a column stands what the alias of a joined table is written as. -/
theorem name_qualifier (d : Dialect) (hdot : '.' ∉ lead.toList) (column : String) :
    (qualifier column).name d lead a = join.name d lead a ++ "." ++ .ofList (d.quotePart column.toList) := by
  have hsplit := Text.splitFirstChars_append (not_mem_lead_append ha (by decide) hdot) column.toList
  have hqualified : d.quoteName (lead ++ (a ++ "." ++ column)).toList =
      d.quotePart (lead ++ a).toList ++ (['.'] ++ d.quotePart column.toList) := by
    rw [toList_qualified, Dialect.quoteName, hsplit]
    rfl
  have hjoin : d.quoteName (lead ++ a).toList = d.quotePart (lead ++ a).toList := by
    rw [Dialect.quoteName, splitFirstChars_lead_append ha hdot]
  rw [name, name, Dialect.quoted, Dialect.quoted, hqualified, hjoin, String.ofList_append, String.ofList_append,
    ← String.append_assoc]

/-- A word without marks is no quoted name. -/
theorem readName_of_isWord : (Dialect.ofEngine e).readName a.toList = none := by
  have hpart : (Dialect.ofEngine e).readPart a.toList = none := by
    rcases hchars : a.toList with _ | ⟨c, cs⟩
    · rfl
    · have hmark : Text.isWordChar (Dialect.ofEngine e).openMark = false := by cases e <;> decide
      have hopen : c ≠ (Dialect.ofEngine e).openMark := fun hc =>
        ha.not_mem hmark (hchars ▸ hc ▸ List.mem_cons_self)
      rw [Dialect.readPart, if_neg hopen]
      refine if_neg fun hfront => ha.not_mem (c := '*') (by decide) ?_
      have hmem := Text.mem_of_mem_stripChars (hfront.symm ▸ List.mem_singleton_self '*')
      rw [hchars]
      exact (List.takeWhile_sublist _).subset hmem
  rw [Dialect.readName, hpart]

/-- Behind a prefix without closing marks the alias is read as it should be, wherever it stands. -/
theorem reads (hmark : (Dialect.ofEngine e).closeMark ∉ lead.toList) (role : AliasRole) :
    role.Reads (.ofEngine e) (role.name (.ofEngine e) lead a).toList (role.identifier lead a) := by
  have hmarks := not_mem_lead_append ha (isWordChar_closeMark e) hmark
  cases role with
  | table =>
      change ((Dialect.ofEngine e).readName (table.name (.ofEngine e) lead a).toList).getD
        (.of (table.name (.ofEngine e) lead a).toList) = _
      rw [name]
      cases hquotes : (Dialect.ofEngine e).quotesTables with
      | true =>
          rw [if_pos rfl, Dialect.toList_quoted, readName_quoteName (ha.not_mem (isWordChar_closeMark e))]
          rfl
      | false =>
          rw [if_neg Bool.false_ne_true, readName_of_isWord ha]
          rfl
  | join =>
      change ((Dialect.ofEngine e).readName ((Dialect.ofEngine e).quoted (lead ++ a)).toList).getD _ = _
      rw [Dialect.toList_quoted, readName_quoteName hmarks]
      rfl
  | qualifier column =>
      obtain ⟨behind, -, hname⟩ := quoteName_qualified (.ofEngine e) lead a column
      have hfront : (Dialect.ofEngine e).closeMark ∉ (lead ++ a).toList.takeWhile (· ≠ '.') :=
        fun h => hmarks ((List.takeWhile_sublist _).subset h)
      refine ⟨_, (Dialect.ofEngine e).quotePart behind, rfl, ?_⟩
      rw [name, Dialect.toList_quoted, hname, Dialect.quotePart_eq_writePart_iff.2 (spares_of_not_mem hfront)]
      exact Dialect.readPart_writePart (Dialect.legible_ofEngine e) _ (.inr rfl)

/-- There are no blanks around the alias in writing, unless a prefix with a dot has a star in front of it. -/
theorem solid (hstar : '.' ∈ lead.toList → '*' ∉ lead.toList) {role : AliasRole} (hrole : role.IsTight) :
    Text.Solid (role.word ++ role.name (.ofEngine e) lead a) := by
  have hword : Text.Leads "AS " := by decide
  have hstars : ∀ part : List Char, (∀ c ∈ part, c ∈ (lead ++ a).toList) → '.' ∈ lead.toList →
      Text.stripChars part ≠ ['*'] := by
    intro part hpart hdot hstrip
    have hmem := Text.mem_of_mem_stripChars (hstrip ▸ List.mem_singleton_self '*')
    exact not_mem_lead_append ha (by decide) (hstar hdot) (hpart _ hmem)
  cases role with
  | table =>
      refine hword.solid ?_
      rw [name]
      cases (Dialect.ofEngine e).quotesTables with
      | true =>
          have hplain : (Dialect.ofEngine e).quoteName a.toList = (Dialect.ofEngine e).quotePart a.toList := by
            rw [Dialect.quoteName, Text.splitFirstChars_of_not_mem (ha.not_mem (by decide))]
          have hother := stripChars_lead_append_ne ha ""
          rw [String.empty_append] at hother
          change Text.Opens ((Dialect.ofEngine e).quoted a).toList.reverse
          rw [Dialect.toList_quoted, hplain]
          exact ends_quotePart fun h => absurd h hother
      | false => exact ha.solid.2
  | join =>
      refine hword.solid ?_
      unfold Text.Ends
      rw [name, Dialect.toList_quoted]
      by_cases hdot : '.' ∈ lead.toList
      · obtain ⟨hfront, hback⟩ := Text.mem_of_splitFirstChars '.' (lead ++ a).toList
        unfold Dialect.quoteName
        rcases hsplit : Text.splitFirstChars '.' (lead ++ a).toList with ⟨front, _ | back⟩
        · rw [hsplit] at hfront
          exact ends_quotePart fun h => absurd h (hstars front hfront hdot)
        · rw [hsplit] at hback
          rw [List.reverse_append, List.reverse_cons, List.append_assoc]
          exact (ends_quotePart fun h => absurd h (hstars back (hback back rfl) hdot)).append _
      · rw [Dialect.quoteName, splitFirstChars_lead_append ha hdot]
        exact ends_quotePart fun h => absurd h (stripChars_lead_append_ne ha lead)
  | qualifier column =>
      obtain ⟨behind, hbehind, hname⟩ := quoteName_qualified (.ofEngine e) lead a column
      have hopen : Text.isBlank (Dialect.ofEngine e).openMark = false := (Dialect.legible_ofEngine e).openMark.2
      have hfront : Text.stripChars ((lead ++ a).toList.takeWhile (· ≠ '.')) ≠ ['*'] := by
        by_cases hdot : '.' ∈ lead.toList
        · exact hstars _ (fun _ hc => (List.takeWhile_sublist _).subset hc) hdot
        · rw [takeWhile_lead_append ha hdot]
          exact stripChars_lead_append_ne ha lead
      have hlast : Text.Opens ((Dialect.ofEngine e).quotePart behind).reverse := by
        refine ends_quotePart fun hstrip => ?_
        rcases hbehind with rfl | hdot
        · have hcolumn : Text.strip column = "*" := by rw [Text.strip, hstrip]
          exact congrArg String.toList (hrole hcolumn)
        · exact absurd hdot (Dialect.not_mem_of_stripChars_eq_star hstrip (by decide))
      rw [word, String.empty_append, name]
      unfold Text.Solid
      rw [Dialect.toList_quoted, hname, Dialect.quotePart, if_neg hfront]
      refine ⟨⟨_, _, rfl, hopen⟩, ?_⟩
      rw [List.reverse_append, List.reverse_cons, List.append_assoc]
      exact hlast.append _

/-- Behind a table that is joined the alias is the one in front of columns, unless the prefix makes two parts of it. -/
theorem identifier_join_eq_iff (column : String) :
    join.identifier lead a = (qualifier column).identifier lead a ↔ '.' ∉ lead.toList := by
  constructor
  · intro h hdot
    have hmem : '.' ∈ (lead ++ a).toList := by
      rw [String.toList_append]
      exact List.mem_append_left _ hdot
    obtain ⟨front, behind, hchars, hfront⟩ := List.eq_append_cons_of_mem hmem
    rw [identifier, hchars, DottedName.of, Text.splitFirstChars_append hfront] at h
    cases h
  · intro hdot
    rw [identifier, identifier, DottedName.of, splitFirstChars_lead_append ha hdot, takeWhile_lead_append ha hdot]

/-- Behind its own table the alias is the one in front of columns only if there is no prefix. -/
theorem identifier_table_eq_iff (hdot : '.' ∉ lead.toList) (column : String) :
    table.identifier lead a = (qualifier column).identifier lead a ↔ lead = "" := by
  have hof := of_lead_append ha ""
  rw [String.empty_append] at hof
  rw [identifier, identifier, takeWhile_lead_append ha hdot, DottedName.of,
    Text.splitFirstChars_of_not_mem (ha.not_mem (by decide)), DottedName.plain.injEq, hof, of_lead_append ha,
    NamePart.quoted.injEq, String.toList_append, List.self_eq_append_left, String.toList_eq_nil_iff]

end Reading

end AliasRole

end SqlBuilder
