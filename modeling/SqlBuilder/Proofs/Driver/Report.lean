import SqlBuilder.DriverReport

/-!
The reports of drivers. A report gives its state and its message as texts, where the state may be absent, and its code
in some way that can be read. Such a report falls into a category for every engine, so that a fault of the library is
raised on it.
-/

namespace SqlBuilder

namespace DriverFault

/-- The report has the parts that a driver gives, and its code can be read. -/
structure IsTyped (f : DriverFault) : Prop where
  state : f.sqlState = .null ∨ ∃ s, f.sqlState = .text s
  code : ∃ code, numericCode f.code = .ok code
  message : ∃ s, f.message = .text s

variable {f : DriverFault} {code : Value}

theorem numericCode_bind (hcode : numericCode f.code = .ok code) (k : Value → Except Fault (FaultCategory × Value)) :
    (numericCode f.code >>= k) = k code := by
  rw [hcode]
  rfl

theorem classify_mysql (hcode : numericCode f.code = .ok code) : ∃ result, f.classify (some .mysql) = .ok result := by
  unfold classify
  dsimp only
  rw [numericCode_bind hcode]
  by_cases hintegrity : f.sqlState.same (.text "23000") = true
  · rw [if_pos hintegrity]
    split
    · exact ⟨_, rfl⟩
    · exact ⟨_, rfl⟩
  · rw [if_neg hintegrity]
    exact ⟨_, rfl⟩

theorem classify_sqlserver (hcode : numericCode f.code = .ok code) :
    ∃ result, f.classify (some .sqlserver) = .ok result := by
  unfold classify
  dsimp only
  rw [numericCode_bind hcode]
  split
  · exact ⟨_, rfl⟩
  · exact ⟨_, rfl⟩

/-- The states that have a category in PostgreSQL can be read as numbers. -/
theorem numericCode_postgres {s : String} {category : FaultCategory} (h : postgresCategory? s = some category) :
    ∃ code, numericCode (.text s) = .ok code := by
  unfold postgresCategory? at h
  split at h
  case h_8 => cases h
  all_goals exact ⟨_, rfl⟩

/-- Here the state is looked up, so it has to be a text if it is there. -/
theorem classify_postgresql (hcode : numericCode f.code = .ok code)
    (hstate : f.sqlState = .null ∨ ∃ s, f.sqlState = .text s) :
    ∃ result, f.classify (some .postgresql) = .ok result := by
  unfold classify
  dsimp only
  rw [numericCode_bind hcode]
  obtain hnull | ⟨s, hs⟩ := hstate
  · rw [hnull]
    exact ⟨_, rfl⟩
  · have hkey : ((Value.text s).isTruthy && !(Value.text s).isKey) = false := Bool.and_false _
    rw [hs, hkey]
    cases hcategory : postgresCategory? s with
    | none =>
        refine ⟨(.query, code), ?_⟩
        simp [Value.text?, hcategory, Pure.pure, Except.pure]
    | some category =>
        obtain ⟨number, hnumber⟩ := numericCode_postgres hcategory
        refine ⟨(category, number), ?_⟩
        simp [Value.text?, hcategory, hnumber, Pure.pure, Except.pure, Bind.bind, Except.bind]

/-- Here the message is searched, unless a constraint is violated. The code is then the state, which can be read. -/
theorem classify_sqlite (hcode : numericCode f.code = .ok code)
    (hstate : f.sqlState = .null ∨ ∃ s, f.sqlState = .text s) (hmessage : ∃ s, f.message = .text s) :
    ∃ result, f.classify (some .sqlite) = .ok result := by
  obtain ⟨message, hmessage⟩ := hmessage
  unfold classify
  dsimp only
  rw [numericCode_bind hcode]
  split
  · rename_i hconstraint
    have hsame := (Bool.and_eq_true_iff.1 hconstraint).1
    obtain hnull | ⟨s, hs⟩ := hstate
    · rw [hnull] at hsame
      exact absurd hsame (by decide)
    · rw [hs] at hsame ⊢
      rw [eq_of_beq (show (s == "23000") = true from hsame)]
      exact ⟨_, rfl⟩
  · rw [hmessage]
    dsimp only
    split
    · exact ⟨_, rfl⟩
    · split
      · exact ⟨_, rfl⟩
      · exact ⟨_, rfl⟩

theorem classify_of_isTyped (h : f.IsTyped) (engine : Option Engine) :
    ∃ result, f.classify engine = .ok result := by
  obtain ⟨code, hcode⟩ := h.code
  cases engine with
  | none =>
      unfold classify
      dsimp only
      rw [numericCode_bind hcode]
      exact ⟨_, rfl⟩
  | some engine =>
      cases engine with
      | mysql => exact classify_mysql hcode
      | sqlserver => exact classify_sqlserver hcode
      | postgresql => exact classify_postgresql hcode h.state
      | sqlite => exact classify_sqlite hcode h.state h.message

/-- The library raises a fault of its own on the report, which keeps it and the statement. -/
theorem toFault_of_isTyped (h : f.IsTyped) (engine : Option Engine) (statement : Option Issued) :
    ∃ category code, f.toFault engine statement = .sql (.reported category code f statement) := by
  obtain ⟨⟨category, code⟩, hclassify⟩ := classify_of_isTyped h engine
  refine ⟨category, code, ?_⟩
  unfold toFault
  rw [hclassify]

end DriverFault

end SqlBuilder
