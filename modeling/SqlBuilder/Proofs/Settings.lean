import Mathlib.Data.List.Nodup
import SqlBuilder.Config
import SqlBuilder.Proofs.Agree

/-!
Settings that have been read. Whatever the data is, no connection is read twice under one name, and the default is one
of the connections.
-/

namespace SqlBuilder

namespace RootConfig

/-- No name is given twice, and the default is one of the names. -/
structure Sound (config : RootConfig) : Prop where
  nodup : (config.connections.map (·.1)).Nodup
  default : ∀ name, config.defaultConnection = some name → name ∈ config.connections.map (·.1)

end RootConfig

namespace Config

variable {name : String} {c : ConnectionConfig} {known : List (String × ConnectionConfig)}
  {data : List (Value × Value)} {config : RootConfig}

theorem names_insertNamed (name : String) (c : ConnectionConfig) (known : List (String × ConnectionConfig)) :
    (insertNamed name c known).map (·.1) =
      if name ∈ known.map (·.1) then known.map (·.1) else known.map (·.1) ++ [name] := by
  induction known with
  | nil => rfl
  | cons entry rest ih =>
      obtain ⟨n, x⟩ := entry
      unfold insertNamed
      by_cases hn : name = n
      · rw [if_pos hn, if_pos (hn ▸ List.mem_cons_self)]
        rfl
      · have hmem : name ∈ ((n, x) :: rest).map (·.1) ↔ name ∈ rest.map (·.1) := by
          rw [List.map_cons, List.mem_cons, or_iff_right hn]
        rw [if_neg hn, List.map_cons, ih, ite_congr (propext hmem) (fun _ => rfl) fun _ => rfl]
        split
        · rfl
        · rfl

theorem nodup_insertNamed (h : (known.map (·.1)).Nodup) : ((insertNamed name c known).map (·.1)).Nodup := by
  rw [names_insertNamed]
  split
  · exact h
  · rename_i hnew
    exact List.nodup_append.2 ⟨h, List.nodup_singleton name, fun a ha b hb hab =>
      hnew (List.mem_singleton.1 hb ▸ hab ▸ ha)⟩

theorem nodup_foldl_insertNamed (readings : List (String × ConnectionConfig)) (h : (known.map (·.1)).Nodup) :
    ((readings.foldl (fun known entry => insertNamed entry.1 entry.2 known) known).map (·.1)).Nodup := by
  induction readings generalizing known with
  | nil => exact h
  | cons entry readings ih => exact ih (nodup_insertNamed h)

/-- Of connections with the same name one is read. -/
theorem nodup_connections {v : Value} (h : connections v = .ok known) : (known.map (·.1)).Nodup := by
  unfold connections at h
  split at h
  · dsimp only at h
    split at h
    · obtain ⟨readings, -, h⟩ := exists_ok_of_bind h
      cases h
      exact nodup_foldl_insertNamed readings List.nodup_nil
    · cases h
  · cases h

/-- What is read of an entry is the reading of what stands there, or stands for it. -/
theorem field_eq_ok {α : Type} {key : String} {default x : α} {read : Value → Checked α}
    (h : field data key default read = .ok x) : x = default ∨ ∃ v, read v = .ok x := by
  unfold field at h
  split at h
  · exact .inl (Except.ok.inj h).symm
  · rename_i v _
    cases hread : read v with
    | error issues =>
        rw [hread] at h
        cases h
    | ok y =>
        rw [hread] at h
        exact .inr ⟨v, hread.trans h⟩

theorem mem_of_defaultAmong {names : List String} {chosen chosen' : Option String}
    (h : defaultAmong names chosen = .ok chosen') : ∀ name, chosen' = some name → name ∈ names := by
  unfold defaultAmong at h
  split at h
  · cases h
    exact nofun
  · split at h
    · rename_i hmem
      cases h
      rintro name ⟨⟩
      exact List.contains_iff_mem.1 hmem
    · cases h

/-- The default is looked for among the names of the connections that have been read. -/
theorem rootOf_eq_ok (h : rootOf data = .ok config) :
    field data "connections" [] connections = .ok config.connections ∧
    field data "default_connection" none (fun v => do defaultAmong (config.connections.map (·.1)) (← text? v)) =
      .ok config.defaultConnection := by
  unfold rootOf at h
  cases hknown : field data "connections" [] connections with
  | error issues =>
      rw [hknown] at h
      dsimp only at h
      split at h
      · obtain ⟨_, -, h⟩ := exists_ok_of_bind h
        cases h
      · cases h
  | ok known =>
      rw [hknown] at h
      dsimp only at h
      split at h
      · obtain ⟨version, -, h⟩ := exists_ok_of_bind h
        obtain ⟨_, hsame, h⟩ := exists_ok_of_bind h
        cases hsame
        obtain ⟨chosen, hchosen, h⟩ := exists_ok_of_bind h
        cases h
        exact ⟨rfl, hchosen⟩
      · cases h

/-- Settings without issues are sound. -/
theorem sound_rootOf (h : rootOf data = .ok config) : config.Sound := by
  obtain ⟨hknown, hchosen⟩ := rootOf_eq_ok h
  refine ⟨?_, fun name hname => ?_⟩
  · obtain hnone | ⟨v, hread⟩ := field_eq_ok hknown
    · rw [hnone]
      exact List.nodup_nil
    · exact nodup_connections hread
  · obtain hnone | ⟨v, hread⟩ := field_eq_ok hchosen
    · rw [hnone] at hname
      cases hname
    · obtain ⟨given, -, hread⟩ := exists_ok_of_bind hread
      exact mem_of_defaultAmong hread name hname

end Config

theorem RootConfig.sound_of_ofEntries {data : List (Value × Value)} {config : RootConfig}
    (h : RootConfig.ofEntries data = .ok config) : config.Sound := by
  unfold RootConfig.ofEntries Config.named at h
  split at h
  · cases hread : Config.rootOf data with
    | error issues =>
        rw [hread] at h
        cases h
    | ok read =>
        rw [hread] at h
        cases h
        exact Config.sound_rootOf hread
  · cases h

end SqlBuilder
