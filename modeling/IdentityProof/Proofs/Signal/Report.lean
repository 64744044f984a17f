import IdentityProof.Proofs.Rule.Failures
import IdentityProof.Proofs.Signal.Layout

/-! Failures that report on signals: each under the path of its signal, and no signal twice. -/

namespace IdentityProof

structure Failures.Report (failures : Failures ε) (group : List Signal) (fails : Signal → Prop) :
    Prop where
  sublist : failures.fields.Sublist (group.map Signal.path)
  mem : ∀ field, field ∈ failures.fields ↔ ∃ s ∈ group, field = s.path ∧ fails s

namespace Failures.Report

variable {ε : Type} {failures first second : Failures ε} {group more : List Signal}
  {fails : Signal → Prop}

theorem nil (h : ∀ s ∈ group, ¬ fails s) : Report ([] : Failures ε) group fails where
  sublist := List.nil_sublist _
  mem field := by
    constructor
    · intro hf
      exact nomatch hf
    · rintro ⟨s, hs, -, hfails⟩
      exact absurd hfails (h s hs)

theorem append (h₁ : Report first group fails) (h₂ : Report second more fails) :
    Report (first ++ second) (group ++ more) fails where
  sublist := by
    rw [fields_append, List.map_append]
    exact h₁.sublist.append h₂.sublist
  mem field := by
    rw [fields_append, List.mem_append, h₁.mem, h₂.mem]
    simp only [List.mem_append, or_and_right, exists_or]

theorem congr {bad : Signal → Prop} (h : Report failures group fails)
    (hiff : ∀ s ∈ group, fails s ↔ bad s) : Report failures group bad where
  sublist := h.sublist
  mem field := by
    rw [h.mem]
    constructor
    · rintro ⟨s, hs, hfield, hfails⟩
      exact ⟨s, hs, hfield, (hiff s hs).mp hfails⟩
    · rintro ⟨s, hs, hfield, hbad⟩
      exact ⟨s, hs, hfield, (hiff s hs).mpr hbad⟩

theorem none {s : Signal} (h : ¬ fails s) : Report ([] : Failures ε) [s] fails :=
  .nil (by simpa using h)

theorem ofFields {δ : Type} {others : Failures δ} (h : Report failures group fails)
    (hfields : others.fields = failures.fields) : Report others group fails where
  sublist := hfields ▸ h.sublist
  mem := hfields ▸ h.mem

theorem single {s : Signal} {e : ε} (h : fails s) : Report [(s.path, e)] [s] fails where
  sublist := .refl _
  mem field := by
    simp only [fields, List.map_cons, List.map_nil, List.mem_singleton, exists_eq_left, h, and_true]

theorem ofOutcome {s : Signal} {outcome : Outcome ε} {outcomes : List (String × Outcome ε)}
    (hs : (∃ e, outcome = .failed e) ↔ fails s) (h : Report (ofOutcomes outcomes) group fails) :
    Report (ofOutcomes ((s.path, outcome) :: outcomes)) (s :: group) fails := by
  cases outcome with
  | failed e => exact (single (hs.mp ⟨e, rfl⟩)).append h
  | pass =>
    have hpass : ¬ fails s := fun hfails => by simpa using hs.mpr hfails
    exact (none hpass).append h
  | skipped =>
    have hskipped : ¬ fails s := fun hfails => by simpa using hs.mpr hfails
    exact (none hskipped).append h

theorem ofEither {s t : Signal} {first second : Outcome ε} (hst : s ≠ t)
    (hs : ((∃ e, first = .failed e) ∧ second ≠ .pass) ↔ fails s)
    (ht : ((∃ e, second = .failed e) ∧ first ≠ .pass) ↔ fails t) :
    Report (Failures.ofEither (s.path, first) (t.path, second)) [s, t] fails where
  sublist := fields_ofEither_sublist (fun h => hst (Signal.path_injective h)) _ _
  mem field := by
    rw [mem_fields_ofEither fun h => hst (Signal.path_injective h)]
    simp only [List.mem_cons, List.not_mem_nil, or_false, exists_eq_or_imp, exists_eq_left,
      ← hs, ← ht]
    constructor
    · rintro ⟨h₁, h₂, ⟨hf, he⟩ | ⟨hf, he⟩⟩
      · exact .inl ⟨hf, he, h₂⟩
      · exact .inr ⟨hf, he, h₁⟩
    · rintro (⟨hf, ⟨e, rfl⟩, h₂⟩ | ⟨hf, ⟨e, rfl⟩, h₁⟩)
      · exact ⟨nofun, h₂, .inl ⟨hf, e, rfl⟩⟩
      · exact ⟨h₁, nofun, .inr ⟨hf, e, rfl⟩⟩

theorem mem_iff (h : Report failures group fails) (hall : ∀ s, fails s → s ∈ group)
    (field : String) : field ∈ failures.fields ↔ ∃ s, field = s.path ∧ fails s := by
  rw [h.mem]
  constructor
  · rintro ⟨s, -, hfield, hfails⟩
    exact ⟨s, hfield, hfails⟩
  · rintro ⟨s, hfield, hfails⟩
    exact ⟨s, hall s hfails, hfield, hfails⟩

theorem nodup (h : Report failures group fails) (hg : group.Nodup) : failures.fields.Nodup := by
  have hpaths : (group.map Signal.path).Nodup :=
    List.pairwise_map.mpr (hg.imp fun hne hp => hne (Signal.path_injective hp))
  exact hpaths.sublist h.sublist

end Failures.Report
end IdentityProof
