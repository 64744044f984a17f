import IdentityProof.Signal.Layout

/-! Signals by name: different ones have different paths, and the list of a type has a place for
each of its own. -/

namespace IdentityProof

namespace Signal

theorem ofName?_name (s : Signal) : ofName? s.name = some s := by
  cases s <;> rfl

theorem name_injective {s t : Signal} (h : s.name = t.name) : s = t := by
  have hs := ofName?_name s
  rw [h, ofName?_name t] at hs
  exact (Option.some.inj hs).symm

theorem path_injective {s t : Signal} (h : s.path = t.path) : s = t := by
  apply name_injective
  have hl := congrArg String.toList h
  simp only [path, String.toList_append, List.append_cancel_left_eq] at hl
  exact String.toList_injective hl

end Signal

namespace ProofType

theorem mem_layout {t : ProofType} {s : Signal} {i : Nat} (h : t.index? s = some i) :
    (s, i) ∈ t.layout := by
  obtain ⟨before, after, hl, _⟩ := List.lookup_eq_some_iff.mp h
  rw [hl]
  exact List.mem_append_right _ List.mem_cons_self

theorem index?_injective {t : ProofType} {s other : Signal} {i : Nat} (h : t.index? s = some i)
    (hother : t.index? other = some i) : s = other := by
  -- a layout is a table, so its indexes are compared by evaluation
  have hall : ∀ a ∈ t.layout, ∀ b ∈ t.layout, a.2 = b.2 → a.1 = b.1 := by cases t <;> decide
  exact hall _ (mem_layout h) _ (mem_layout hother) rfl

theorem index?_lt_signalCount {t : ProofType} {s : Signal} {i : Nat} (h : t.index? s = some i) :
    i < t.signalCount := by
  have hall : ∀ entry ∈ t.layout, entry.2 < t.signalCount := by cases t <;> decide
  exact hall _ (mem_layout h)

theorem index?_of_signal_ne_empty {t : ProofType} {signals : List String} {s : Signal}
    (h : t.signal signals s ≠ "") :
    ∃ i, t.index? s = some i ∧ signals[i]? = some (t.signal signals s) := by
  unfold signal at h ⊢
  cases hi : t.index? s with
  | none => simp [hi] at h
  | some i =>
    refine ⟨i, rfl, ?_⟩
    cases hs : signals[i]? with
    | none => simp [hi, hs] at h
    | some text => simp [hs]

end ProofType
end IdentityProof
