import IdentityProof.Proofs.Rule.Failures
import IdentityProof.Proofs.Signal.Layout
import IdentityProof.Verification.Structure

/-! The structural fields of a proof, and what is wrong with it when one of them fails. -/

namespace IdentityProof.Proof

def LacksPoints (proof : Proof) : Prop :=
  ∀ points, proof.points = some points → points.a = [] ∨ points.b = [] ∨ points.c = []

/-- What is wrong with a proof, by the structural field that says so. -/
inductive Broken (proof : Proof) (t : ProofType) : String → Prop where
  | points (h : proof.LacksPoints) : Broken proof t pointsField
  | length (h : proof.signals = [] ∨ proof.signals.length ≠ t.signalCount) :
    Broken proof t signalsField
  | nullifier (h : proof.signal t .nullifier = "") : Broken proof t Signal.nullifier.path

theorem hasPoints_eq_false_iff {proof : Proof} : proof.hasPoints = false ↔ proof.LacksPoints := by
  unfold hasPoints LacksPoints
  cases proof.points with
  | none => simp
  | some points =>
    simp only [Option.any_some, ProofPoints.isEmpty, Bool.not_eq_false', Bool.or_eq_true,
      List.isEmpty_iff, Option.some.injEq, forall_eq', or_assoc]

theorem pointsOutcome_failed {proof : Proof} :
    (∃ e, proof.pointsOutcome = .failed e) ↔ proof.LacksPoints := by
  rw [← hasPoints_eq_false_iff, pointsOutcome]
  cases proof.hasPoints <;> simp

theorem lengthOutcome_failed {proof : Proof} {t : ProofType} :
    (∃ e, proof.lengthOutcome t = .failed e) ↔
      proof.signals = [] ∨ proof.signals.length ≠ t.signalCount := by
  unfold lengthOutcome
  split
  · rename_i h
    exact ⟨fun _ => .inl (List.isEmpty_iff.mp h), fun _ => ⟨_, rfl⟩⟩
  · rename_i h
    have hne : proof.signals ≠ [] := fun he => h (List.isEmpty_iff.mpr he)
    split <;> simp [*]

theorem nullifierOutcome_failed {proof : Proof} {t : ProofType} :
    (∃ e, proof.nullifierOutcome t = .failed e) ↔ proof.signal t .nullifier = "" := by
  unfold nullifierOutcome
  split <;> simp [*]

theorem mem_structuralFailures {proof : Proof} {t : ProofType} {field : String} :
    field ∈ (proof.structuralFailures t).fields ↔ Broken proof t field := by
  rw [structuralFailures, Failures.mem_fields_ofOutcomes]
  simp only [List.mem_cons, Prod.mk.injEq, List.not_mem_nil, or_false]
  constructor
  · rintro ⟨e, ⟨rfl, he⟩ | ⟨rfl, he⟩ | ⟨rfl, he⟩⟩
    · exact .points (pointsOutcome_failed.mp ⟨e, he.symm⟩)
    · exact .length (lengthOutcome_failed.mp ⟨e, he.symm⟩)
    · exact .nullifier (nullifierOutcome_failed.mp ⟨e, he.symm⟩)
  · rintro (h | h | h)
    · obtain ⟨e, he⟩ := pointsOutcome_failed.mpr h
      exact ⟨e, .inl ⟨rfl, he.symm⟩⟩
    · obtain ⟨e, he⟩ := lengthOutcome_failed.mpr h
      exact ⟨e, .inr (.inl ⟨rfl, he.symm⟩)⟩
    · obtain ⟨e, he⟩ := nullifierOutcome_failed.mpr h
      exact ⟨e, .inr (.inr ⟨rfl, he.symm⟩)⟩

theorem nodup_structuralFailures (proof : Proof) (t : ProofType) :
    (proof.structuralFailures t).fields.Nodup := by
  have hd : [pointsField, signalsField, Signal.nullifier.path].Nodup := by decide +kernel
  exact (Failures.fields_ofOutcomes_sublist _).nodup hd

theorem structuralFailures_eq_nil {proof : Proof} {t : ProofType} :
    proof.structuralFailures t = [] ↔ ∀ field, ¬ Broken proof t field := by
  rw [← Failures.fields_eq_nil, List.eq_nil_iff_forall_not_mem]
  simp only [mem_structuralFailures]

theorem structuralFailures_ne_nil {proof : Proof} {t : ProofType} :
    proof.structuralFailures t ≠ [] ↔
      proof.LacksPoints ∨ proof.signals = [] ∨ proof.signals.length ≠ t.signalCount ∨
        proof.signal t .nullifier = "" := by
  rw [ne_eq, structuralFailures_eq_nil, Classical.not_forall_not]
  constructor
  · rintro ⟨field, h | h | h⟩
    · exact .inl h
    · exact .inr (or_assoc.mp (.inl h))
    · exact .inr (.inr (.inr h))
  · rintro (h | h | h | h)
    · exact ⟨_, .points h⟩
    · exact ⟨_, .length (.inl h)⟩
    · exact ⟨_, .length (.inr h)⟩
    · exact ⟨_, .nullifier h⟩

end IdentityProof.Proof
