import IdentityProof.Groth16.Verify
import IdentityProof.Proofs.Signal.Decimal
import IdentityProof.Proofs.Signal.Layout
import IdentityProof.Verification.Structure

/-! The integers that the equation is decided on, by the signals that they are read from. -/

namespace IdentityProof

theorem mapM_getElem? {f : α → Except ε β} {l : List α} {r : List β} (h : l.mapM f = .ok r)
    {i : Nat} {a : α} (ha : l[i]? = some a) : ∃ b, f a = .ok b ∧ r[i]? = some b := by
  induction l generalizing r i with
  | nil => exact nomatch ha
  | cons x xs ih =>
    rw [List.mapM_cons] at h
    obtain ⟨b, hb, h⟩ := bind_eq_ok.mp h
    obtain ⟨rest, hrest, h⟩ := bind_eq_ok.mp h
    obtain rfl := pure_eq_ok.mp h
    cases i with
    | zero =>
      obtain rfl : x = a := Option.some.inj ha
      exact ⟨b, hb, rfl⟩
    | succ i => exact ih hrest ha

theorem mapM_set {f : α → Except ε β} {l : List α} {i : Nat} {a b : α} (ha : l[i]? = some a)
    (h : f b = f a) : (l.set i b).mapM f = l.mapM f := by
  induction l generalizing i with
  | nil => rfl
  | cons x xs ih =>
    cases i with
    | zero =>
      obtain rfl : x = a := Option.some.inj ha
      rw [List.set_cons_zero, List.mapM_cons, List.mapM_cons, h]
    | succ i => rw [List.set_cons_succ, List.mapM_cons, List.mapM_cons, ih ha]

namespace Groth16

variable {G1 G2 : Type} [PairingGroups G1 G2]

def Statement.value (st : Statement G1 G2) (t : ProofType) (s : Signal) : Option Int :=
  (t.index? s).bind (st.signals[·]?)

theorem readStatement_signals {points : ProofPoints} {signals : List String} {st : Statement G1 G2}
    (h : readStatement points signals = .ok st) : signals.mapM readInteger = .ok st.signals := by
  obtain ⟨a, -, h⟩ := bind_eq_ok.mp h
  obtain ⟨b, -, h⟩ := bind_eq_ok.mp h
  obtain ⟨c, -, h⟩ := bind_eq_ok.mp h
  obtain ⟨ns, hs, h⟩ := bind_eq_ok.mp h
  obtain rfl := pure_eq_ok.mp h
  exact Fault.lift_eq_ok.mp hs

theorem value_of_ne_empty {points : ProofPoints} {proof : Proof} {st : Statement G1 G2}
    {t : ProofType} {s : Signal} (h : readStatement points proof.signals = .ok st) (hne : proof.signal t s ≠ "") :
    ∃ n, readInteger (proof.signal t s) = .ok n ∧ st.value t s = some n := by
  obtain ⟨i, hi, hs⟩ := ProofType.index?_of_signal_ne_empty hne
  obtain ⟨n, hn, hv⟩ := mapM_getElem? (readStatement_signals h) hs
  refine ⟨n, hn, ?_⟩
  rw [Statement.value, hi]
  exact hv

theorem verify_eq_ok {key : VerifyingKey G1 G2} {proof : Proof} (h : verify key proof = .ok ()) :
    ∃ points st, proof.points = some points ∧ readStatement points proof.signals = .ok st ∧
      decideStatement key st = .ok () := by
  unfold verify at h
  cases hp : proof.points with
  | none =>
    rw [hp] at h
    exact nomatch h
  | some points =>
    simp only [hp] at h
    split at h
    · exact nomatch h
    · obtain ⟨st, hst, hd⟩ := bind_eq_ok.mp h
      exact ⟨points, st, rfl, mapError_eq_ok.mp hst, hd⟩

theorem verify_congr {key : VerifyingKey G1 G2} {proof other : Proof}
    (hp : proof.points = other.points)
    (hs : proof.signals.mapM readInteger = other.signals.mapM readInteger) :
    verify key proof = verify key other := by
  unfold verify readStatement
  rw [hp, hs]

theorem scalar_of_decideStatement {key : VerifyingKey G1 G2} {st : Statement G1 G2} {n : Int}
    (h : decideStatement key st = .ok ()) (hn : n ∈ st.signals) :
    0 ≤ n ∧ n < (PairingGroups.order G1 G2 : Int) := by
  unfold decideStatement at h
  split at h
  · exact nomatch h
  · split at h
    · exact nomatch h
    · rename_i hfield
      have hinside := List.findIdx?_eq_none_iff.mp hfield n hn
      simpa using hinside

theorem verify_signals {key : VerifyingKey G1 G2} {proof : Proof} (h : verify key proof = .ok ()) :
    ∃ ns, proof.signals.mapM readInteger = .ok ns ∧
      ∀ n ∈ ns, 0 ≤ n ∧ n < (PairingGroups.order G1 G2 : Int) := by
  obtain ⟨points, st, -, hst, hd⟩ := verify_eq_ok h
  exact ⟨st.signals, readStatement_signals hst, fun _ hn => scalar_of_decideStatement hd hn⟩

end Groth16
end IdentityProof
