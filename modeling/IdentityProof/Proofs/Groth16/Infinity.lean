import IdentityProof.Proofs.Groth16.Values

/-! Keys at infinity. A key whose points of the second group are infinite accepts every proof one of
whose first two points is infinite, provided that its signals are scalars and as many as the key
expects. -/

namespace IdentityProof

namespace Bn254

theorem powerFrom_of_idempotent {F : Type} [Mul F] {e : F} (he : e * e = e) (fuel n : Nat) :
    powerFrom fuel e n e = e := by
  induction fuel generalizing n with
  | zero => rfl
  | succ fuel ih =>
    unfold powerFrom
    split
    · rfl
    · rw [he, ite_self, ih]

theorem Fp12.one_mul_one : Fp12.one * Fp12.one = Fp12.one := by decide

theorem millerOf?_of_infinite {p : G1} {q : G2} (h : p.isInfinite = true ∨ q.isInfinite = true) :
    millerOf? p q = some Fp12.one := by
  by_cases hq : q.isInfinite = true
  · exact if_pos hq
  · have hp : G1.affine? p = none := if_pos (h.resolve_right hq)
    unfold millerOf?
    rw [if_neg hq, hp]

theorem pairingProductIsOne_of_infinite {pairs : List (G1 × G2)}
    (h : ∀ pair ∈ pairs, pair.1.isInfinite = true ∨ pair.2.isInfinite = true) :
    pairingProductIsOne pairs = true := by
  have hproduct : pairs.foldlM (fun product pair => (millerOf? pair.1 pair.2).map (product * ·))
      Fp12.one = some Fp12.one := by
    induction pairs with
    | nil => rfl
    | cons pair pairs ih =>
      obtain ⟨p, q⟩ := pair
      have hpair := millerOf?_of_infinite (h (p, q) List.mem_cons_self)
      simp only [List.foldlM_cons, hpair, Option.map_some, Fp12.one_mul_one]
      exact ih fun q hq => h q (List.mem_cons_of_mem _ hq)
  unfold pairingProductIsOne
  split
  · rename_i hnone
    exact nomatch hproduct.symm.trans hnone
  · rename_i product hsome
    obtain rfl : Fp12.one = product := Option.some.inj (hproduct.symm.trans hsome)
    exact decide_eq_true (powerFrom_of_idempotent Fp12.one_mul_one _ _)

end Bn254

namespace Groth16

open Bn254

def AtInfinity (key : VerifyingKey G1 G2) : Prop :=
  key.beta.isInfinite = true ∧ key.gamma.isInfinite = true ∧ key.delta.isInfinite = true

theorem decideStatement_of_infinite {key : VerifyingKey G1 G2} {st : Statement G1 G2}
    (hkey : AtInfinity key) (hproof : st.a.isInfinite = true ∨ st.b.isInfinite = true)
    (hlen : key.inputs.length = st.signals.length + 1)
    (hfield : firstOutOfField? order st.signals = none) : decideStatement key st = .ok () := by
  obtain ⟨first, rest, hinputs⟩ := List.exists_cons_of_length_eq_add_one hlen
  have hfield' : firstOutOfField? (PairingGroups.order G1 G2) st.signals = none := hfield
  have hbalanced (x : G1) : isBalanced key x st = true := by
    refine pairingProductIsOne_of_infinite fun pair hp => ?_
    obtain ⟨hbeta, hgamma, hdelta⟩ := hkey
    simp only [List.mem_cons, List.not_mem_nil, or_false] at hp
    rcases hp with rfl | rfl | rfl | rfl
    · exact hproof
    · exact .inr hbeta
    · exact .inr hgamma
    · exact .inr hdelta
  unfold decideStatement
  rw [if_neg (fun hne => hne hlen), hfield']
  simp only [combine?, hinputs, List.head?_cons, Option.map_some, hbalanced, if_true]

theorem verify_of_infinite {key : VerifyingKey G1 G2} {proof : Proof} {points : ProofPoints}
    {st : Statement G1 G2} (hp : proof.points = some points) (hgiven : points.isEmpty = false)
    (hst : readStatement points proof.signals = .ok st) (hkey : AtInfinity key)
    (hproof : st.a.isInfinite = true ∨ st.b.isInfinite = true)
    (hlen : key.inputs.length = st.signals.length + 1)
    (hfield : firstOutOfField? order st.signals = none) : verify key proof = .ok () := by
  unfold verify
  simp only [hp, hgiven, hst, Bool.false_eq_true, if_false]
  exact decideStatement_of_infinite hkey hproof hlen hfield

def infiniteKey (signals : Nat) : VerifyingKey G1 G2 where
  alpha := .infinity
  beta := .infinity
  gamma := .infinity
  delta := .infinity
  inputs := List.replicate (signals + 1) .infinity

def infinitePoints : ProofPoints where
  a := ["0", "0"]
  b := [["0", "0"], ["0", "0"]]
  c := ["0", "0"]
  protocol := .text "groth16"

def infiniteStatement (signals : List Int) : Statement G1 G2 where
  a := .infinity
  b := .infinity
  c := .infinity
  signals := signals

theorem readStatement_infinitePoints {signals : List String} {ns : List Int}
    (h : signals.mapM readInteger = .ok ns) :
    readStatement infinitePoints signals = .ok (infiniteStatement ns) := by
  have ha : Coordinate.readPoint1 G2 (.array (infinitePoints.a.map .text)) =
      .ok (.infinity : G1) := rfl
  have hb : Coordinate.readPoint2 G1 (.array (infinitePoints.b.map fun row =>
      .array (row.map .text))) = .ok (.infinity : G2) := rfl
  have hc : Coordinate.readPoint1 G2 (.array (infinitePoints.c.map .text)) =
      .ok (.infinity : G1) := rfl
  unfold readStatement
  rw [ha, hb, hc, h]
  rfl

theorem verify_infiniteKey {proof : Proof} {ns : List Int} {count : Nat}
    (hp : proof.points = some infinitePoints) (h : proof.signals.mapM readInteger = .ok ns)
    (hlen : ns.length = count) (hfield : firstOutOfField? order ns = none) :
    verify (infiniteKey count) proof = .ok () :=
  verify_of_infinite hp rfl (readStatement_infinitePoints h) ⟨rfl, rfl, rfl⟩ (.inr rfl)
    (hlen ▸ List.length_replicate) hfield

end Groth16
end IdentityProof
