import IdentityProof.Proofs.Groth16.Exponents

/-! The equation that is decided: keys and proofs whose points are given by the coordinates of
multiples of the generators are accepted exactly when the equation holds between the factors, for
signals that are scalars and as many as the key expects. -/

namespace IdentityProof.Groth16

/-- The equation between the factors, modulo the order of the groups. -/
def Equation (k : KeyFactors) (p : ProofFactors) (signals : List Int) : Prop :=
  p.a * p.b ≡ k.alpha * k.beta +
      (k.constant + (List.zipWith (· * ·) signals k.inputs).sum) * k.gamma + p.c * k.delta
    [ZMOD Bn254.order]

instance (k : KeyFactors) (p : ProofFactors) (signals : List Int) :
    Decidable (Equation k p signals) :=
  inferInstanceAs (Decidable (Int.ModEq _ _ _))

theorem firstOutOfField?_eq_none {st : List Int} : firstOutOfField? Bn254.order st = none ↔
    ∀ s ∈ st, 0 ≤ s ∧ s < (Bn254.order : Int) := by
  rw [firstOutOfField?, List.findIdx?_eq_none_iff]
  simp

variable {M1 M2 T : Type} [AddCommGroup M1] [AddCommGroup M2] [AddCommGroup T]
  {G1 G2 : Type} [PairingGroups G1 G2] {g : PairedGroups M1 M2 T}

namespace Meaning

variable {m : Meaning g G1 G2}

theorem decideStatement_iff {key : VerifyingKey G1 G2} {st : Statement G1 G2} {k : KeyFactors}
    {p : ProofFactors} (hkey : m.IsKey key k) (hst : m.IsStatement st p) :
    decideStatement key st = .ok () ↔ st.signals.length = k.inputs.length ∧
      (∀ s ∈ st.signals, 0 ≤ s ∧ s < (Bn254.order : Int)) ∧ Equation k p st.signals := by
  obtain ⟨first, rest, hfirst, hrest, hinputs⟩ := List.forall₂_cons_right_iff.mp hkey.inputs
  have hlength : key.inputs.length = k.inputs.length + 1 := hkey.inputs.length_eq
  unfold decideStatement
  rw [hlength, m.order_eq]
  by_cases hcount : st.signals.length = k.inputs.length
  · rw [if_neg (by omega), and_iff_right hcount, ← firstOutOfField?_eq_none]
    cases hfield : firstOutOfField? Bn254.order st.signals with
    | some index => exact iff_of_false nofun (fun h => nomatch h.1)
    | none =>
      obtain ⟨x, hx, his⟩ := hfirst.combine hrest (st.signals.map Int.toNat)
      have hcast : (st.signals.map Int.toNat).map Nat.cast = st.signals := by
        rw [List.map_map]
        exact (List.map_congr_left fun s hs =>
          Int.toNat_of_nonneg (firstOutOfField?_eq_none.mp hfield s hs).1).trans (List.map_id _)
      rw [hcast] at his
      rw [hinputs, hx, and_iff_right rfl, Equation, ← m.isBalanced_iff hst.a hst.b hst.c hkey.alpha
        hkey.beta hkey.gamma hkey.delta his]
      cases hbalanced : isBalanced key x st with
      | true => exact iff_of_true (by simp only [hbalanced, if_true]) rfl
      | false => exact iff_of_false (by simp [hbalanced]) nofun
  · rw [if_pos (by omega)]
    exact iff_of_false nofun fun h => hcount h.1

end Meaning

/-- A key and a proof that are given by the coordinates of multiples of the generators are accepted
exactly when there are as many signals as the key expects, each signal is a scalar, and the equation
holds. Everything else is refused. -/
theorem verifyBy_iff (m : Meaning g G1 G2) {source : Source} {data : Json} {proof : Proof}
    {points : ProofPoints} {k : KeyFactors} {p : ProofFactors} {signals : List Int}
    (hdata : VerifyingKey.jsonOf source = .ok data) (hkey : m.EncodesKey data k)
    (hgiven : proof.points = some points) (hpoints : m.EncodesPoints points p)
    (hsignals : List.Forall₂ Spells proof.signals signals) :
    (verifyBy G1 G2 source proof = .ok () ↔ signals.length = k.inputs.length ∧
      (∀ s ∈ signals, 0 ≤ s ∧ s < (Bn254.order : Int)) ∧ Equation k p signals) ∧
    (verifyBy G1 G2 source proof ≠ .ok () →
      ∃ e, verifyBy G1 G2 source proof = .error (.refused e)) := by
  obtain ⟨key, hload, hkey⟩ := hkey.load hdata
  have hverifyBy : verifyBy G1 G2 source proof = (verify key proof).mapError .refused := by
    rw [verifyBy, hload]
    rfl
  have hverify : verify key proof =
      (readStatement points proof.signals).mapError .badProof >>= decideStatement key := by
    simp only [verify, hgiven, hpoints.isEmpty, Bool.false_eq_true, if_false]
  rw [hverifyBy, mapError_eq_ok]
  constructor
  · rw [hverify]
    rcases mapM_readInteger_of_spells hsignals with hread | ⟨herror, hoff⟩
    · obtain ⟨st, hst, his, rfl⟩ := hpoints.readStatement hread
      rw [hst]
      exact Meaning.decideStatement_iff hkey his
    · have hfails : IsError (readStatement points proof.signals : Except _ (Statement G1 G2)) :=
        isError_readStatement herror
      obtain ⟨why, hwhy⟩ := hfails
      rw [hwhy]
      exact iff_of_false nofun fun h => hoff h.2.1
  · intro hne
    cases hresult : verify key proof with
    | ok u => exact absurd (mapError_eq_ok.mpr hresult) hne
    | error e => exact ⟨e, rfl⟩

namespace Exponent

def smallKey : Json := .object [
  ("vk_alpha_1", .array ((texts1 2).map .text)),
  ("vk_beta_2", .array ((texts2 3).map fun row => .array (row.map .text))),
  ("vk_gamma_2", .array ((texts2 1).map fun row => .array (row.map .text))),
  ("vk_delta_2", .array ((texts2 1).map fun row => .array (row.map .text))),
  ("IC", .array ([1, 2, 0].map fun k => .array ((texts1 k).map .text)))]

def smallFactors : KeyFactors where
  alpha := 2
  beta := 3
  gamma := 1
  delta := 1
  constant := 1
  inputs := [2, 0]

theorem encodesKey_small : meaning.EncodesKey smallKey smallFactors where
  alpha := ⟨_, rfl, encodes1 (by decide : 2 < bound)⟩
  beta := ⟨_, rfl, encodes2 (by decide : 3 < bound)⟩
  gamma := ⟨_, rfl, encodes2 (by decide : 1 < bound)⟩
  delta := ⟨_, rfl, encodes2 (by decide : 1 < bound)⟩
  inputs := ⟨_, _, rfl, rfl, .cons (encodes1 (by decide : 1 < bound))
    (.cons (encodes1 (by decide : 2 < bound)) (.cons (encodes1 (by decide : 0 < bound)) .nil))⟩

def smallPoints : ProofPoints where
  a := texts1 4
  b := texts2 5
  c := texts1 3
  protocol := .text "groth16"

def smallProof (signals : List String) : Proof where
  points := some smallPoints
  signals := signals

theorem encodesPoints_small : meaning.EncodesPoints smallPoints { a := 4, b := 5, c := 3 } where
  a := encodes1 (by decide : 4 < bound)
  b := encodes2 (by decide : 5 < bound)
  c := encodes1 (by decide : 3 < bound)

theorem small_proof_decided :
    verifyBy Exponent Exponent (.value smallKey) (smallProof ["5", "0"]) = .ok () ∧
      ∃ e, verifyBy Exponent Exponent (.value smallKey) (smallProof ["6", "0"]) =
        .error (.refused e) := by
  have hdata : VerifyingKey.jsonOf (.value smallKey) = .ok smallKey := rfl
  have hfive : List.Forall₂ Spells (smallProof ["5", "0"]).signals [5, 0] :=
    .cons (.inl rfl) (.cons (.inl rfl) .nil)
  have hsix : List.Forall₂ Spells (smallProof ["6", "0"]).signals [6, 0] :=
    .cons (.inl rfl) (.cons (.inl rfl) .nil)
  have haccepted := verifyBy_iff meaning hdata encodesKey_small rfl encodesPoints_small hfive
  have hrefused := verifyBy_iff meaning hdata encodesKey_small rfl encodesPoints_small hsix
  refine ⟨haccepted.1.mpr (by decide), hrefused.2 fun h => ?_⟩
  exact absurd (hrefused.1.mp h) (by decide)

end Exponent
end IdentityProof.Groth16
