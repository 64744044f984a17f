import IdentityProof.Proofs.Bn254.Twist
import IdentityProof.Proofs.Groth16.Encoding
import IdentityProof.Proofs.Groth16.Loading

/-! The points of the second group that keys and proofs may have. Nothing but the equation of the
twist is checked, so these are all of its points, and the order of the group alone does not take
them to infinity. -/

namespace IdentityProof

namespace Bn254

theorem Fp.ofInt_val (a : Fp) : ofInt a.val = a := by
  have hreduced : (a.val : Int) % (fieldSize : Int) = a.val :=
    Int.emod_eq_of_lt (Int.natCast_nonneg _) (Int.ofNat_lt.mpr a.lt)
  apply eq_of_val
  rw [ofInt, hreduced, Int.toNat_natCast]
  exact Nat.mod_eq_of_lt a.lt

namespace G2

/-- The point is infinite or on the twist, and the order of the group and the cofactor take it to
infinity. -/
structure IsOfTwist (p : G2) : Prop where
  isOn : p.IsOn twistConstant
  annihilated : (p.multiply (order * cofactor)).isInfinite = true

theorem exists_represents {p : G2} (h : p.IsOn twistConstant) :
    ∃ P : Twist, p.Represents Fp2.interpretation twistConstant.value P := by
  rcases h with hinfinite | ⟨x, y, rfl, hcurve⟩
  · exact ⟨0, .infinite ((Fp2.isZero_iff p.z).mp hinfinite)⟩
  · exact ⟨_, represents_ofAffine hcurve⟩

theorem isOfTwist {p : G2} (h : p.IsOn twistConstant) : p.IsOfTwist := by
  obtain ⟨P, hP⟩ := exists_represents h
  exact ⟨h, hP.isInfinite_multiply⟩

end G2
end Bn254

namespace Groth16

open Bn254

def rowsOf (x y : Fp2) : List (List String) :=
  [[toString x.re.val, toString x.im.val], [toString y.re.val, toString y.im.val]]

def jsonOfRows (rows : List (List String)) : Json :=
  .array (rows.map fun row => .array (row.map .text))

def origin : Json := .array [.text "0", .text "0"]

def keyOf (x y : Fp2) : Json :=
  .object [("vk_alpha_1", origin), ("vk_beta_2", jsonOfRows (rowsOf x y)),
    ("vk_gamma_2", jsonOfRows (rowsOf x y)), ("vk_delta_2", jsonOfRows (rowsOf x y)),
    ("IC", .array [origin])]

def pointsOf (x y : Fp2) : ProofPoints := { infinitePoints with b := rowsOf x y }

section Given

variable {x y : Fp2}

theorem begins_rowsOf :
    Meaning.Begins (jsonOfRows (rowsOf x y)) x.re.val x.im.val y.re.val y.im.val := by
  have hread {row : List String} {i : Nat} {a : Fp} (ht : row[i]? = some (toString a.val)) :
      Coordinate.readEntry (.array (row.map .text)) i = .ok (a.val : Int) :=
    readEntry_text ht (a.lt.trans (by decide))
  constructor
  · exact ⟨_, rfl, hread rfl, hread rfl⟩
  · exact ⟨_, rfl, hread rfl, hread rfl⟩

variable (h : y * y = x * x * x + twistConstant)
include h

theorem ofCoordinates?_twist :
    G2.ofCoordinates? x.re.val x.im.val y.re.val y.im.val = some (.ofAffine x y) := by
  simp only [G2.ofCoordinates?, Fp.ofInt_val]
  exact if_pos h

theorem not_origin :
    ¬ ((x.re.val : Int) = 0 ∧ (x.im.val : Int) = 0 ∧ (y.re.val : Int) = 0 ∧ (y.im.val : Int) = 0) := by
  rintro ⟨hx0, hx1, hy0, hy1⟩
  have hpoint := ofCoordinates?_twist h
  rw [hx0, hx1, hy0, hy1] at hpoint
  have hnone : G2.ofCoordinates? 0 0 0 0 = none := by decide +kernel
  exact nomatch hnone.symm.trans hpoint

theorem readPoint2_rowsOf :
    Coordinate.readPoint2 G1 (jsonOfRows (rowsOf x y)) = .ok (.ofAffine x y : G2) :=
  begins_rowsOf.readPoint (not_origin h) (ofCoordinates?_twist h)

theorem load_keyOf : VerifyingKey.load (.value (keyOf x y)) =
    .ok ({ infiniteKey 0 with
      beta := .ofAffine x y, gamma := .ofAffine x y, delta := .ofAffine x y } :
        VerifyingKey G1 G2) := by
  have hfirst : Coordinate.readPoint1 G2 origin = .ok (.infinity : G1) := rfl
  have hsecond := readPoint2_rowsOf h
  have hdata : (Fault.lift (VerifyingKey.jsonOf (.value (keyOf x y))) :
      Except (Raised OffCurve) Json) = .ok (keyOf x y) := rfl
  have halpha : (Fault.lift ((keyOf x y).key "vk_alpha_1") : Except (Raised OffCurve) Json) =
      .ok origin := rfl
  have hpoint {name : String} (hname : (keyOf x y).key name = .ok (jsonOfRows (rowsOf x y))) :
      (Fault.lift ((keyOf x y).key name) : Except (Raised OffCurve) Json) =
        .ok (jsonOfRows (rowsOf x y)) := congrArg Fault.lift hname
  have hentries : (Fault.lift (do (← (keyOf x y).key "IC").entries) :
      Except (Raised OffCurve) (List Json)) = .ok [origin] := rfl
  refine mapError_eq_ok.mpr ?_
  rw [hdata, ok_bind, VerifyingKey.ofJson, halpha, hentries, hpoint rfl, hpoint rfl, hpoint rfl]
  simp only [ok_bind, hfirst, hsecond, List.mapM_cons, List.mapM_nil]
  rfl

theorem readStatement_pointsOf : readStatement (pointsOf x y) [] =
    .ok ({ infiniteStatement [] with b := .ofAffine x y } : Statement G1 G2) := by
  have hfirst : Coordinate.readPoint1 G2 (.array ((pointsOf x y).a.map .text)) =
      .ok (.infinity : G1) := rfl
  have hsecond : Coordinate.readPoint2 G1 (.array ((pointsOf x y).b.map fun row =>
      .array (row.map .text))) = .ok (.ofAffine x y : G2) := readPoint2_rowsOf h
  have hthird : Coordinate.readPoint1 G2 (.array ((pointsOf x y).c.map .text)) =
      .ok (.infinity : G1) := rfl
  unfold readStatement
  rw [hfirst, hsecond, hthird]
  rfl

theorem verify_pointsOf :
    verify (infiniteKey 0) { points := some (pointsOf x y), signals := [] } = .ok () :=
  verify_of_infinite rfl rfl (readStatement_pointsOf h) ⟨rfl, rfl, rfl⟩ (.inl rfl) rfl rfl

end Given

theorem isOfTwist_readPoint2 {value : Json} {p : G2}
    (h : Coordinate.readPoint2 G1 value = .ok p) : p.IsOfTwist :=
  G2.isOfTwist (Coordinate.isOn_readPoint2 h)

theorem exists_second_of_verify {key : VerifyingKey G1 G2} {proof : Proof}
    (h : verify key proof = .ok ()) :
    ∃ (points : ProofPoints) (b : G2), proof.points = some points ∧
      Coordinate.readPoint2 G1 (jsonOfRows points.b) = .ok b := by
  obtain ⟨points, st, hpoints, hread, -⟩ := verify_eq_ok h
  obtain ⟨_, -, hread⟩ := bind_eq_ok.mp hread
  obtain ⟨b, hb, -⟩ := bind_eq_ok.mp hread
  exact ⟨points, b, hpoints, hb⟩

end Groth16

open Bn254 Groth16

/-- What is read as a point of the second group is of the twist, in a key that loads and in a proof
that is accepted as elsewhere. Conversely each finite point of the twist is read, and there are a
key that loads with it and a proof with it that is accepted. -/
theorem admitted_of_twist :
    (∀ (value : Json) (p : G2), Coordinate.readPoint2 G1 value = .ok p → p.IsOfTwist) ∧
    (∀ (source : Source) (key : VerifyingKey G1 G2), VerifyingKey.load source = .ok key →
      key.beta.IsOfTwist ∧ key.gamma.IsOfTwist ∧ key.delta.IsOfTwist) ∧
    (∀ (key : VerifyingKey G1 G2) (proof : Proof), verify key proof = .ok () →
      ∃ (points : ProofPoints) (b : G2), proof.points = some points ∧
        Coordinate.readPoint2 G1 (jsonOfRows points.b) = .ok b ∧ b.IsOfTwist) ∧
    (∀ x y : Fp2, y * y = x * x * x + twistConstant →
      (∃ value, Coordinate.readPoint2 G1 value = .ok (.ofAffine x y : G2)) ∧
      (∃ (source : Source) (key : VerifyingKey G1 G2), VerifyingKey.load source = .ok key ∧
        key.beta = .ofAffine x y ∧ key.gamma = .ofAffine x y ∧ key.delta = .ofAffine x y) ∧
      ∃ (key : VerifyingKey G1 G2) (proof : Proof) (points : ProofPoints),
        verify key proof = .ok () ∧ proof.points = some points ∧
          Coordinate.readPoint2 G1 (jsonOfRows points.b) = .ok (.ofAffine x y : G2)) := by
  refine ⟨fun value p => isOfTwist_readPoint2, fun source key h => ?_, fun key proof h => ?_,
    fun x y h => ⟨?_, ?_, ?_⟩⟩
  · have hcurves := VerifyingKey.isOnCurves_load h
    exact ⟨G2.isOfTwist hcurves.beta, G2.isOfTwist hcurves.gamma, G2.isOfTwist hcurves.delta⟩
  · obtain ⟨points, b, hpoints, hb⟩ := exists_second_of_verify h
    exact ⟨points, b, hpoints, hb, isOfTwist_readPoint2 hb⟩
  · exact ⟨_, readPoint2_rowsOf h⟩
  · exact ⟨_, _, load_keyOf h, rfl, rfl, rfl⟩
  · exact ⟨_, _, _, verify_pointsOf h, rfl, readPoint2_rowsOf h⟩

/-! A point of the twist that is not of the group. -/

def strayX : Fp2 := ⟨.ofNat 1, .ofNat 0⟩

def strayY : Fp2 where
  re := .ofNat 18278151005453108793778860132295291098363647455926340152056652516292830556603
  im := .ofNat 5912654199736721486680175016176231956195085055698687135131307249486702594212

theorem stray_of_twist : strayY * strayY = strayX * strayX * strayX + twistConstant := by
  decide +kernel

theorem stray_points_of_twist :
    (∃ (source : Source) (key : VerifyingKey G1 G2), VerifyingKey.load source = .ok key ∧
      key.beta = .ofAffine strayX strayY ∧ key.beta.IsOfTwist) ∧
    (∃ (key : VerifyingKey G1 G2) (proof : Proof), verify key proof = .ok () ∧
      ∃ (points : ProofPoints) (b : G2), proof.points = some points ∧
        Coordinate.readPoint2 G1 (jsonOfRows points.b) = .ok b ∧ b.IsOfTwist) ∧
    G2.IsOfTwist (.ofAffine strayX strayY) := by
  obtain ⟨hread, hkey, hproof, hall⟩ := admitted_of_twist
  obtain ⟨⟨value, hvalue⟩, ⟨source, key, hload, hbeta, -⟩, ⟨other, proof, -, hverify, -⟩⟩ :=
    hall strayX strayY stray_of_twist
  exact ⟨⟨source, key, hload, hbeta, (hkey source key hload).1⟩,
    ⟨other, proof, hverify, hproof other proof hverify⟩, hread value _ hvalue⟩

/-- It is read, it is in a key that loads and in a proof that is accepted, and the order of the
group does not take it to infinity. -/
theorem stray_admitted :
    Coordinate.readPoint2 G1 (jsonOfRows (rowsOf strayX strayY)) =
      .ok (.ofAffine strayX strayY : G2) ∧
    (∃ key : VerifyingKey G1 G2, VerifyingKey.load (.value (keyOf strayX strayY)) = .ok key ∧
      key.beta = .ofAffine strayX strayY) ∧
    verify (infiniteKey 0) { points := some (pointsOf strayX strayY), signals := [] } = .ok () ∧
    ((Point.ofAffine strayX strayY : G2).multiply order).isInfinite = false :=
  ⟨readPoint2_rowsOf stray_of_twist, ⟨_, load_keyOf stray_of_twist, rfl⟩,
    verify_pointsOf stray_of_twist, by decide +kernel⟩

end IdentityProof
