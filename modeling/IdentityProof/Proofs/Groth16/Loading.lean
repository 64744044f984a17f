import IdentityProof.Proofs.Groth16.Infinity
import IdentityProof.Proofs.Json.Faults
import IdentityProof.Verifier

/-! Keys and proofs of any shape. Whatever stands where a coordinate is looked for, a key has its
points on their curves or is refused, and a proof is decided or refused. The only fault is that of a
text which is nested too deep to be read. -/

namespace IdentityProof

open FaultKind (SpoilsProof SpoilsKey)

theorem mem_of_mapM {f : α → Except ε β} {as : List α} {bs : List β} (h : as.mapM f = .ok bs)
    {b : β} (hb : b ∈ bs) : ∃ a ∈ as, f a = .ok b := by
  induction as generalizing bs with
  | nil =>
    obtain rfl := pure_eq_ok.mp h
    exact nomatch hb
  | cons a as ih =>
    rw [List.mapM_cons] at h
    obtain ⟨c, hc, h⟩ := bind_eq_ok.mp h
    obtain ⟨cs, hcs, h⟩ := bind_eq_ok.mp h
    obtain rfl := pure_eq_ok.mp h
    rcases List.mem_cons.mp hb with rfl | hb
    · exact ⟨a, List.mem_cons_self, hc⟩
    · obtain ⟨other, hother, hf⟩ := ih hcs hb
      exact ⟨other, List.mem_cons_of_mem _ hother, hf⟩

namespace Bn254.Point

variable {F : Type} [CoordinateField F]

def IsOn (constant : F) (p : Point F) : Prop :=
  p.isInfinite = true ∨ ∃ x y, p = ofAffine x y ∧ y * y = x * x * x + constant

end Bn254.Point

namespace Coordinate

theorem faultsIn_readInteger (text : String) : FaultsIn SpoilsProof (readInteger text) :=
  .mapError fun _ _ => FaultKind.spoilsProof_badValue

theorem faultsIn_read (value : Json) : FaultsIn SpoilsProof (read value) := by
  unfold read
  split
  · exact .ok
  · exact .ok
  · exact (Json.faultsIn_shown value).bind fun text _ => faultsIn_readInteger text

section Kinds

variable {kinds : FaultKind → Prop} (hproof : ∀ kind, SpoilsProof kind → kinds kind)
include hproof

theorem faultsIn_entry_of {value : Json} (hkey : value.kind = .object → kinds .noKey) (i : Nat) :
    FaultsIn kinds (value.entry i) :=
  Json.faultsIn_entry (hproof _ FaultKind.spoilsProof_noIndex)
    (hproof _ FaultKind.spoilsProof_wrongType) hkey i

theorem faultsIn_readEntry {value : Json} (hkey : value.kind = .object → kinds .noKey) (i : Nat) :
    FaultsIn kinds (readEntry value i) :=
  (faultsIn_entry_of hproof hkey i).bind fun entry _ => (faultsIn_read entry).mono hproof

variable {G1 G2 : Type} [PairingGroups G1 G2]

theorem raisesIn_readPoint1 {value : Json} (hkey : value.kind = .object → kinds .noKey) :
    RaisesIn kinds (readPoint1 G2 value : Except _ G1) := by
  have hentry (i : Nat) : RaisesIn kinds
      (Fault.lift (readEntry value i) : Except (Raised OffCurve) Int) :=
    .lift (faultsIn_readEntry hproof hkey i)
  unfold readPoint1
  refine (hentry 0).bind fun x _ => (hentry 1).bind fun y _ => ?_
  split
  · exact .ok
  · split
    · exact .ok
    · exact .refused

theorem raisesIn_readPoint2 {value : Json} (hkey : value.kind = .object → kinds .noKey)
    (hrows : ∀ i row, value.entry i = .ok row → row.kind = .object → kinds .noKey) :
    RaisesIn kinds (readPoint2 G1 value : Except _ G2) := by
  have hpart (i j : Nat) : RaisesIn kinds (Fault.lift (do readEntry (← value.entry i) j) :
      Except (Raised OffCurve) Int) :=
    .lift ((faultsIn_entry_of hproof hkey i).bind fun row hrow =>
      faultsIn_readEntry hproof (hrows i row hrow) j)
  unfold readPoint2
  refine (hpart 0 0).bind fun x0 _ => (hpart 0 1).bind fun x1 _ =>
    (hpart 1 0).bind fun y0 _ => (hpart 1 1).bind fun y1 _ => ?_
  split
  · exact .ok
  · split
    · exact .ok
    · exact .refused

end Kinds

open Bn254 in
theorem isOn_readPoint1 {value : Json} {p : G1} (h : readPoint1 G2 value = .ok p) :
    p.IsOn (Fp.ofNat 3) := by
  obtain ⟨x, -, h⟩ := bind_eq_ok.mp h
  obtain ⟨y, -, h⟩ := bind_eq_ok.mp h
  split at h
  · obtain rfl := pure_eq_ok.mp h
    exact .inl rfl
  · split at h
    · rename_i q hq
      obtain rfl := pure_eq_ok.mp h
      have hsome : G1.ofCoordinates? x y = some q := hq
      unfold G1.ofCoordinates? at hsome
      simp only at hsome
      split at hsome
      · rename_i hcurve
        exact .inr ⟨_, _, (Option.some.inj hsome).symm, hcurve⟩
      · exact nomatch hsome
    · exact nomatch h

open Bn254 in
theorem isOn_readPoint2 {value : Json} {p : G2} (h : readPoint2 G1 value = .ok p) :
    p.IsOn twistConstant := by
  obtain ⟨x0, -, h⟩ := bind_eq_ok.mp h
  obtain ⟨x1, -, h⟩ := bind_eq_ok.mp h
  obtain ⟨y0, -, h⟩ := bind_eq_ok.mp h
  obtain ⟨y1, -, h⟩ := bind_eq_ok.mp h
  split at h
  · obtain rfl := pure_eq_ok.mp h
    exact .inl rfl
  · split at h
    · rename_i q hq
      obtain rfl := pure_eq_ok.mp h
      have hsome : G2.ofCoordinates? x0 x1 y0 y1 = some q := hq
      unfold G2.ofCoordinates? at hsome
      simp only at hsome
      split at hsome
      · rename_i hcurve
        exact .inr ⟨_, _, (Option.some.inj hsome).symm, hcurve⟩
      · exact nomatch hsome
    · exact nomatch h

end Coordinate

/-! ## Keys -/

theorem Groth16Error.ofKey_fault {f : Fault} (h : f.kind.SpoilsKey) :
    ofKey (.fault f) = .refused (.badKey f) := by
  have hcaught : (f.kind.isValue || f.kind = .noKey || f.kind = .noIndex ||
      f.kind = .wrongType) = true := by
    simp only [Bool.or_eq_true, decide_eq_true_eq]
    rcases h with (hvalue | hindex | htype) | hkey
    · exact .inl (.inl (.inl hvalue))
    · exact .inl (.inr hindex)
    · exact .inr htype
    · exact .inl (.inl (.inr hkey))
  exact if_pos hcaught

namespace VerifyingKey

section Refused

variable {G1 G2 : Type} [PairingGroups G1 G2]

theorem raisesIn_ofJson (data : Json) :
    RaisesIn SpoilsKey (ofJson data : Except _ (VerifyingKey G1 G2)) := by
  have hkey (name : String) : RaisesIn SpoilsKey
      (Fault.lift (data.key name) : Except (Raised OffCurve) Json) := .lift (data.faultsIn_key name)
  have hfirst (value : Json) : RaisesIn SpoilsKey (Coordinate.readPoint1 G2 value : Except _ G1) :=
    Coordinate.raisesIn_readPoint1 (fun _ => .inl) fun _ => .inr rfl
  have hsecond (value : Json) : RaisesIn SpoilsKey (Coordinate.readPoint2 G1 value : Except _ G2) :=
    Coordinate.raisesIn_readPoint2 (fun _ => .inl) (fun _ => .inr rfl) fun _ _ _ _ => .inr rfl
  unfold ofJson
  refine (hkey _).bind fun alpha _ => (hfirst alpha).bind fun _ _ => ?_
  refine (hkey _).bind fun beta _ => (hsecond beta).bind fun _ _ => ?_
  refine (hkey _).bind fun gamma _ => (hsecond gamma).bind fun _ _ => ?_
  refine (hkey _).bind fun delta _ => (hsecond delta).bind fun _ _ => ?_
  have hentries : RaisesIn SpoilsKey (Fault.lift (do (← data.key "IC").entries) :
      Except (Raised OffCurve) (List Json)) :=
    .lift ((data.faultsIn_key "IC").bind fun inputs _ => inputs.faultsIn_entries)
  exact hentries.bind fun entries _ =>
    (RaisesIn.mapM fun entry _ => hfirst entry).bind fun _ _ => .ok

theorem faultsIn_jsonOf {source : Source} (h : source.IsShallow) :
    FaultsIn SpoilsKey (jsonOf source) := by
  unfold jsonOf
  split
  · exact .ok
  · exact (Source.faultsIn_read h).mono fun _ => .inl

variable (G1 G2) in
theorem load_cases {source : Source} (h : source.IsShallow) :
    (∃ key : VerifyingKey G1 G2, load source = .ok key) ∨
      ∃ why, (load source : Except _ (VerifyingKey G1 G2)) = .error (.refused why) := by
  have hread : RaisesIn SpoilsKey (Fault.lift (jsonOf source) >>= ofJson :
      Except (Raised OffCurve) (VerifyingKey G1 G2)) :=
    (RaisesIn.lift (faultsIn_jsonOf h)).bind fun data _ => raisesIn_ofJson data
  unfold load
  cases hall : (Fault.lift (jsonOf source) >>= ofJson :
      Except (Raised OffCurve) (VerifyingKey G1 G2)) with
  | ok key => exact .inl ⟨key, rfl⟩
  | error e =>
    right
    cases e with
    | refused which => exact ⟨_, rfl⟩
    | fault f => exact ⟨_, congrArg Except.error (Groth16Error.ofKey_fault (hread f hall))⟩

end Refused

open Bn254

structure IsOnCurves (key : VerifyingKey G1 G2) : Prop where
  alpha : key.alpha.IsOn (Fp.ofNat 3)
  beta : key.beta.IsOn twistConstant
  gamma : key.gamma.IsOn twistConstant
  delta : key.delta.IsOn twistConstant
  inputs : ∀ p ∈ key.inputs, p.IsOn (Fp.ofNat 3)

theorem isOnCurves_ofJson {data : Json} {key : VerifyingKey G1 G2} (h : ofJson data = .ok key) :
    key.IsOnCurves := by
  obtain ⟨_, -, h⟩ := bind_eq_ok.mp h
  obtain ⟨alpha, halpha, h⟩ := bind_eq_ok.mp h
  obtain ⟨_, -, h⟩ := bind_eq_ok.mp h
  obtain ⟨beta, hbeta, h⟩ := bind_eq_ok.mp h
  obtain ⟨_, -, h⟩ := bind_eq_ok.mp h
  obtain ⟨gamma, hgamma, h⟩ := bind_eq_ok.mp h
  obtain ⟨_, -, h⟩ := bind_eq_ok.mp h
  obtain ⟨delta, hdelta, h⟩ := bind_eq_ok.mp h
  obtain ⟨entries, -, h⟩ := bind_eq_ok.mp h
  obtain ⟨inputs, hinputs, h⟩ := bind_eq_ok.mp h
  obtain rfl := pure_eq_ok.mp h
  refine ⟨Coordinate.isOn_readPoint1 halpha, Coordinate.isOn_readPoint2 hbeta,
    Coordinate.isOn_readPoint2 hgamma, Coordinate.isOn_readPoint2 hdelta, fun p hp => ?_⟩
  obtain ⟨entry, -, hentry⟩ := mem_of_mapM hinputs hp
  exact Coordinate.isOn_readPoint1 hentry

theorem isOnCurves_load {source : Source} {key : VerifyingKey G1 G2} (h : load source = .ok key) :
    key.IsOnCurves := by
  obtain ⟨data, -, hdata⟩ := bind_eq_ok.mp (mapError_eq_ok.mp h)
  exact isOnCurves_ofJson hdata

end VerifyingKey

/-! ## Proofs -/

namespace Groth16

variable {G1 G2 : Type} [PairingGroups G1 G2]

theorem kind_of_entry_array {items : List Json} (hitems : ∀ item ∈ items, item.kind ≠ .object)
    {i : Nat} {row : Json} (h : (Json.array items).entry i = .ok row) : row.kind ≠ .object := by
  simp only [Json.entry] at h
  split at h
  · rename_i found hfound
    obtain rfl := Except.ok.inj h
    exact hitems found (List.mem_of_getElem? hfound)
  · exact nomatch h

theorem raisesIn_readStatement (points : ProofPoints) (signals : List String) :
    RaisesIn SpoilsProof (readStatement points signals : Except _ (Statement G1 G2)) := by
  have hfirst (texts : List String) : RaisesIn SpoilsProof
      (Coordinate.readPoint1 G2 (.array (texts.map .text)) : Except _ G1) :=
    Coordinate.raisesIn_readPoint1 (fun _ => id) nofun
  have hsecond : RaisesIn SpoilsProof (Coordinate.readPoint2 G1
      (.array (points.b.map fun row => .array (row.map .text))) : Except _ G2) := by
    refine Coordinate.raisesIn_readPoint2 (fun _ => id) nofun fun i row hrow hobject => ?_
    refine absurd hobject (kind_of_entry_array (fun item hitem => ?_) hrow)
    obtain ⟨texts, -, rfl⟩ := List.mem_map.mp hitem
    exact nofun
  have hsignals : FaultsIn SpoilsProof (signals.mapM readInteger) :=
    .mapM fun text _ => Coordinate.faultsIn_readInteger text
  unfold readStatement
  exact (hfirst points.a).bind fun _ _ => hsecond.bind fun _ _ => (hfirst points.c).bind fun _ _ =>
    (RaisesIn.lift hsignals).bind fun _ _ => .ok

theorem verifyBy_cases {source : Source} (h : source.IsShallow) (proof : Proof) :
    verifyBy G1 G2 source proof = .ok () ∨ ∃ why, verifyBy G1 G2 source proof = .error (.refused why) := by
  unfold verifyBy
  rcases VerifyingKey.load_cases G1 G2 h with ⟨key, hkey⟩ | ⟨why, hwhy⟩
  · rw [hkey, ok_bind]
    cases verify key proof with
    | ok => exact .inl rfl
    | error why => exact .inr ⟨why, rfl⟩
  · rw [hwhy]
    exact .inr ⟨why, rfl⟩

theorem verifyBy_of_load {source : Source} {key : VerifyingKey G1 G2}
    (h : VerifyingKey.load source = .ok key) (proof : Proof) :
    verifyBy G1 G2 source proof = (verify key proof).mapError .refused := by
  unfold verifyBy
  rw [h, ok_bind]

end Groth16

def Groth16Error.IsAboutKey : Groth16Error → Prop
  | .keyOffCurve _ | .badKey _ => True
  | _ => False

namespace Groth16

variable {G1 G2 : Type} [PairingGroups G1 G2] {key : VerifyingKey G1 G2} {why : Groth16Error}

theorem not_isAboutKey_of_decideStatement {st : Statement G1 G2}
    (h : decideStatement key st = .error why) : ¬ why.IsAboutKey := by
  unfold decideStatement at h
  split at h
  · obtain rfl := Except.error.inj h
    exact id
  · split at h
    · obtain rfl := Except.error.inj h
      exact id
    · split at h
      · split at h
        · exact nomatch h
        · obtain rfl := Except.error.inj h
          exact id
      · obtain rfl := Except.error.inj h
        exact id

theorem not_isAboutKey {proof : Proof} (h : verify key proof = .error why) :
    ¬ why.IsAboutKey := by
  unfold verify at h
  split at h
  · obtain rfl := Except.error.inj h
    exact id
  · split at h
    · obtain rfl := Except.error.inj h
      exact id
    · rcases bind_eq_error.mp h with h | ⟨st, -, h⟩
      · obtain ⟨e, -, rfl⟩ := mapError_eq_error.mp h
        exact id
      · exact not_isAboutKey_of_decideStatement h

end Groth16
end IdentityProof
