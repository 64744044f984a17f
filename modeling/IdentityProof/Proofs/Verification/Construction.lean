import IdentityProof.Proofs.Groth16.Loading
import IdentityProof.Proofs.Verification.Layers
import IdentityProof.Proofs.Verification.Nullifier

/-! Verifiers made from keys of any shape. A key that cannot be used is refused when a verifier is
made from it, and no verification that comes after fails for its key. -/

namespace IdentityProof

namespace Verifier

variable {G1 G2 : Type} [PairingGroups G1 G2]

variable (G1 G2) in
theorem loadKey_cases {v : Verifier} (h : (Source.bytes v.key).IsShallow) :
    (∃ key : VerifyingKey G1 G2, v.loadKey = .ok key) ∨
      ∃ why, (v.loadKey : Except _ (VerifyingKey G1 G2)) = .error (.refused why) := by
  unfold loadKey
  rcases VerifyingKey.load_cases G1 G2 h with ⟨key, hkey⟩ | ⟨why, hwhy⟩
  · rw [hkey]
    exact .inl ⟨key, rfl⟩
  · rw [hwhy]
    exact .inr ⟨.badKey why, rfl⟩

theorem make_of_no_key {files : Files} {settings : List Setting}
    (hfile : (Policy.merge true .default settings).keyFile = "") :
    make files (.bytes []) settings = .error (.refused .keyRequired) := by
  have hnone : (Source.bytes []).isGiven = false := rfl
  rw [make_eq]
  unfold readKey
  rw [if_neg (not_not_intro hfile), hnone, if_neg Bool.false_ne_true]
  rfl

theorem construct_cases {files : Files} {key : Bytes} {settings : List Setting}
    (hfile : (Policy.merge true .default settings).keyFile = "")
    (h : (Source.bytes key).IsShallow) :
    (∃ made, construct G1 G2 files (.bytes key) settings = .ok made) ∨
      ∃ why, construct G1 G2 files (.bytes key) settings = .error (.refused why) := by
  unfold construct
  by_cases hgiven : key = []
  · rw [hgiven, make_of_no_key hfile]
    exact .inr ⟨.keyRequired, rfl⟩
  · rw [make_of_bytes hfile hgiven, ok_bind]
    let v : Verifier := ⟨Policy.merge true .default settings, key⟩
    rcases loadKey_cases G1 G2 (v := v) h with ⟨loaded, hloaded⟩ | ⟨why, hwhy⟩
    · rw [hloaded]
      exact .inl ⟨_, rfl⟩
    · rw [hwhy]
      exact .inr ⟨why, rfl⟩

theorem load_of_construct {files : Files} {key : Source} {settings : List Setting} {v : Verifier}
    {loaded : VerifyingKey G1 G2} (h : construct G1 G2 files key settings = .ok (v, loaded)) :
    VerifyingKey.load (.bytes v.key) = .ok loaded := by
  obtain ⟨w, -, h⟩ := bind_eq_ok.mp h
  obtain ⟨other, hother, h⟩ := bind_eq_ok.mp h
  obtain ⟨rfl, rfl⟩ := Prod.mk.inj (pure_eq_ok.mp h)
  exact mapError_eq_ok.mp hother

end Verifier

open Bn254 Groth16

/-- Whatever a key and a proof are made of, they are used or refused. A key that loads has its
points on their curves or at infinity, a verification ends or refuses, and of the faults on the way
there are only those that make a proof invalid. Without a key file a verifier is constructed or
refused, and one that is constructed checks every proof by the key that it loaded, so that no
verification fails for its key. -/
theorem malformed_refused :
    (∀ source : Source, source.IsShallow →
      (∃ key : VerifyingKey G1 G2, VerifyingKey.load source = .ok key ∧ key.IsOnCurves) ∨
        ∃ why, (VerifyingKey.load source : Except _ (VerifyingKey G1 G2)) =
          .error (.refused why)) ∧
    (∀ (source : Source) (proof : Proof), source.IsShallow →
      verifyBy G1 G2 source proof = .ok () ∨
        ∃ why, verifyBy G1 G2 source proof = .error (.refused why)) ∧
    (∀ (points : ProofPoints) (signals : List String) (f : Fault),
      (readStatement points signals : Except _ (Statement G1 G2)) = .error (.fault f) →
        f.kind.SpoilsProof) ∧
    (∀ (files : Files) (key : Bytes) (settings : List Setting),
      (Policy.merge true .default settings).keyFile = "" → (Source.bytes key).IsShallow →
        (∃ made, Verifier.construct G1 G2 files (.bytes key) settings = .ok made) ∨
          ∃ why, Verifier.construct G1 G2 files (.bytes key) settings = .error (.refused why)) ∧
    (∀ (files : Files) (key : Source) (settings : List Setting) (v : Verifier)
      (loaded : VerifyingKey G1 G2), Verifier.construct G1 G2 files key settings = .ok (v, loaded) →
        loaded.IsOnCurves ∧ ∀ proof,
          verifyBy G1 G2 (.bytes v.key) proof = (verify loaded proof).mapError .refused ∧
            ∀ why, verify loaded proof = .error why → ¬ why.IsAboutKey) := by
  refine ⟨fun source h => ?_, fun source proof h => verifyBy_cases h proof,
    fun points signals => raisesIn_readStatement points signals,
    fun files key settings hfile h => Verifier.construct_cases hfile h,
    fun files key settings v loaded h => ?_⟩
  · rcases VerifyingKey.load_cases G1 G2 h with ⟨key, hkey⟩ | hwhy
    · exact .inl ⟨key, hkey, VerifyingKey.isOnCurves_load hkey⟩
    · exact .inr hwhy
  · have hload := Verifier.load_of_construct h
    exact ⟨VerifyingKey.isOnCurves_load hload, fun proof =>
      ⟨verifyBy_of_load hload proof, fun why => not_isAboutKey⟩⟩

theorem isShallow_pollKey : (Source.bytes pollKey).IsShallow := by
  have htext : (Source.bytes pollKey).text? = some pollKeyText.toList := by decide +kernel
  intro text h
  obtain rfl := Option.some.inj (htext.symm.trans h)
  decide +kernel

theorem isShallow_bracket : (Source.text "[7").IsShallow := by
  intro text h
  obtain rfl := Option.some.inj h
  decide

def halfPoints : ProofPoints := { infinitePoints with a := ["1"] }

theorem polls_constructed :
    (∃ loaded, Verifier.construct G1 G2 [] (.bytes pollKey) Setting.ofPolls =
      .ok (Verifier.ofPolls, loaded) ∧ loaded.IsOnCurves ∧
        ∃ why, verify loaded { points := some halfPoints, signals := [] } = .error why ∧
          ¬ why.IsAboutKey) ∧
    (∃ why, (VerifyingKey.load (.text "[7") : Except _ (VerifyingKey G1 G2)) =
      .error (.refused why)) ∧
    (∃ why, verifyBy G1 G2 (.text "[7") (.ofVoter "5") = .error (.refused why)) ∧
    (∃ f, (readStatement halfPoints [] : Except _ (Statement G1 G2)) = .error (.fault f) ∧
      f.kind.SpoilsProof) := by
  obtain ⟨hload, hverify, hkinds, hconstruct, hmade⟩ := malformed_refused
  have hhalf : (readStatement halfPoints [] : Except _ (Statement G1 G2)) =
      .error (.fault (.indexOutOfRange .array)) := rfl
  have hnokey : ∀ key : VerifyingKey G1 G2, VerifyingKey.load (.text "[7") ≠ .ok key := by
    have hnone : (VerifyingKey.load (.text "[7") : Except _ (VerifyingKey G1 G2)).toOption = none :=
      by decide
    intro key hkey
    exact nomatch hnone.symm.trans (toOption_eq_some.mpr hkey)
  have hpolls : Verifier.construct G1 G2 [] (.bytes pollKey) Setting.ofPolls =
      .ok (Verifier.ofPolls, infiniteKey 4) := by
    unfold Verifier.construct
    rw [Verifier.make_ofPolls, ok_bind, Verifier.loadKey_ofPolls]
    rfl
  have hrefused : verify (infiniteKey 4) { points := some halfPoints, signals := [] } =
      .error (.badProof (.fault (.indexOutOfRange .array))) := rfl
  refine ⟨?_, ?_, ?_, _, hhalf, hkinds _ _ _ hhalf⟩
  · rcases hconstruct [] pollKey Setting.ofPolls rfl isShallow_pollKey with ⟨made, hok⟩ | ⟨_, hwhy⟩
    · obtain rfl := Except.ok.inj (hpolls.symm.trans hok)
      obtain ⟨hcurves, hproofs⟩ := hmade _ _ _ _ _ hok
      exact ⟨_, hok, hcurves, _, hrefused, (hproofs _).2 _ hrefused⟩
    · exact nomatch hpolls.symm.trans hwhy
  · rcases hload _ isShallow_bracket with ⟨key, hkey, -⟩ | hwhy
    · exact absurd hkey (hnokey key)
    · exact hwhy
  · rcases hverify _ (.ofVoter "5") isShallow_bracket with hok | hwhy
    · obtain ⟨key, hkey, -⟩ := bind_eq_ok.mp hok
      exact absurd hkey (hnokey key)
    · exact hwhy

end IdentityProof
