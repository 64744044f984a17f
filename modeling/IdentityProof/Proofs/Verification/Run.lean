import IdentityProof.Proofs.Fault
import IdentityProof.Proofs.Verification.Structure
import IdentityProof.Verifier

/-! Verifications as runs against services that answer from a state of their own. A run keeps the
calls that it made in their order. -/

namespace IdentityProof

inductive Call where
  | root (source : RootSource) (root : String)
  | proof (proof : Proof)

/-- Services whose answers depend on a state, which every call may change. -/
structure Behaviour (σ : Type) where
  checkRoot : RootSource → String → σ → Except (Raised RootError) Unit × σ
  checkProof : Proof → σ → Except String Unit × σ

structure Run (σ : Type) where
  result : Except (Raised VerifyError) Unit
  state : σ
  calls : List Call

variable {σ : Type}

def Behaviour.services (b : Behaviour σ) : Services (StateM (σ × List Call)) where
  checkRoot source root := fun (s, calls) =>
    ((b.checkRoot source root s).1, (b.checkRoot source root s).2, calls ++ [.root source root])
  checkProof proof := fun (s, calls) =>
    ((b.checkProof proof s).1, (b.checkProof proof s).2, calls ++ [.proof proof])

def Run.of (x : StateM (σ × List Call) (Except (Raised VerifyError) Unit)) (s : σ) : Run σ :=
  { result := (x (s, [])).1, state := (x (s, [])).2.1, calls := (x (s, [])).2.2 }

def Policy.run (b : Behaviour σ) (now : Moment) (p : Policy) (proof : Proof) (s : σ) : Run σ :=
  Run.of (p.verify b.services now proof) s

def Verifier.run (b : Behaviour σ) (now : Moment) (v : Verifier) (settings : List Setting)
    (proof : Proof) (s : σ) : Run σ :=
  Run.of (v.verify b.services now settings proof) s

namespace Policy

/-- The root that a proof is checked for and where: passports refer to the state of identities,
polls to the tree of nullifiers. -/
def askedRoot (p : Policy) (proof : Proof) : RootSource × String :=
  match p.proofType with
  | .globalPassport => (p.passportRoot, proof.signal .globalPassport .idStateRoot)
  | .georgianPassport => (p.passportRoot, proof.signal .georgianPassport .idStateRoot)
  | .pollParticipation => (p.pollRoot, proof.signal .pollParticipation .nullifiersTreeRoot)

def rootCall (p : Policy) (proof : Proof) : Call :=
  .root (p.askedRoot proof).1 (p.askedRoot proof).2

def rootAnswer (b : Behaviour σ) (p : Policy) (proof : Proof) (s : σ) :
    Except (Raised RootError) Unit × σ :=
  b.checkRoot (p.askedRoot proof).1 (p.askedRoot proof).2 s

theorem askedRoot_eq (p : Policy) (proof : Proof) :
    p.askedRoot proof = (p.rootQuestion.1, proof.signal p.proofType p.rootQuestion.2) := by
  unfold askedRoot rootQuestion
  cases p.proofType <;> rfl

variable {b : Behaviour σ} {now : Moment} {p : Policy} {proof : Proof} {s : σ}

theorem run_of_structural (h : proof.structuralFailures p.proofType ≠ []) :
    p.run b now proof s =
      { result := .error (.refused (.structural (proof.structuralFailures p.proofType)))
        state := s
        calls := [] } := by
  have he : (proof.structuralFailures p.proofType).isEmpty = false := List.isEmpty_eq_false_iff.mpr h
  unfold run verify
  simp only [he, Bool.false_eq_true, if_false]
  rfl

theorem verify_eq {m : Type → Type} [Monad m] {services : Services m}
    (h : proof.structuralFailures p.proofType = []) :
    p.verify services now proof = do
      let answer ← services.checkRoot (p.askedRoot proof).1 (p.askedRoot proof).2
      match p.judgeSignals now proof answer with
      | .error e => return .error e
      | .ok () =>
        match ← services.checkProof proof with
        | .error reason => return .error (.refused (.proofInvalid reason))
        | .ok () => return .ok () := by
  have he : (proof.structuralFailures p.proofType).isEmpty = true := List.isEmpty_iff.mpr h
  unfold verify
  rw [askedRoot_eq]
  exact if_pos he

theorem run_of_judged_error {e : Raised VerifyError}
    (h : proof.structuralFailures p.proofType = [])
    (hj : p.judgeSignals now proof (p.rootAnswer b proof s).1 = .error e) :
    p.run b now proof s =
      { result := .error e
        state := (p.rootAnswer b proof s).2
        calls := [p.rootCall proof] } := by
  unfold run
  rw [verify_eq h]
  simp only [rootAnswer] at hj
  simp only [Run.of, Behaviour.services, bind, StateT.bind, hj]
  rfl

theorem run_of_judged_ok (h : proof.structuralFailures p.proofType = [])
    (hj : p.judgeSignals now proof (p.rootAnswer b proof s).1 = .ok ()) :
    p.run b now proof s =
      { result := (b.checkProof proof (p.rootAnswer b proof s).2).1.mapError
          fun reason => .refused (.proofInvalid reason)
        state := (b.checkProof proof (p.rootAnswer b proof s).2).2
        calls := [p.rootCall proof, .proof proof] } := by
  unfold run
  rw [verify_eq h]
  simp only [rootAnswer] at hj
  simp only [Run.of, Behaviour.services, bind, StateT.bind, hj, rootAnswer]
  cases (b.checkProof proof (b.checkRoot (p.askedRoot proof).1 (p.askedRoot proof).2 s).2).1 <;> rfl

end Policy

theorem Verifier.make_policy {files : Files} {source : Source} {settings : List Setting}
    {v : Verifier} (h : make files source settings = .ok v) :
    v.policy = Policy.merge true .default settings := by
  obtain ⟨key, -, h⟩ := bind_eq_ok.mp h
  obtain rfl := pure_eq_ok.mp h
  rfl

end IdentityProof
