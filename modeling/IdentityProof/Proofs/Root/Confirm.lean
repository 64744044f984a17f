import IdentityProof.Proofs.Fault
import IdentityProof.Root.World

/-! Accepted roots. A verifier accepts a root only when its ledger, or the root that it keeps,
stands by the 32 bytes of the very number that the signal spells. -/

namespace IdentityProof

theorem Root.parse_eq_ok {s : String} {root : Root} (h : Root.parse (.text s) = .ok root) :
    ∃ n, parseDecimal s = .ok (some n) ∧ Root.ofNat? n = some root := by
  obtain ⟨found, hf, h⟩ := bind_eq_ok.mp h
  rw [Fault.lift_eq_ok] at hf
  obtain ⟨n?, hn, hf⟩ := bind_eq_ok.mp hf
  obtain rfl := pure_eq_ok.mp hf
  cases n? with
  | none => exact nomatch h
  | some n =>
    refine ⟨n, hn, ?_⟩
    cases hr : ofNat? n with
    | none =>
      rw [Option.bind_some, hr] at h
      obtain ⟨shown, -, h⟩ := bind_eq_ok.mp h
      exact nomatch h
    | some found =>
      rw [Option.bind_some, hr] at h
      exact congrArg some (pure_eq_ok.mp h)

namespace RootVerifier

variable {τ : Type}

theorem submit_answer {α : Type} {pool : Pool} {response : Response α}
    {submission : Pool.Submission α} {a : α} (h : pool.submit response = .ok submission)
    (ha : submission.reply = .answer a) : response = .answer a := by
  unfold Pool.submit at h
  split at h
  · exact nomatch h
  · split at h
    · obtain rfl := Except.ok.inj h
      exact nomatch ha
    · cases response with
      | answer b =>
        obtain rfl := Except.ok.inj h
        exact congrArg _ (Reply.answer.inj ha)
      | failure _ | timeout | hang =>
        obtain rfl := Except.ok.inj h
        exact nomatch ha

theorem ask_eq_ok {α β : Type} {v : RootVerifier τ} {call : RemoteCall} {response : Response α}
    {next : RootVerifier τ → α → Except (Raised RootError) β × RootVerifier τ} {b : β}
    (h : (v.ask call response next).result = .ok b) :
    ∃ a v', response = .answer a ∧ (next v' a).1 = .ok b := by
  unfold ask at h
  split at h
  · exact nomatch h
  · rename_i submission hs
    cases hr : submission.reply with
    | missedDeadline | failure _ =>
      simp only [hr] at h
      exact nomatch h
    | answer a =>
      simp only [hr] at h
      exact ⟨a, _, submit_answer hs hr, h⟩

theorem decideBy_eq_ok {α : Type} {accepted : α → Bool} {v : RootVerifier τ} {a : α}
    (h : (decideBy accepted v a).1 = .ok ()) : accepted a = true := by
  unfold decideBy at h
  cases ha : accepted a with
  | true => rfl
  | false =>
    rw [ha] at h
    exact nomatch h

variable [Sub τ] [LT τ] [DecidableLT τ]

def Confirms (v : RootVerifier τ) (ledger : LedgerView) (now : τ) (root : Root) : Prop :=
  match v.kind with
  | .contract => ∃ answer, ledger.isRootValid root = .answer answer ∧ answer.isGiven = true
  | .events => ∃ event, ledger.firstEvent root = .answer event ∧ isEvent event = true
  | .cached => CachedRoot.serve? v.cache v.lifetime now = some root ∨
    (CachedRoot.serve? v.cache v.lifetime now = none ∧
      ∃ answer, ledger.currentRoot = .answer answer ∧ answer.toRoot? = some root)

theorem currentRoot_eq_ok {v : RootVerifier τ} {ledger : LedgerView} {now : τ} {root : Root}
    (h : (v.currentRoot ledger now).result = .ok root) :
    CachedRoot.serve? v.cache v.lifetime now = some root ∨
      (CachedRoot.serve? v.cache v.lifetime now = none ∧
        ∃ answer, ledger.currentRoot = .answer answer ∧ answer.toRoot? = some root) := by
  unfold currentRoot at h
  split at h
  · rename_i kept hk
    exact .inl (hk.trans (congrArg some (Except.ok.inj h)))
  · rename_i hk
    obtain ⟨answer, v', ha, hstore⟩ := ask_eq_ok h
    refine .inr ⟨hk, answer, ha, ?_⟩
    unfold store at hstore
    split at hstore
    · rename_i found hf
      exact hf.trans (congrArg some (Except.ok.inj hstore))
    · split at hstore <;> exact nomatch hstore

theorem verify_eq_ok {v : RootVerifier τ} {ledger : LedgerView} {now : τ} {s : String}
    (h : (v.verify ledger now (.text s)).result = .ok ()) :
    ∃ n root, parseDecimal s = .ok (some n) ∧ Root.ofNat? n = some root ∧
      v.Confirms ledger now root := by
  unfold verify at h
  split at h
  · exact nomatch h
  · rename_i root hr
    obtain ⟨n, hn, hroot⟩ := Root.parse_eq_ok hr
    refine ⟨n, root, hn, hroot, ?_⟩
    unfold Confirms
    cases hk : v.kind with
    | contract =>
      rw [hk] at h
      obtain ⟨answer, v', ha, hd⟩ := ask_eq_ok h
      exact ⟨answer, ha, decideBy_eq_ok hd⟩
    | events =>
      rw [hk] at h
      obtain ⟨event, v', ha, hd⟩ := ask_eq_ok h
      exact ⟨event, ha, decideBy_eq_ok hd⟩
    | cached =>
      rw [hk] at h
      obtain ⟨stored, hs, hd⟩ := bind_eq_ok.mp h
      by_cases he : stored = root
      · exact currentRoot_eq_ok (he ▸ hs)
      · rw [if_neg he] at hd
        exact nomatch hd

end RootVerifier

namespace World

theorem check_remote {w : World} {name : String} {bound : BoundVerifier} {ledger : ScriptedLedger}
    {root : Json} (hb : w.verifiers.lookup name = some bound)
    (hl : w.ledgers.lookup bound.ledger = some ledger) :
    (w.check (.remote name) root).1 = (bound.verifier.verify ledger.view w.clock root).result := by
  simp [check, run?, hb, hl]

end World
end IdentityProof
