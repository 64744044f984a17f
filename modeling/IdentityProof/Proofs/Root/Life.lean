import IdentityProof.Proofs.Root.Confirm
import IdentityProof.Proofs.Root.Lifetime
import IdentityProof.Proofs.Root.Verdict

/-! Verifiers over their whole life, whatever is done with them and whatever their ledgers do. What
a cached one keeps is what its ledger told it once, and a verifier is closed exactly when it has
been told to close. In each state that it comes to, a wrong root and a root that could not be
checked stay apart, and there are three ways in which a check has no result at all. -/

namespace IdentityProof

namespace RootVerifier

variable {τ : Type}

structure Leaves (ledger : Ledger) (now : τ) (v w : RootVerifier τ) : Prop where
  kind : w.kind = v.kind
  closed : w.pool.closed = v.pool.closed
  cache : w.cache = v.cache ∨ ∃ root, ledger.currentRoot = .returns (.bytes root.bytes) ∧
    w.cache = some { root, fetchedAt := now }

section Requests

variable {ledger : Ledger} {now : τ} {v : RootVerifier τ}

theorem Leaves.refl (v : RootVerifier τ) : Leaves ledger now v v := ⟨rfl, rfl, .inl rfl⟩

theorem closed_of_submit {α : Type} {pool : Pool} {response : Response α}
    {submission : Pool.Submission α} (h : pool.submit response = .ok submission) :
    submission.pool.closed = pool.closed := by
  unfold Pool.submit at h
  split at h
  · exact nomatch h
  · split at h
    · obtain rfl := Except.ok.inj h
      rfl
    · cases response <;> obtain rfl := Except.ok.inj h <;> rfl

theorem leaves_ask {α β : Type} {call : RemoteCall} {c : Conduct α}
    {next : RootVerifier τ → α → Except (Raised RootError) β × RootVerifier τ}
    (hnext : ∀ w a, c = .returns a → Leaves ledger now w (next w a).2) :
    Leaves ledger now v (v.ask call c.response next).verifier := by
  unfold ask
  split
  · exact .refl v
  · rename_i submission hs
    have hclosed := closed_of_submit hs
    cases hr : submission.reply with
    | missedDeadline | failure reason => exact ⟨rfl, hclosed, .inl rfl⟩
    | answer a =>
      have hc : c = .returns a := by
        have ha := submit_answer hs hr
        exact Conduct.eq_returns_of_response ha
      obtain ⟨hkind, hstill, hcache⟩ := hnext { v with pool := submission.pool } a hc
      exact ⟨hkind, hstill.trans hclosed, hcache⟩

theorem leaves_decideBy {α : Type} {accepted : α → Bool} (w : RootVerifier τ) (a : α) :
    Leaves ledger now w (decideBy accepted w a).2 := .refl w

theorem leaves_store (w : RootVerifier τ) {answer : LedgerValue}
    (h : ledger.currentRoot = .returns answer) : Leaves ledger now w (store now w answer).2 := by
  cases hroot : answer.toRoot? with
  | some root =>
    rw [store_of_root hroot]
    rw [toRoot?_eq_some hroot] at h
    exact ⟨rfl, rfl, .inr ⟨root, h, rfl⟩⟩
  | none =>
    obtain ⟨e, -, hstore⟩ : ∃ e, Session.FailsWith (.answer answer) (some .currentRoot) e ∧
      store now w answer = (.error e, w) := store_of_none hroot
    rw [hstore]
    exact .refl w

variable [Sub τ] [LT τ] [DecidableLT τ]

theorem leaves_currentRoot : Leaves ledger now v (v.currentRoot ledger.view now).verifier := by
  unfold currentRoot
  split
  · exact .refl v
  · exact leaves_ask fun w answer h => leaves_store w h

theorem leaves_verify (root : Json) :
    Leaves ledger now v (v.verify ledger.view now root).verifier := by
  unfold verify
  split
  · exact .refl v
  · split
    · exact leaves_ask fun w answer _ => leaves_decideBy w answer
    · exact leaves_ask fun w event _ => leaves_decideBy w event
    · exact leaves_currentRoot

end Requests

/-- What is true of a verifier after some occasions, none of which it had seen before. -/
structure Lived (v : RootVerifier τ) (occasions : List (Occasion τ)) (w : RootVerifier τ) :
    Prop where
  kind : w.kind = v.kind
  closed : w.pool.closed = (v.pool.closed || occasions.any Occasion.closes)
  cache : ∀ entry, w.cache = some entry → v.cache = some entry ∨
    ∃ op ledger, .operation op ledger entry.fetchedAt ∈ occasions ∧
      ledger.currentRoot = .returns (.bytes entry.root.bytes)

section Occasions

variable {v w : RootVerifier τ} {occasions : List (Occasion τ)}

theorem Lived.concat (h : Lived v occasions w) (op : Operation) {ledger : Ledger} {now : τ}
    {left : RootVerifier τ} (hleaves : Leaves ledger now w left) :
    Lived v (occasions ++ [.operation op ledger now])
      (if (Occasion.operation op ledger now).closes then left.close else left) where
  kind := by
    rw [← h.kind, ← hleaves.kind]
    split <;> rfl
  closed := by
    rw [List.any_append, List.any_cons, List.any_nil, Bool.or_false, ← Bool.or_assoc, ← h.closed,
      ← hleaves.closed]
    cases (Occasion.operation op ledger now).closes with
    | false => exact (Bool.or_false _).symm
    | true => exact (Bool.or_true _).symm
  cache entry he := by
    have hleft : left.cache = some entry := by
      rw [← he]
      split <;> rfl
    rcases hleaves.cache with hsame | ⟨root, htold, hnew⟩
    · refine (h.cache entry (hsame.symm.trans hleft)).imp_right ?_
      rintro ⟨op, ledger, hmem, htold⟩
      exact ⟨op, ledger, List.mem_append_left _ hmem, htold⟩
    · obtain rfl := Option.some.inj (hnew.symm.trans hleft)
      exact .inr ⟨op, ledger, List.mem_append_right _ List.mem_cons_self, htold⟩

theorem Lived.freed (h : Lived v occasions w) :
    Lived v (occasions ++ [.freed]) { w with pool := w.pool.free } where
  kind := h.kind
  closed := by
    rw [List.any_append]
    exact h.closed.trans (Bool.or_false _ ▸ rfl)
  cache entry he := by
    refine (h.cache entry he).imp_right ?_
    rintro ⟨op, ledger, hmem, htold⟩
    exact ⟨op, ledger, List.mem_append_left _ hmem, htold⟩

variable [Sub τ] [LT τ] [DecidableLT τ]

theorem Lived.after (h : Lived v occasions w) (occasion : Occasion τ) :
    Lived v (occasions ++ [occasion]) (w.after occasion) := by
  cases occasion with
  | freed => exact h.freed
  | operation op ledger now =>
    cases op with
    | verify root => exact h.concat (.verify root) (leaves_verify root)
    | status root => exact h.concat (.status root) (leaves_verify root)
    | verifyAndClose root => exact h.concat (.verifyAndClose root) (leaves_verify root)
    | close => exact h.concat .close (.refl w)
    | currentRoot =>
      have hleaves : Leaves ledger now w (w.after (.operation .currentRoot ledger now)) := by
        simp only [RootVerifier.after]
        split
        · exact leaves_currentRoot
        · exact .refl w
        · exact .refl w
      exact h.concat .currentRoot hleaves

theorem lived_afterAll (v : RootVerifier τ) (occasions : List (Occasion τ)) :
    Lived v occasions (v.afterAll occasions) := by
  induction occasions using List.reverseRecOn with
  | nil => exact ⟨rfl, (Bool.or_false _).symm, fun entry he => .inl he⟩
  | append_singleton occasions occasion ih =>
    unfold afterAll
    rw [List.foldl_append]
    exact ih.after occasion

end Occasions

/-- A check in any state that a verifier comes to. The root is found right exactly on the word of
the ledger for it, and wrong exactly when the text is no decimal of 32 bytes, for which no call is
made, or on the word of the ledger against it. It remains unchecked exactly when the call that has
to be made fails, whatever the kind of the error, whose text is taken to be one that can be made. The
word of the ledger is about the very number that the text spells, and a root that is kept was told by
the ledger on an earlier occasion. What stops a check from having any of these results is no word
about the root. -/
theorem verdict_iff (kind : RemoteKind) (timeout lifetime : Option Number) (capacity : Nat)
    (occasions : List (Occasion Number)) (ledger : Ledger) (now : Number) (s : String) :
    let v := (start kind timeout lifetime capacity).afterAll occasions
    let check := v.verify ledger.view now (.text s)
    (check.result = .ok () ↔ ∃ root : Root, root.SpelledBy s ∧ v.Attests ledger now root true) ∧
    ((∃ why, check.result = .error (.refused (.invalid why))) ↔
      Root.Unreadable s ∨ ∃ root : Root, root.SpelledBy s ∧ v.Attests ledger now root false) ∧
    (Root.Unreadable s → check.call = none ∧ check.verifier = v) ∧
    (∀ why, check.result = .error (.refused (.unchecked why)) ↔
      ∃ root : Root, root.SpelledBy s ∧ v.Fails ledger now root why) ∧
    ((∃ f, check.result = .error (.fault f)) ↔ v.Stops ledger now s) ∧
    v.kind = kind ∧
    ∀ entry, v.cache = some entry → ∃ op earlier, .operation op earlier entry.fetchedAt ∈ occasions ∧
      earlier.currentRoot = .returns (.bytes entry.root.bytes) := by
  intro v check
  have hlived := lived_afterAll (start kind timeout lifetime capacity) occasions
  refine ⟨accepted_iff, wrong_iff, fun hbad => ?_, fun why => unchecked_iff, meetsFault_verify,
    hlived.kind, ?_⟩
  · have hcheck : check = _ := verify_of_unreadable hbad
    rw [hcheck]
    exact ⟨rfl, rfl⟩
  · intro entry he
    exact (hlived.cache entry he).resolve_left nofun

/-- A check in any state that a verifier comes to has one of the three results that it may have,
and a status, unless one of three things stops it: too many digits, a call on a closed verifier, or
an answer that cannot be shown. A verifier is closed by what closes it, and by nothing else. -/
theorem answers_iff (kind : RemoteKind) (timeout lifetime : Option Number) (capacity : Nat)
    (occasions : List (Occasion Number)) (ledger : Ledger) (now : Number) (s : String) :
    let v := (start kind timeout lifetime capacity).afterAll occasions
    let result := (v.verify ledger.view now (.text s)).result
    ((result = .ok () ∨ (∃ why, result = .error (.refused (.invalid why))) ∨
        ∃ why, result = .error (.refused (.unchecked why))) ↔ ¬ v.Stops ledger now s) ∧
      ((∃ status, v.status ledger.view now (.text s) = .ok status) ↔ ¬ v.Stops ledger now s) ∧
        v.kind = kind ∧ (v.pool.closed = true ↔ ∃ occasion ∈ occasions, occasion.closes = true) := by
  intro v result
  have hlived := lived_afterAll (start kind timeout lifetime capacity) occasions
  have hstops : MeetsFault result ↔ v.Stops ledger now s := meetsFault_verify
  have hstatus : IsError (v.status ledger.view now (.text s)) ↔ MeetsFault result :=
    RootStatus.isError_ofResult
  refine ⟨?_, ?_, hlived.kind, ?_⟩
  · rw [← hstops]
    rcases result with ((why | why) | f) | u
    · exact iff_of_true (.inr (.inl ⟨why, rfl⟩)) not_meetsFault_refused
    · exact iff_of_true (.inr (.inr ⟨why, rfl⟩)) not_meetsFault_refused
    · exact iff_of_false (by simp) (not_not_intro ⟨f, rfl⟩)
    · exact iff_of_true (.inl rfl) not_meetsFault_ok
  · rw [← hstops, ← hstatus]
    cases v.status ledger.view now (.text s) with
    | ok status => exact iff_of_true ⟨status, rfl⟩ not_isError_ok
    | error f => exact iff_of_false (fun ⟨_, h⟩ => nomatch h) (not_not_intro isError_error)
  · have hclosed : v.pool.closed = occasions.any Occasion.closes := hlived.closed
    rw [hclosed, List.any_eq_true]

end RootVerifier

def Ledger.agreeing : Ledger where
  isRootValid _ := .returns (.bool true)
  currentRoot := .returns (.bytes (Root.ofSmall 9).bytes)
  findEvents _ := .returns (.returns (.bool true))

namespace RootVerifier

/-- A decimal that is too long to be read stops an open verifier, and a short one a closed one. -/
theorem overlong_root_stops :
    let v := start .contract none none Pool.defaultCapacity
    let closing : Occasion Number := .operation .close .agreeing (.int 0)
    (∃ f, (v.verify Ledger.agreeing.view (.int 0)
      (.text (String.ofList (List.replicate 4301 '1')))).result = .error (.fault f)) ∧
      ((v.afterAll [closing]).verify Ledger.agreeing.view (.int 0) (.text "9")).result =
        .error (.fault .poolClosed) := by
  intro v closing
  refine ⟨result_of_stops (.overlong (overlong_replicate (by decide))), ?_⟩
  have hs : (Root.ofSmall 9).SpelledBy "9" := rfl
  rw [verify_of_contract hs rfl, ask_of_closed rfl]

end RootVerifier
end IdentityProof
