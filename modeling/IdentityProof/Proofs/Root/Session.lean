import IdentityProof.Proofs.Json.Text
import IdentityProof.Root.Session

/-! Requests to a cached verifier. A turn is idle, or it is answered by what is kept, or it makes one
call, which brings a root or fails. -/

namespace IdentityProof

open Session

section Freshness

variable {τ : Type} [Sub τ] [LT τ] [DecidableLT τ]

theorem CachedRoot.serve?_eq_some {cache : Option (CachedRoot τ)} {lifetime now : τ} {root : Root}
    (h : serve? cache lifetime now = some root) :
    ∃ entry, cache = some entry ∧ now - entry.fetchedAt < lifetime ∧ entry.root = root := by
  unfold serve? at h
  split at h
  · rename_i entry
    split at h
    · rename_i hfresh
      exact ⟨entry, rfl, of_decide_eq_true hfresh, Option.some.inj h⟩
    · exact nomatch h
  · exact nomatch h

theorem CachedRoot.serve?_eq_none {cache : Option (CachedRoot τ)} {lifetime now : τ}
    (h : serve? cache lifetime now = none) {entry : CachedRoot τ}
    (he : cache = some entry) : ¬ now - entry.fetchedAt < lifetime := by
  subst he
  intro hfresh
  have hyes : entry.isFresh lifetime now = true := decide_eq_true hfresh
  simp only [serve?, hyes, if_true] at h
  exact nomatch h

end Freshness

/-- The ledger answers with a value in place of bytes, and the value cannot be shown: an integer in
it has more digits than are written. -/
def Session.IsUnshown (response : Response LedgerValue) : Prop :=
  ∃ value : Json, response = .answer (.json value) ∧ value.HoldsUnwritable

inductive Session.FailsWith (response : Response LedgerValue) (call? : Option RemoteCall) :
    Raised RootError → Prop where
  | unchecked (why : UncheckedRoot) (h : ¬ (call? = some .currentRoot ∧ IsUnshown response)) :
    FailsWith response call? (.refused (.unchecked why))
  | unshown (f : Fault) (h : call? = some .currentRoot ∧ IsUnshown response) :
    FailsWith response call? (.fault f)

theorem Session.isUnshown_json {value : Json} :
    IsUnshown (.answer (.json value)) ↔ IsError value.quoted := by
  rw [Json.isError_quoted]
  constructor
  · rintro ⟨_, h, hvalue⟩
    obtain rfl := LedgerValue.json.inj (Response.answer.inj h)
    exact hvalue
  · exact fun hvalue => ⟨value, rfl, hvalue⟩

namespace RootVerifier

section Calls

variable {τ α β : Type} {v : RootVerifier τ} {call : RemoteCall} {response : Response α}
  {next : RootVerifier τ → α → Except (Raised RootError) β × RootVerifier τ}

theorem ask_of_full (hopen : v.pool.closed = false) (hfull : v.pool.capacity ≤ v.pool.stuck) :
    v.ask call response next =
      { result := .error (.refused (.unchecked (.missedDeadline call v.timeout)))
        verifier := v
        call := none } := by
  unfold ask Pool.submit
  rw [if_neg (by simp [hopen]), if_pos hfull]
  rfl

theorem ask_of_free (hopen : v.pool.closed = false) (hfree : v.pool.stuck < v.pool.capacity) :
    v.ask call response next =
      match response with
      | .answer a => { result := (next v a).1, verifier := (next v a).2, call := some call }
      | .failure reason =>
        { result := .error (.refused (.unchecked (.callFailed call reason)))
          verifier := v
          call := some call }
      | .timeout =>
        { result := .error (.refused (.unchecked (.missedDeadline call v.timeout)))
          verifier := v
          call := some call }
      | .hang =>
        { result := .error (.refused (.unchecked (.missedDeadline call v.timeout)))
          verifier := { v with pool := { v.pool with stuck := v.pool.stuck + 1 } }
          call := some call } := by
  unfold ask Pool.submit
  rw [if_neg (by simp [hopen]), if_neg (Nat.not_le.mpr hfree)]
  cases response <;> rfl

theorem toRoot?_bytes (root : Root) : (LedgerValue.bytes root.bytes).toRoot? = some root :=
  dif_pos root.length_eq

theorem toRoot?_eq_some {answer : LedgerValue} {root : Root} (h : answer.toRoot? = some root) :
    answer = .bytes root.bytes := by
  cases answer with
  | json j => exact nomatch h
  | bytes b =>
    simp only [LedgerValue.toRoot?, Root.ofBytes?, Option.dite_none_right_eq_some,
      Option.some.injEq] at h
    obtain ⟨hlen, rfl⟩ := h
    rfl

theorem store_of_root {now : τ} {answer : LedgerValue} {root : Root} (h : answer.toRoot? = some root) :
    store now v answer = (.ok root, { v with cache := some { root, fetchedAt := now } }) := by
  unfold store
  rw [h]

theorem store_of_none {now : τ} {answer : LedgerValue} (h : answer.toRoot? = none) :
    ∃ e, FailsWith (.answer answer) (some .currentRoot) e ∧ store now v answer = (.error e, v) := by
  unfold store
  rw [h]
  cases answer with
  | bytes b => exact ⟨_, .unchecked _ (fun ⟨_, _, h, _⟩ => nomatch h), rfl⟩
  | json value =>
    cases hq : value.quoted with
    | ok shown =>
      have hshown : ¬ IsUnshown (.answer (.json value)) := fun h =>
        not_isError_ok (hq ▸ isUnshown_json.mp h)
      simp only [LedgerValue.quoted, hq]
      exact ⟨_, .unchecked _ (fun h => hshown h.2), rfl⟩
    | error f =>
      simp only [LedgerValue.quoted, hq]
      exact ⟨_, .unshown f ⟨rfl, isUnshown_json.mpr ⟨f, hq⟩⟩, rfl⟩

theorem store_result (now later : τ) (v w : RootVerifier τ) (answer : LedgerValue) :
    (store now v answer).1 = (store later w answer).1 := by
  unfold store
  cases answer.toRoot? <;> rfl

end Calls

variable {ι τ : Type} [Sub τ] [LT τ] [DecidableLT τ] {v : RootVerifier τ} {ledger : LedgerView}
  {now : τ}

theorem currentRoot_of_kept {root : Root}
    (h : CachedRoot.serve? v.cache v.lifetime now = some root) :
    v.currentRoot ledger now = { result := .ok root, verifier := v, call := none } := by
  unfold currentRoot
  rw [h]

theorem currentRoot_of_stale (h : CachedRoot.serve? v.cache v.lifetime now = none) :
    v.currentRoot ledger now = v.ask .currentRoot ledger.currentRoot (store now) := by
  unfold currentRoot
  rw [h]

section Stale

variable (hopen : v.pool.closed = false) (hs : CachedRoot.serve? v.cache v.lifetime now = none)
include hopen hs

theorem currentRoot_of_answer (hfree : v.pool.stuck < v.pool.capacity) {answer : LedgerValue}
    (hr : ledger.currentRoot = .answer answer) :
    v.currentRoot ledger now =
      { result := (store now v answer).1
        verifier := (store now v answer).2
        call := some .currentRoot } := by
  rw [currentRoot_of_stale hs, ask_of_free hopen hfree, hr]

theorem currentRoot_of_failure (hfree : v.pool.stuck < v.pool.capacity) {reason : String}
    (hr : ledger.currentRoot = .failure reason) :
    v.currentRoot ledger now =
      { result := .error (.refused (.unchecked (.callFailed .currentRoot reason)))
        verifier := v
        call := some .currentRoot } := by
  rw [currentRoot_of_stale hs, ask_of_free hopen hfree, hr]

theorem currentRoot_of_hang (hfree : v.pool.stuck < v.pool.capacity)
    (hr : ledger.currentRoot = .hang) :
    v.currentRoot ledger now =
      { result := .error (.refused (.unchecked (.missedDeadline .currentRoot v.timeout)))
        verifier := { v with pool := { v.pool with stuck := v.pool.stuck + 1 } }
        call := some .currentRoot } := by
  rw [currentRoot_of_stale hs, ask_of_free hopen hfree, hr]

theorem currentRoot_of_timeout (hr : ledger.currentRoot = .timeout) :
    ∃ call?, v.currentRoot ledger now =
      { result := .error (.refused (.unchecked (.missedDeadline .currentRoot v.timeout)))
        verifier := v
        call := call? } := by
  rw [currentRoot_of_stale hs, hr]
  rcases Nat.lt_or_ge v.pool.stuck v.pool.capacity with hfree | hfull
  · exact ⟨_, ask_of_free hopen hfree⟩
  · exact ⟨_, ask_of_full hopen hfull⟩

end Stale

inductive Looks (v : RootVerifier τ) (ledger : LedgerView) (now : τ) : Prop where
  | kept {root : Root} (hs : CachedRoot.serve? v.cache v.lifetime now = some root)
    (h : v.currentRoot ledger now = { result := .ok root, verifier := v, call := none })
  | fetched {answer : LedgerValue} {root : Root}
    (hs : CachedRoot.serve? v.cache v.lifetime now = none)
    (ha : ledger.currentRoot = .answer answer) (hroot : answer.toRoot? = some root)
    (h : v.currentRoot ledger now =
      { result := .ok root
        verifier := { v with cache := some { root, fetchedAt := now } }
        call := some .currentRoot })
  | failed {e : Raised RootError} {pool : Pool} {call? : Option RemoteCall}
    (hs : CachedRoot.serve? v.cache v.lifetime now = none) (hopen : pool.closed = false)
    (hnone : call? = none ∨ ∀ answer, ledger.currentRoot = .answer answer → answer.toRoot? = none)
    (he : FailsWith ledger.currentRoot call? e)
    (h : v.currentRoot ledger now =
      { result := .error e, verifier := { v with pool }, call := call? })

theorem Looks.of_not_answer {why : UncheckedRoot} {pool : Pool} {call? : Option RemoteCall}
    (hs : CachedRoot.serve? v.cache v.lifetime now = none) (hopen : pool.closed = false)
    (hno : ∀ answer, ledger.currentRoot ≠ .answer answer)
    (h : v.currentRoot ledger now =
      { result := .error (.refused (.unchecked why)), verifier := { v with pool }, call := call? }) :
    v.Looks ledger now :=
  .failed hs hopen (.inr fun a ha => absurd ha (hno a)) (.unchecked why fun ⟨_, _, ha, _⟩ => hno _ ha) h

theorem looks (hopen : v.pool.closed = false) (ledger : LedgerView) (now : τ) :
    v.Looks ledger now := by
  cases hs : CachedRoot.serve? v.cache v.lifetime now with
  | some root => exact .kept hs (currentRoot_of_kept hs)
  | none =>
    rcases Nat.lt_or_ge v.pool.stuck v.pool.capacity with hfree | hfull
    · cases hr : ledger.currentRoot with
      | answer answer =>
        have hlook := currentRoot_of_answer hopen hs hfree hr
        cases hroot : answer.toRoot? with
        | some root =>
          rw [store_of_root hroot] at hlook
          exact .fetched hs hr hroot hlook
        | none =>
          obtain ⟨e, he, hstore⟩ : ∃ e, FailsWith (.answer answer) (some .currentRoot) e ∧
            store now v answer = (.error e, v) := store_of_none hroot
          rw [hstore] at hlook
          refine .failed hs hopen (.inr fun a h => ?_) (hr ▸ he) hlook
          obtain rfl := Response.answer.inj (hr.symm.trans h)
          exact hroot
      | failure reason =>
        exact .of_not_answer hs hopen (fun _ h => nomatch hr.symm.trans h)
          (currentRoot_of_failure hopen hs hfree hr)
      | timeout =>
        obtain ⟨call?, hlook⟩ := currentRoot_of_timeout hopen hs hr
        exact .of_not_answer hs hopen (fun _ h => nomatch hr.symm.trans h) hlook
      | hang =>
        refine .of_not_answer hs ?_ (fun _ h => nomatch hr.symm.trans h)
          (currentRoot_of_hang hopen hs hfree hr)
        exact hopen
    · exact .failed hs hopen (.inl rfl) (.unchecked _ fun h => nomatch h.1)
        ((currentRoot_of_stale hs).trans (ask_of_full hopen hfull))

theorem submits_of_stale (hopen : v.pool.closed = false)
    (h : CachedRoot.serve? v.cache v.lifetime now = none) :
    ∃ submission, v.pool.submit ledger.currentRoot = .ok submission ∧
      (v.currentRoot ledger now).verifier.pool = submission.pool ∧
        (v.currentRoot ledger now).call =
          if submission.started then some .currentRoot else none := by
  rw [currentRoot_of_stale h]
  unfold ask
  cases hs : v.pool.submit ledger.currentRoot with
  | error f =>
    unfold Pool.submit at hs
    rw [if_neg (by simp [hopen])] at hs
    split at hs
    · exact nomatch hs
    · split at hs <;> exact nomatch hs
  | ok submission =>
    refine ⟨submission, rfl, ?_⟩
    obtain ⟨started, reply, pool⟩ := submission
    cases reply with
    | answer answer =>
      have hstore : ∀ w : RootVerifier τ, (store now w answer).2.pool = w.pool := by
        intro w
        unfold store
        cases answer.toRoot? <;> rfl
      exact ⟨hstore _, rfl⟩
    | failure reason | missedDeadline => exact ⟨rfl, rfl⟩

end RootVerifier

namespace Session

variable {ι τ : Type}

theorem Taken.answer_error {provided? : Option Root} {e : Raised RootError} :
    (Taken.root provided? (.error e) : Taken τ).answer = .error e := by
  cases provided? <;> rfl

theorem Taken.answer_injective {provided? : Option Root} {stored other : Root}
    (h : (Taken.root provided? (.ok stored) : Taken τ).answer =
      (Taken.root provided? (.ok other)).answer) : stored = other := by
  cases provided? with
  | none => exact Grant.root.inj (Except.ok.inj h)
  | some provided =>
    simp only [answer, Except.bind] at h
    split at h <;> split at h <;> simp_all

theorem FailsWith.ne_answer {response : Response LedgerValue} {call? : Option RemoteCall}
    {e : Raised RootError} (he : FailsWith response call? e) {provided? : Option Root} {stored : Root} :
    (.error e : Except (Raised RootError) (Grant τ)) ≠
      (Taken.root provided? (.ok stored)).answer := by
  intro h
  cases provided? with
  | none => exact nomatch h
  | some provided =>
    simp only [Taken.answer, Except.bind] at h
    split at h
    · exact nomatch h
    · cases he <;> exact nomatch h

variable [Add τ] [Sub τ] [LT τ] [DecidableLT τ]

theorem serve_of_error {v : RootVerifier τ} {u : Use ι τ} {e : Raised RootError}
    (h : u.request.aim = .error e) :
    v.serve u = { result := .error e, verifier := v, call := none } := by
  unfold Request.aim at h
  unfold RootVerifier.serve
  cases hr : u.request with
  | verify root =>
    rw [hr] at h
    cases hp : Root.parse root with
    | error e' =>
      simp only [hp, Except.map] at h
      obtain rfl := Except.error.inj h
      simp only [RootVerifier.verify, hp]
      rfl
    | ok provided =>
      simp only [hp, Except.map] at h
      exact nomatch h
  | currentRoot | expiry =>
    rw [hr] at h
    exact nomatch h

theorem serve_of_expiry {v : RootVerifier τ} {u : Use ι τ} (h : u.request.aim = .ok .expiry) :
    v.serve u = { result := .ok (.expiry v.expiry?), verifier := v, call := none } := by
  unfold Request.aim at h
  unfold RootVerifier.serve
  cases hr : u.request with
  | verify root =>
    rw [hr] at h
    cases hp : Root.parse root <;> simp only [hp, Except.map] at h <;> exact nomatch h
  | currentRoot =>
    rw [hr] at h
    exact nomatch h
  | expiry => rfl

theorem serve_of_root {v : RootVerifier τ} (hk : v.kind = .cached) {u : Use ι τ}
    {provided? : Option Root} (h : u.request.aim = .ok (.root provided?)) :
    v.serve u =
      { result := (Taken.root provided? (v.currentRoot u.ledger u.now).result).answer
        verifier := (v.currentRoot u.ledger u.now).verifier
        call := (v.currentRoot u.ledger u.now).call } := by
  unfold Request.aim at h
  unfold RootVerifier.serve
  cases hr : u.request with
  | verify root =>
    rw [hr] at h
    cases hp : Root.parse root with
    | error e =>
      simp only [hp, Except.map] at h
      exact nomatch h
    | ok provided =>
      simp only [hp, Except.map] at h
      obtain rfl := Aim.root.inj (Except.ok.inj h)
      simp only [RootVerifier.verify, hp, hk, RootVerifier.compare, Taken.answer]
      cases (v.currentRoot u.ledger u.now).result with
      | error e => rfl
      | ok stored =>
        simp only [Except.bind]
        split <;> rfl
  | currentRoot =>
    rw [hr] at h
    obtain rfl := Aim.root.inj (Except.ok.inj h)
    rfl
  | expiry =>
    rw [hr] at h
    exact nomatch h

namespace Turn

/-- The turn is for a root: the current one, or one to be compared with it. -/
def IsForRoot (t : Turn ι τ) : Prop :=
  ∃ provided?, t.use.request.aim = .ok (.root provided?)

/-- The turn is answered by a stored root: that root itself, or what a comparison with it says. -/
def AnsweredBy (t : Turn ι τ) (stored : Root) : Prop :=
  ∃ provided?, t.use.request.aim = .ok (.root provided?) ∧
    t.step.result = (Taken.root provided? (.ok stored)).answer

/-- The turn asks the ledger for the current root and is told it. -/
def Fetches (t : Turn ι τ) (root : Root) : Prop :=
  t.step.call = some .currentRoot ∧ t.use.ledger.currentRoot = .answer (.bytes root.bytes)

def IsFresh (t : Turn ι τ) : Prop :=
  ∃ ends, t.before.expiry? = some ends ∧ t.use.now < ends

/-- The turn is answered by what is kept, and touches neither the workers nor the ledger. -/
def IsHit (t : Turn ι τ) : Prop :=
  ∃ entry, t.before.cache = some entry ∧ t.AnsweredBy entry.root ∧
    t.step.verifier = t.before ∧ t.step.call = none

/-- The turn makes one call, which starts if a worker is free. -/
def Submits (t : Turn ι τ) : Prop :=
  ∃ submission, t.before.pool.submit t.use.ledger.currentRoot = .ok submission ∧
    t.step.verifier.pool = submission.pool ∧
      t.step.call = if submission.started then some .currentRoot else none

/-- The turn's call brings what is no root and cannot be shown. -/
def MeetsUnshown (t : Turn ι τ) : Prop :=
  t.step.call = some .currentRoot ∧ IsUnshown t.use.ledger.currentRoot

inductive Outcome (t : Turn ι τ) : Prop where
  | idle (hnot : ¬ t.IsForRoot) (hstep : t.step.verifier = t.before) (hcall : t.step.call = none)
  | hit {entry : CachedRoot τ} (hcache : t.before.cache = some entry)
    (hfresh : t.use.now - entry.fetchedAt < t.before.lifetime) (ha : t.AnsweredBy entry.root)
    (hstep : t.step.verifier = t.before) (hcall : t.step.call = none)
  | fetched {root : Root} (hs : CachedRoot.serve? t.before.cache t.before.lifetime t.use.now = none)
    (hf : t.Fetches root) (ha : t.AnsweredBy root) (hstep : t.step.verifier =
      { t.before with cache := some { root, fetchedAt := t.use.now } })
  | failed {e : Raised RootError} {pool : Pool}
    (hs : CachedRoot.serve? t.before.cache t.before.lifetime t.use.now = none)
    (hnone : ∀ root, ¬ t.Fetches root) (he : FailsWith t.use.ledger.currentRoot t.step.call e)
    (hr : t.step.result = .error e) (hopen : pool.closed = false)
    (hstep : t.step.verifier = { t.before with pool })

end Turn

theorem Turn.outcome {t : Turn ι τ} (hk : t.before.kind = .cached)
    (hopen : t.before.pool.closed = false) : t.Outcome := by
  cases ha : t.use.request.aim with
  | error e =>
    have hserve : t.step = _ := serve_of_error ha
    refine .idle (fun ⟨_, h⟩ => nomatch ha.symm.trans h) ?_ ?_ <;> rw [hserve]
  | ok aim =>
    cases aim with
    | expiry =>
      have hserve : t.step = _ := serve_of_expiry ha
      refine .idle (fun ⟨_, h⟩ => nomatch ha.symm.trans h) ?_ ?_ <;> rw [hserve]
    | root provided? =>
      have hserve : t.step = _ := serve_of_root hk ha
      rcases RootVerifier.looks hopen t.use.ledger t.use.now with
        ⟨hs, hl⟩ | ⟨hs, hanswer, hroot, hl⟩ | @⟨e, pool, call?, hs, hstill, hnone, he, hl⟩ <;>
        rw [hl] at hserve
      · obtain ⟨entry, hcache, hfresh, rfl⟩ := CachedRoot.serve?_eq_some hs
        exact .hit hcache hfresh ⟨provided?, ha, congrArg RootStep.result hserve⟩
          (congrArg RootStep.verifier hserve) (congrArg RootStep.call hserve)
      · rw [RootVerifier.toRoot?_eq_some hroot] at hanswer
        exact .fetched hs ⟨congrArg RootStep.call hserve, hanswer⟩
          ⟨provided?, ha, congrArg RootStep.result hserve⟩ (congrArg RootStep.verifier hserve)
      · have hfails : FailsWith t.use.ledger.currentRoot t.step.call e := by
          rw [hserve]
          exact he
        refine .failed hs ?_ hfails ?_ hstill (congrArg RootStep.verifier hserve)
        · rintro root ⟨hcall, hanswer⟩
          rcases hnone with rfl | hnone
          · exact nomatch (congrArg RootStep.call hserve).symm.trans hcall
          · exact nomatch (hnone _ hanswer).symm.trans (RootVerifier.toRoot?_bytes root)
        · exact (congrArg RootStep.result hserve).trans Taken.answer_error

theorem Turn.AnsweredBy.unique {t : Turn ι τ} {stored other : Root} (h : t.AnsweredBy stored)
    (h' : t.AnsweredBy other) : stored = other := by
  obtain ⟨provided?, ha, hr⟩ := h
  obtain ⟨again?, ha', hr'⟩ := h'
  obtain rfl := Aim.root.inj (Except.ok.inj (ha.symm.trans ha'))
  exact Taken.answer_injective (hr.symm.trans hr')

theorem Turn.submits {t : Turn ι τ} (hk : t.before.kind = .cached)
    (hopen : t.before.pool.closed = false) (hfor : t.IsForRoot)
    (hs : CachedRoot.serve? t.before.cache t.before.lifetime t.use.now = none) : t.Submits := by
  obtain ⟨provided?, ha⟩ := hfor
  have hserve : t.step = _ := serve_of_root hk ha
  unfold Submits
  rw [hserve]
  exact RootVerifier.submits_of_stale hopen hs

theorem turns_append (v : RootVerifier τ) (first second : List (Event ι τ)) :
    turns v (first ++ second) = turns v first ++ turns (v.run first) second := by
  induction first generalizing v with
  | nil => rfl
  | cons event first ih =>
    cases event with
    | use u => exact congrArg (List.cons _) (ih _)
    | freed => exact ih _

theorem run_append (v : RootVerifier τ) (first second : List (Event ι τ)) :
    v.run (first ++ second) = (v.run first).run second := List.foldl_append

theorem turns_freed (v : RootVerifier τ) (events : List (Event ι τ)) :
    turns v (events ++ [.freed]) = turns v events := by
  rw [turns_append]
  exact List.append_nil _

theorem turns_split {v : RootVerifier τ} {events : List (Event ι τ)} {earlier later : List (Turn ι τ)}
    {t : Turn ι τ} (h : turns v events = earlier ++ t :: later) :
    ∃ before, turns v before = earlier ∧ v.run before = t.before := by
  induction events generalizing v earlier with
  | nil => simp [turns] at h
  | cons event events ih =>
    cases event with
    | use u =>
      cases earlier with
      | nil =>
        obtain ⟨rfl, -⟩ := List.cons.inj h
        exact ⟨[], rfl, rfl⟩
      | cons first earlier =>
        obtain ⟨rfl, hrest⟩ := List.cons.inj h
        obtain ⟨before, hturns, hrun⟩ := ih hrest
        exact ⟨.use u :: before, congrArg (List.cons _) hturns, hrun⟩
    | freed =>
      obtain ⟨before, hturns, hrun⟩ := ih h
      exact ⟨.freed :: before, hturns, hrun⟩

end Session
end IdentityProof
