import IdentityProof.Proofs.Json.Falsy
import IdentityProof.Proofs.Root.Session
import IdentityProof.Proofs.Root.Spelling
import IdentityProof.Root.Operation

/-! What a check of a root comes to, by the ledger that it meets. A root is found right or wrong on
the word of the ledger alone; whatever keeps the ledger from giving its word leaves the root
unchecked. -/

namespace IdentityProof

namespace Ledger

def Hangs (l : Ledger) (root : Root) : RemoteKind → Prop
  | .contract => l.isRootValid root = .hangs
  | .cached => l.currentRoot = .hangs
  | .events => l.findEvents root = .hangs ∨ l.findEvents root = .returns .hangs

/-- The call that checks a root raises an error. A search does so by itself or by the first step of
its scan, which may also be the end of the scan. -/
def Raises (l : Ledger) (root : Root) : RemoteKind → LedgerRaise → Prop
  | .contract, e => l.isRootValid root = .raises e
  | .cached, e => l.currentRoot = .raises e
  | .events, e => l.findEvents root = .raises e ∨
    l.findEvents root = .returns (.raises e) ∧ e.kind ≠ .endOfScan

/-- The call misses its deadline, or raises what cannot be told from that. -/
def Misses (l : Ledger) (root : Root) (kind : RemoteKind) : Prop :=
  l.Hangs root kind ∨ ∃ e, l.Raises root kind e ∧ e.kind = .timeout

end Ledger

structure Pool.IsFree (pool : Pool) : Prop where
  isOpen : pool.closed = false
  hasWorker : pool.stuck < pool.capacity

namespace Conduct

theorem map_eq_returns {f : α → β} {c : Conduct α} {b : β} :
    c.map f = .returns b ↔ ∃ a, c = .returns a ∧ f a = b := by
  cases c with
  | returns a =>
    constructor
    · exact fun h => ⟨a, rfl, Conduct.returns.inj h⟩
    · rintro ⟨_, ha, rfl⟩
      exact congrArg (fun a => Conduct.returns (f a)) (Conduct.returns.inj ha)
  | raises e | hangs => exact iff_of_false nofun nofun

theorem map_eq_raises {f : α → β} {c : Conduct α} {e : LedgerRaise} :
    c.map f = .raises e ↔ c = .raises e := by
  cases c with
  | returns a | hangs => exact iff_of_false nofun nofun
  | raises e' => exact ⟨fun h => congrArg _ (Conduct.raises.inj h), fun h => h ▸ rfl⟩

theorem map_eq_hangs {f : α → β} {c : Conduct α} : c.map f = .hangs ↔ c = .hangs := by
  cases c with
  | returns a | raises e => exact iff_of_false nofun nofun
  | hangs => exact iff_of_true rfl rfl

theorem bind_eq_hangs {f : α → Conduct β} {c : Conduct α} :
    c.bind f = .hangs ↔ c = .hangs ∨ ∃ a, c = .returns a ∧ f a = .hangs := by
  cases c <;> simp [bind]

theorem bind_eq_raises {f : α → Conduct β} {c : Conduct α} {e : LedgerRaise} :
    c.bind f = .raises e ↔ c = .raises e ∨ ∃ a, c = .returns a ∧ f a = .raises e := by
  cases c <;> simp [bind]

theorem first_eq_hangs {c : Conduct Json} : c.first = .hangs ↔ c = .hangs := by
  cases c with
  | returns event => simp [first]
  | hangs => simp [first]
  | raises e => by_cases hend : e.kind = .endOfScan <;> simp [first, hend]

theorem first_eq_raises {c : Conduct Json} {e : LedgerRaise} :
    c.first = .raises e ↔ c = .raises e ∧ e.kind ≠ .endOfScan := by
  cases c with
  | returns event => simp [first]
  | hangs => simp [first]
  | raises e' =>
    by_cases hend : e'.kind = .endOfScan
    · simp only [first, if_pos hend, reduceCtorEq, false_iff, raises.injEq]
      rintro ⟨rfl, hne⟩
      exact hne hend
    · simp only [first, if_neg hend, raises.injEq]
      refine ⟨fun h => ⟨h, ?_⟩, And.left⟩
      rwa [← h]

theorem response_of_timeout {e : LedgerRaise} (h : e.kind = .timeout) :
    (raises e : Conduct α).response = .timeout := if_pos h

theorem response_of_error {e : LedgerRaise} (h : e.kind ≠ .timeout) :
    (raises e : Conduct α).response = .failure e.reason := if_neg h

theorem eq_returns_of_response {c : Conduct α} {a : α} (h : c.response = .answer a) :
    c = .returns a := by
  cases c with
  | returns b => exact congrArg _ (Response.answer.inj h)
  | raises e =>
    by_cases hkind : e.kind = .timeout
    · exact nomatch (response_of_timeout hkind).symm.trans h
    · exact nomatch (response_of_error hkind).symm.trans h
  | hangs => exact nomatch h

end Conduct

theorem Ledger.course_eq_hangs {l : Ledger} {root : Root} {kind : RemoteKind} :
    l.course root kind = .hangs ↔ l.Hangs root kind := by
  cases kind with
  | contract | cached => exact Conduct.map_eq_hangs
  | events =>
    refine Conduct.map_eq_hangs.trans (Conduct.bind_eq_hangs.trans (or_congr_right ?_))
    simp only [Conduct.first_eq_hangs, exists_eq_right]

theorem Ledger.course_eq_raises {l : Ledger} {root : Root} {kind : RemoteKind} {e : LedgerRaise} :
    l.course root kind = .raises e ↔ l.Raises root kind e := by
  cases kind with
  | contract | cached => exact Conduct.map_eq_raises
  | events =>
    refine Conduct.map_eq_raises.trans (Conduct.bind_eq_raises.trans (or_congr_right ?_))
    simp only [Conduct.first_eq_raises]
    constructor
    · rintro ⟨scan, h, rfl, hend⟩
      exact ⟨h, hend⟩
    · exact fun ⟨h, hend⟩ => ⟨_, h, rfl, hend⟩

namespace RootStatus

variable {result : Except (Raised RootError) Unit}

theorem eq_ok_of_valid (h : ofResult result = .ok .valid) : result = .ok () := by
  unfold ofResult at h
  split at h
  · rfl
  all_goals exact nomatch h

theorem eq_invalid_of_invalidRoot (h : ofResult result = .ok .invalidRoot) :
    ∃ why, result = .error (.refused (.invalid why)) := by
  unfold ofResult at h
  split at h
  · exact nomatch h
  · exact ⟨_, rfl⟩
  all_goals exact nomatch h

theorem isError_ofResult : IsError (ofResult result) ↔ MeetsFault result := by
  unfold ofResult
  split
  · exact iff_of_false not_isError_ok not_meetsFault_ok
  · exact iff_of_false not_isError_ok not_meetsFault_refused
  · exact iff_of_false not_isError_ok not_meetsFault_refused
  · exact iff_of_true isError_error ⟨_, rfl⟩

end RootStatus

namespace RootVerifier

section Asking

variable {τ α β : Type} {v : RootVerifier τ} {call : RemoteCall} {c : Conduct α}
  {next : RootVerifier τ → α → Except (Raised RootError) β × RootVerifier τ}

theorem ask_of_closed (hclosed : v.pool.closed = true) {response : Response α} :
    v.ask call response next =
      { result := .error (.fault .poolClosed), verifier := v, call := none } := by
  unfold ask Pool.submit
  rw [if_pos hclosed]

theorem ask_of_returns (hfree : v.pool.IsFree) {a : α} (h : c = .returns a) :
    v.ask call c.response next =
      { result := (next v a).1, verifier := (next v a).2, call := some call } := by
  rw [ask_of_free hfree.isOpen hfree.hasWorker, h]
  rfl

theorem ask_of_raises (hfree : v.pool.IsFree) {e : LedgerRaise} (h : c = .raises e)
    (hkind : e.kind ≠ .timeout) :
    (v.ask call c.response next).result =
      .error (.refused (.unchecked (.callFailed call e.reason))) := by
  rw [ask_of_free hfree.isOpen hfree.hasWorker, h, Conduct.response_of_error hkind]

theorem ask_of_misses (hfree : v.pool.IsFree)
    (h : c = .hangs ∨ ∃ e, c = .raises e ∧ e.kind = .timeout) :
    (v.ask call c.response next).result =
      .error (.refused (.unchecked (.missedDeadline call v.timeout))) := by
  rw [ask_of_free hfree.isOpen hfree.hasWorker]
  rcases h with rfl | ⟨e, rfl, hkind⟩
  · rfl
  · rw [Conduct.response_of_timeout hkind]

theorem ask_of_decided (hfree : v.pool.IsFree) {accepted : α → Bool} {a : α}
    (h : c = .returns a) :
    (v.ask call c.response (decideBy accepted)).result =
      if accepted a then .ok () else .error (.refused (.invalid .rejected)) := by
  rw [ask_of_returns hfree h]
  rfl

end Asking

section Comparing

variable {τ : Type} {step : RootStep τ Root} {root : Root}

theorem compare_of_ok {current : Root} (h : step.result = .ok current) :
    (compare root step).result =
      if current = root then .ok () else .error (.refused (.invalid (.mismatch current root))) := by
  unfold compare
  rw [h]
  rfl

theorem compare_of_error {e : Raised RootError} (h : step.result = .error e) :
    (compare root step).result = .error e := by
  unfold compare
  rw [h]
  rfl

end Comparing

variable {τ : Type} [Sub τ] [LT τ] [DecidableLT τ]

/-- A check now has to make a call. -/
def NeedsCall (v : RootVerifier τ) (now : τ) : Prop :=
  v.kind = .cached → CachedRoot.serve? v.cache v.lifetime now = none

/-- The word of the ledger for a root or against it: a true or a false answer about it, a scan for
it whose first step brings an event or brings none, or the root that the ledger names, now or when it
was last asked. -/
inductive Attests (v : RootVerifier τ) (ledger : Ledger) (now : τ) (root : Root) : Bool → Prop where
  | confirmed {answer : Json} (hk : v.kind = .contract) (hfree : v.pool.IsFree)
    (h : ledger.isRootValid root = .returns answer) (hanswer : ¬ answer.Falsy) :
    Attests v ledger now root true
  | denied {answer : Json} (hk : v.kind = .contract) (hfree : v.pool.IsFree)
    (h : ledger.isRootValid root = .returns answer) (hanswer : answer.Falsy) :
    Attests v ledger now root false
  | found {event : Json} (hk : v.kind = .events) (hfree : v.pool.IsFree)
    (h : ledger.findEvents root = .returns (.returns event)) (hevent : event ≠ .null) :
    Attests v ledger now root true
  | nullFound (hk : v.kind = .events) (hfree : v.pool.IsFree)
    (h : ledger.findEvents root = .returns (.returns .null)) : Attests v ledger now root false
  | exhausted {e : LedgerRaise} (hk : v.kind = .events) (hfree : v.pool.IsFree)
    (h : ledger.findEvents root = .returns (.raises e)) (hend : e.kind = .endOfScan) :
    Attests v ledger now root false
  | kept {entry : CachedRoot τ} (hk : v.kind = .cached) (hcache : v.cache = some entry)
    (hfresh : now - entry.fetchedAt < v.lifetime) : Attests v ledger now root (entry.root = root)
  | fetched {current : Root} (hk : v.kind = .cached) (hfree : v.pool.IsFree)
    (hstale : CachedRoot.serve? v.cache v.lifetime now = none)
    (h : ledger.currentRoot = .returns (.bytes current.bytes)) :
    Attests v ledger now root (current = root)

/-- Why the ledger does not give its word about a root: the call that has to be made is not carried
out in time, raises an error, or brings no root. -/
inductive Fails (v : RootVerifier τ) (ledger : Ledger) (now : τ) (root : Root) :
    UncheckedRoot → Prop where
  | queued (hneeds : v.NeedsCall now) (hopen : v.pool.closed = false)
    (hfull : v.pool.capacity ≤ v.pool.stuck) :
    Fails v ledger now root (.missedDeadline v.kind.call v.timeout)
  | missed (hneeds : v.NeedsCall now) (hfree : v.pool.IsFree)
    (h : ledger.Misses root v.kind) :
    Fails v ledger now root (.missedDeadline v.kind.call v.timeout)
  | raised {e : LedgerRaise} (hneeds : v.NeedsCall now) (hfree : v.pool.IsFree)
    (h : ledger.Raises root v.kind e) (hkind : e.kind ≠ .timeout) :
    Fails v ledger now root (.callFailed v.kind.call e.reason)
  | malformed {answer : LedgerValue} {shown : String} (hk : v.kind = .cached)
    (hneeds : v.NeedsCall now) (hfree : v.pool.IsFree) (h : ledger.currentRoot = .returns answer)
    (hroot : ∀ current : Root, answer ≠ .bytes current.bytes) (hshown : answer.quoted = .ok shown) :
    Fails v ledger now root (.malformedAnswer shown)

/-- What keeps a check of a text from any result: the text has too many digits to be read, the
verifier is closed when it needs a call, or an answer that is no root has no text to be shown. -/
inductive Stops (v : RootVerifier τ) (ledger : Ledger) (now : τ) (s : String) : Prop where
  | overlong (h : Overlong s)
  | closed {root : Root} (hs : root.SpelledBy s) (hneeds : v.NeedsCall now)
    (hclosed : v.pool.closed = true)
  | unshown {root : Root} {answer : LedgerValue} (hs : root.SpelledBy s) (hk : v.kind = .cached)
    (hneeds : v.NeedsCall now) (hfree : v.pool.IsFree) (h : ledger.currentRoot = .returns answer)
    (hroot : answer.toRoot? = none) (hshown : IsError answer.quoted)

variable {v : RootVerifier τ} {ledger : Ledger} {now : τ} {root : Root} {s : String}

section Spelled

variable (hs : root.SpelledBy s)
include hs

theorem verify_of_contract (hk : v.kind = .contract) :
    v.verify ledger.view now (.text s) =
      v.ask .isRootValid (ledger.isRootValid root).response (decideBy Json.isGiven) := by
  unfold verify
  rw [Root.parse_of_spelled hs, hk]
  rfl

theorem verify_of_events (hk : v.kind = .events) :
    v.verify ledger.view now (.text s) =
      v.ask .findEvents (ledger.firstEvent root).response (decideBy isEvent) := by
  unfold verify
  rw [Root.parse_of_spelled hs, hk]
  rfl

theorem verify_of_cached (hk : v.kind = .cached) :
    v.verify ledger.view now (.text s) = compare root (v.currentRoot ledger.view now) := by
  unfold verify
  rw [Root.parse_of_spelled hs, hk]

theorem verify_of_stale (hk : v.kind = .cached)
    (hstale : CachedRoot.serve? v.cache v.lifetime now = none) :
    v.verify ledger.view now (.text s) =
      compare root (v.ask .currentRoot ledger.currentRoot.response (store now)) := by
  rw [verify_of_cached hs hk, currentRoot_of_stale hstale]
  rfl

end Spelled

theorem verify_of_unreadable (h : Root.Unreadable s) :
    v.verify ledger.view now (.text s) =
      { result := .error (.refused (.invalid (.unreadable (Text.quoted s))))
        verifier := v
        call := none } := by
  unfold verify
  rw [Root.parse_of_unreadable h]

theorem serve?_of_fresh {entry : CachedRoot τ} (hcache : v.cache = some entry)
    (hfresh : now - entry.fetchedAt < v.lifetime) :
    CachedRoot.serve? v.cache v.lifetime now = some entry.root := by
  have hyes : entry.isFresh v.lifetime now = true := decide_eq_true hfresh
  rw [hcache]
  exact if_pos hyes

theorem toRoot?_eq_none {answer : LedgerValue} :
    answer.toRoot? = none ↔ ∀ current : Root, answer ≠ .bytes current.bytes := by
  constructor
  · rintro h current rfl
    exact nomatch h.symm.trans (toRoot?_bytes current)
  · intro h
    cases hroot : answer.toRoot? with
    | none => rfl
    | some current => exact absurd (toRoot?_eq_some hroot) (h current)

theorem isEvent_of_ne_null {event : Json} (h : event ≠ .null) : isEvent (some event) = true := by
  cases event with
  | null => exact absurd rfl h
  | bool | number | text | array | object => rfl

theorem firstEvent_of_scan {scan : Conduct Json} (h : ledger.findEvents root = .returns scan) :
    ledger.firstEvent root = scan.first := by
  unfold Ledger.firstEvent
  rw [h]
  rfl

theorem status_of_contract (hs : root.SpelledBy s) (hk : v.kind = .contract)
    (hfree : v.pool.IsFree) {answer : Json} (h : ledger.isRootValid root = .returns answer) :
    RootStatus.ofResult (v.verify ledger.view now (.text s)).result =
      .ok (if answer.isGiven then .valid else .invalidRoot) := by
  rw [verify_of_contract hs hk, ask_of_decided hfree h]
  cases answer.isGiven <;> rfl

theorem status_of_events (hs : root.SpelledBy s) (hk : v.kind = .events) (hfree : v.pool.IsFree)
    {scan : Conduct Json} (h : ledger.findEvents root = .returns scan) {event : Option Json}
    (hfirst : scan.first = .returns event) :
    RootStatus.ofResult (v.verify ledger.view now (.text s)).result =
      .ok (if isEvent event then .valid else .invalidRoot) := by
  rw [verify_of_events hs hk, ask_of_decided hfree ((firstEvent_of_scan h).trans hfirst)]
  cases isEvent event <;> rfl

theorem status_of_attested (hs : root.SpelledBy s) {yes : Bool} (h : v.Attests ledger now root yes) :
    RootStatus.ofResult (v.verify ledger.view now (.text s)).result =
      .ok (if yes then .valid else .invalidRoot) := by
  cases h with
  | confirmed hk hfree h hanswer =>
    rw [status_of_contract hs hk hfree h, Json.isGiven_iff.mpr hanswer]
  | denied hk hfree h hanswer =>
    have hnot := Bool.eq_false_iff.mpr fun hgiven => Json.isGiven_iff.mp hgiven hanswer
    rw [status_of_contract hs hk hfree h, hnot]
  | found hk hfree h hevent =>
    rw [status_of_events hs hk hfree h rfl, isEvent_of_ne_null hevent]
  | nullFound hk hfree h => exact status_of_events hs hk hfree h rfl
  | exhausted hk hfree h hend => exact status_of_events hs hk hfree h (if_pos hend)
  | @kept entry hk hcache hfresh =>
    have hkept : v.currentRoot ledger.view now = _ :=
      currentRoot_of_kept (serve?_of_fresh hcache hfresh)
    rw [verify_of_cached hs hk, compare_of_ok (congrArg RootStep.result hkept)]
    by_cases he : entry.root = root <;> simp only [he, decide_true, decide_false] <;> rfl
  | @fetched current hk hfree hstale h =>
    rw [verify_of_stale hs hk hstale, ask_of_returns hfree h, store_of_root (toRoot?_bytes current),
      compare_of_ok rfl]
    by_cases he : current = root <;> simp only [he, decide_true, decide_false] <;> rfl

theorem result_of_call (hs : root.SpelledBy s) (hneeds : v.NeedsCall now) {e : Raised RootError}
    (h : ∀ (α β : Type) (c : Conduct α)
      (next : RootVerifier τ → α → Except (Raised RootError) β × RootVerifier τ),
      c.map (fun _ => ()) = ledger.course root v.kind →
        (v.ask v.kind.call c.response next).result = .error e) :
    (v.verify ledger.view now (.text s)).result = .error e := by
  cases hk : v.kind with
  | contract =>
    rw [hk] at h
    rw [verify_of_contract hs hk]
    exact h _ _ _ _ rfl
  | events =>
    rw [hk] at h
    rw [verify_of_events hs hk]
    exact h _ _ _ _ rfl
  | cached =>
    rw [hk] at h
    rw [verify_of_stale hs hk (hneeds hk)]
    exact compare_of_error (h _ _ _ _ rfl)

theorem result_of_fails (hs : root.SpelledBy s) {why : UncheckedRoot}
    (h : v.Fails ledger now root why) :
    (v.verify ledger.view now (.text s)).result = .error (.refused (.unchecked why)) := by
  cases h with
  | queued hneeds hopen hfull =>
    refine result_of_call hs hneeds fun α β c next _ => ?_
    rw [ask_of_full hopen hfull]
  | missed hneeds hfree h =>
    refine result_of_call hs hneeds fun α β c next hc => ?_
    unfold Ledger.Misses at h
    simp only [← Ledger.course_eq_hangs, ← Ledger.course_eq_raises, ← hc, Conduct.map_eq_hangs,
      Conduct.map_eq_raises] at h
    exact ask_of_misses hfree h
  | raised hneeds hfree h hkind =>
    refine result_of_call hs hneeds fun α β c next hc => ?_
    exact ask_of_raises hfree
      (Conduct.map_eq_raises.mp (hc.trans (Ledger.course_eq_raises.mpr h))) hkind
  | malformed hk hneeds hfree h hroot hshown =>
    rw [verify_of_stale hs hk (hneeds hk), ask_of_returns hfree h]
    refine compare_of_error ?_
    unfold store
    rw [toRoot?_eq_none.mpr hroot, hshown]

theorem result_of_stops (h : v.Stops ledger now s) :
    ∃ f, (v.verify ledger.view now (.text s)).result = .error (.fault f) := by
  cases h with
  | overlong h =>
    obtain ⟨f, hf⟩ := Root.parse_of_overlong h
    refine ⟨f, ?_⟩
    unfold verify
    rw [hf]
  | closed hs hneeds hclosed =>
    refine ⟨.poolClosed, result_of_call hs hneeds fun α β c next _ => ?_⟩
    rw [ask_of_closed hclosed]
  | unshown hs hk hneeds hfree h hroot hshown =>
    obtain ⟨f, hf⟩ := hshown
    refine ⟨f, ?_⟩
    rw [verify_of_stale hs hk (hneeds hk), ask_of_returns hfree h]
    refine compare_of_error ?_
    unfold store
    rw [hroot, hf]

theorem attests_of_firstEvent (hk : v.kind = .events) (hfree : v.pool.IsFree)
    {event : Option Json} (h : ledger.firstEvent root = .returns event) :
    ∃ yes, v.Attests ledger now root yes := by
  cases hscan : ledger.findEvents root with
  | returns scan =>
    rw [firstEvent_of_scan hscan] at h
    cases scan with
    | returns event =>
      by_cases hevent : event = .null
      · subst hevent
        exact ⟨_, .nullFound hk hfree hscan⟩
      · exact ⟨_, .found hk hfree hscan hevent⟩
    | raises e =>
      by_cases hend : e.kind = .endOfScan
      · exact ⟨_, .exhausted hk hfree hscan hend⟩
      · exact nomatch (if_neg hend).symm.trans h
    | hangs => exact nomatch h
  | raises e | hangs =>
    unfold Ledger.firstEvent at h
    rw [hscan] at h
    exact nomatch h

section Cases

variable (v ledger now)

theorem attests_or_malformed (hs : root.SpelledBy s) (hneeds : v.NeedsCall now)
    (hfree : v.pool.IsFree) (h : ledger.course root v.kind = .returns ()) :
    v.Stops ledger now s ∨ (∃ yes, v.Attests ledger now root yes) ∨
      ∃ why, v.Fails ledger now root why := by
  cases hk : v.kind with
  | contract =>
    rw [hk] at h
    obtain ⟨answer, ha, -⟩ := Conduct.map_eq_returns.mp h
    by_cases hanswer : answer.Falsy
    · exact .inr (.inl ⟨_, .denied hk hfree ha hanswer⟩)
    · exact .inr (.inl ⟨_, .confirmed hk hfree ha hanswer⟩)
  | events =>
    rw [hk] at h
    obtain ⟨event, hfirst, -⟩ := Conduct.map_eq_returns.mp h
    exact .inr (.inl (attests_of_firstEvent hk hfree hfirst))
  | cached =>
    rw [hk] at h
    obtain ⟨answer, ha, -⟩ := Conduct.map_eq_returns.mp h
    cases hroot : answer.toRoot? with
    | some current =>
      rw [toRoot?_eq_some hroot] at ha
      exact .inr (.inl ⟨_, .fetched hk hfree (hneeds hk) ha⟩)
    | none =>
      cases hshown : answer.quoted with
      | ok shown =>
        exact .inr (.inr ⟨_, .malformed hk hneeds hfree ha (toRoot?_eq_none.mp hroot) hshown⟩)
      | error f => exact .inl (.unshown hs hk hneeds hfree ha hroot ⟨f, hshown⟩)

theorem attests_or_fails (hs : root.SpelledBy s) :
    v.Stops ledger now s ∨ (∃ yes, v.Attests ledger now root yes) ∨
      ∃ why, v.Fails ledger now root why := by
  by_cases hneeds : v.NeedsCall now
  · cases hclosed : v.pool.closed with
    | true => exact .inl (.closed hs hneeds hclosed)
    | false =>
      rcases Nat.lt_or_ge v.pool.stuck v.pool.capacity with hworker | hfull
      · have hfree : v.pool.IsFree := ⟨hclosed, hworker⟩
        cases h : ledger.course root v.kind with
        | returns a => exact attests_or_malformed v ledger now hs hneeds hfree h
        | hangs => exact .inr (.inr ⟨_, .missed hneeds hfree (.inl (Ledger.course_eq_hangs.mp h))⟩)
        | raises e =>
          have h := Ledger.course_eq_raises.mp h
          by_cases hkind : e.kind = .timeout
          · exact .inr (.inr ⟨_, .missed hneeds hfree (.inr ⟨e, h, hkind⟩)⟩)
          · exact .inr (.inr ⟨_, .raised hneeds hfree h hkind⟩)
      · exact .inr (.inr ⟨_, .queued hneeds hclosed hfull⟩)
  · obtain ⟨hk, hserve⟩ := Classical.not_imp.mp hneeds
    obtain ⟨current, hcurrent⟩ := Option.ne_none_iff_exists'.mp hserve
    obtain ⟨entry, hcache, hfresh, -⟩ := CachedRoot.serve?_eq_some hcurrent
    exact .inr (.inl ⟨_, .kept hk hcache hfresh⟩)

theorem verdict_cases (s : String) :
    v.Stops ledger now s ∨ Root.Unreadable s ∨ ∃ root : Root, root.SpelledBy s ∧
      ((∃ yes, v.Attests ledger now root yes) ∨ ∃ why, v.Fails ledger now root why) := by
  rcases Root.spelling_cases s with hlong | hbad | ⟨root, hs⟩
  · exact .inl (.overlong hlong)
  · exact .inr (.inl hbad)
  · exact (attests_or_fails v ledger now hs).imp_right fun h => .inr ⟨root, hs, h⟩

end Cases

theorem accepted_iff : (v.verify ledger.view now (.text s)).result = .ok () ↔
    ∃ root : Root, root.SpelledBy s ∧ v.Attests ledger now root true := by
  constructor
  · intro hr
    rcases verdict_cases v ledger now s with hstops | hbad | ⟨root, hs, ⟨yes, hword⟩ | ⟨why, hfails⟩⟩
    · obtain ⟨f, hf⟩ := result_of_stops hstops
      exact nomatch hf.symm.trans hr
    · exact nomatch (congrArg RootStep.result (verify_of_unreadable hbad)).symm.trans hr
    · have hstatus := status_of_attested hs hword
      rw [hr] at hstatus
      cases yes with
      | true => exact ⟨root, hs, hword⟩
      | false => exact nomatch hstatus
    · exact nomatch (result_of_fails hs hfails).symm.trans hr
  · rintro ⟨root, hs, hword⟩
    exact RootStatus.eq_ok_of_valid (status_of_attested hs hword)

theorem wrong_iff : (∃ why, (v.verify ledger.view now (.text s)).result =
    .error (.refused (.invalid why))) ↔
      Root.Unreadable s ∨ ∃ root : Root, root.SpelledBy s ∧ v.Attests ledger now root false := by
  constructor
  · rintro ⟨why, hr⟩
    rcases verdict_cases v ledger now s with hstops | hbad | ⟨root, hs, ⟨yes, hword⟩ | ⟨why, hfails⟩⟩
    · obtain ⟨f, hf⟩ := result_of_stops hstops
      exact nomatch hf.symm.trans hr
    · exact .inl hbad
    · have hstatus := status_of_attested hs hword
      rw [hr] at hstatus
      cases yes with
      | true => exact nomatch hstatus
      | false => exact .inr ⟨root, hs, hword⟩
    · exact nomatch (result_of_fails hs hfails).symm.trans hr
  · rintro (hbad | ⟨root, hs, hword⟩)
    · exact ⟨_, congrArg RootStep.result (verify_of_unreadable hbad)⟩
    · exact RootStatus.eq_invalid_of_invalidRoot (status_of_attested hs hword)

theorem unchecked_iff {why : UncheckedRoot} :
    (v.verify ledger.view now (.text s)).result = .error (.refused (.unchecked why)) ↔
      ∃ root : Root, root.SpelledBy s ∧ v.Fails ledger now root why := by
  constructor
  · intro hr
    rcases verdict_cases v ledger now s with hstops | hbad | ⟨root, hs, ⟨yes, hword⟩ | ⟨why, hfails⟩⟩
    · obtain ⟨f, hf⟩ := result_of_stops hstops
      exact nomatch hf.symm.trans hr
    · exact nomatch (congrArg RootStep.result (verify_of_unreadable hbad)).symm.trans hr
    · have hstatus := status_of_attested hs hword
      rw [hr] at hstatus
      cases yes <;> exact nomatch hstatus
    · have hwhy := (result_of_fails hs hfails).symm.trans hr
      obtain rfl := RootError.unchecked.inj (Raised.refused.inj (Except.error.inj hwhy))
      exact ⟨root, hs, hfails⟩
  · rintro ⟨root, hs, hfails⟩
    exact result_of_fails hs hfails

theorem meetsFault_verify : MeetsFault (v.verify ledger.view now (.text s)).result ↔
    v.Stops ledger now s := by
  constructor
  · rintro ⟨f, hr⟩
    rcases verdict_cases v ledger now s with hstops | hbad | ⟨root, hs, ⟨yes, hword⟩ | ⟨why, hfails⟩⟩
    · exact hstops
    · exact nomatch (congrArg RootStep.result (verify_of_unreadable hbad)).symm.trans hr
    · have hstatus := status_of_attested hs hword
      rw [hr] at hstatus
      exact nomatch hstatus
    · exact nomatch (result_of_fails hs hfails).symm.trans hr
  · exact result_of_stops

end RootVerifier
end IdentityProof
