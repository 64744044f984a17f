import IdentityProof.Proofs.Root.Session
import Mathlib.Algebra.Order.Group.Int
import Mathlib.Algebra.Order.Group.Unbundled.Basic
import Mathlib.Algebra.Order.Monoid.Defs
import Mathlib.Data.List.Induction

/-! The lifetime of a cached root over whole sessions. What is kept was fetched, nothing is fetched
while it is fresh, and no answer is older than the lifetime. Time is exact: an ordered group. -/

namespace IdentityProof

namespace Session

section Order

variable {ι τ : Type} [LinearOrder τ]

def InOrder (turns : List (Turn ι τ)) : Prop :=
  turns.Pairwise fun s t => s.use.now ≤ t.use.now

theorem InOrder.concat {turns : List (Turn ι τ)} {last : Turn ι τ} (h : InOrder turns)
    (hlast : ∀ t ∈ turns, t.use.now ≤ last.use.now) : InOrder (turns ++ [last]) := by
  refine List.pairwise_append.mpr ⟨h, List.pairwise_singleton _ _, fun t ht => ?_⟩
  exact List.forall_mem_singleton.mpr (hlast t ht)

end Order

variable {ι τ : Type} [AddCommGroup τ] [LinearOrder τ]

/-- The state that a session reaches from an empty cache: an entry was fetched by one of the turns so
far, and none of them fetched a later one. -/
structure Backed (v : RootVerifier τ) (earlier : List (Turn ι τ)) (w : RootVerifier τ) : Prop where
  kind : w.kind = .cached
  lifetime : w.lifetime = v.lifetime
  isOpen : w.pool.closed = false
  fetched : ∀ entry, w.cache = some entry →
    ∃ f ∈ earlier, f.Fetches entry.root ∧ f.use.now = entry.fetchedAt
  latest : ∀ f ∈ earlier, ∀ root, f.Fetches root →
    ∃ entry, w.cache = some entry ∧ f.use.now ≤ entry.fetchedAt

variable {v w : RootVerifier τ} {earlier : List (Turn ι τ)}

theorem Backed.outcome (h : Backed v earlier w) (u : Use ι τ) : (⟨u, w⟩ : Turn ι τ).Outcome :=
  Turn.outcome h.kind h.isOpen

theorem Backed.free (h : Backed v earlier w) : Backed v earlier { w with pool := w.pool.free } :=
  ⟨h.kind, h.lifetime, h.isOpen, h.fetched, h.latest⟩

theorem Backed.of_not_fetches (h : Backed v earlier w) {u : Use ι τ} {pool : Pool}
    (hopen : pool.closed = false) (hnone : ∀ root, ¬ (⟨u, w⟩ : Turn ι τ).Fetches root) :
    Backed v (earlier ++ [⟨u, w⟩]) { w with pool } where
  kind := h.kind
  lifetime := h.lifetime
  isOpen := hopen
  fetched entry he := by
    obtain ⟨f, hf, hfetch⟩ := h.fetched entry he
    exact ⟨f, List.mem_append_left _ hf, hfetch⟩
  latest f hf root hfetch := by
    rcases List.mem_append.mp hf with hf | hf
    · exact h.latest f hf root hfetch
    · obtain rfl := List.mem_singleton.mp hf
      exact absurd hfetch (hnone root)

theorem Backed.of_fetches (h : Backed v earlier w) {u : Use ι τ} {root : Root}
    (htimes : ∀ f ∈ earlier, f.use.now ≤ u.now) (hfetch : (⟨u, w⟩ : Turn ι τ).Fetches root) :
    Backed v (earlier ++ [⟨u, w⟩]) { w with cache := some { root, fetchedAt := u.now } } where
  kind := h.kind
  lifetime := h.lifetime
  isOpen := h.isOpen
  fetched entry he := by
    obtain rfl := Option.some.inj he
    exact ⟨_, List.mem_append_right _ List.mem_cons_self, hfetch, rfl⟩
  latest f hf _ _ := by
    refine ⟨_, rfl, ?_⟩
    rcases List.mem_append.mp hf with hf | hf
    · exact htimes f hf
    · obtain rfl := List.mem_singleton.mp hf
      exact le_refl _

theorem Backed.serve (h : Backed v earlier w) {u : Use ι τ}
    (htimes : ∀ f ∈ earlier, f.use.now ≤ u.now) :
    Backed v (earlier ++ [⟨u, w⟩]) (w.serve u).verifier := by
  rcases h.outcome u with ⟨-, hstep, hcall⟩ | ⟨-, -, -, hstep, hcall⟩ | ⟨-, hf, -, hstep⟩ |
    ⟨-, hnone, -, -, hopen, hstep⟩
  · rw [show (w.serve u).verifier = w from hstep]
    exact h.of_not_fetches h.isOpen fun root hf => nomatch hcall.symm.trans hf.1
  · rw [show (w.serve u).verifier = w from hstep]
    exact h.of_not_fetches h.isOpen fun root hf => nomatch hcall.symm.trans hf.1
  · rw [show (w.serve u).verifier = _ from hstep]
    exact h.of_fetches htimes hf
  · rw [show (w.serve u).verifier = _ from hstep]
    exact h.of_not_fetches hopen hnone

def FetchesApart (lifetime : τ) (turns : List (Turn ι τ)) : Prop :=
  turns.Pairwise fun s t =>
    ∀ root other, s.Fetches root → t.Fetches other → lifetime ≤ t.use.now - s.use.now

theorem Backed.answered (h : Backed v earlier w) (hlife : 0 < v.lifetime) {u : Use ι τ}
    (htimes : ∀ f ∈ earlier, f.use.now ≤ u.now) {stored : Root}
    (ha : (⟨u, w⟩ : Turn ι τ).AnsweredBy stored) :
    ∃ f ∈ earlier ++ [⟨u, w⟩], f.Fetches stored ∧ f.use.now ≤ u.now ∧
      u.now - f.use.now < v.lifetime := by
  rcases h.outcome u with ⟨hnot, -, -⟩ | ⟨hcache, hfresh, hkept, -, -⟩ | ⟨-, hf, hnew, -⟩ |
    ⟨-, -, he, hr, -, -⟩
  · obtain ⟨provided?, ha, -⟩ := ha
    exact absurd ⟨provided?, ha⟩ hnot
  · obtain rfl := hkept.unique ha
    obtain ⟨f, hmem, hf, hat⟩ := h.fetched _ hcache
    rw [← hat, h.lifetime] at hfresh
    exact ⟨f, List.mem_append_left _ hmem, hf, htimes f hmem, hfresh⟩
  · obtain rfl := hnew.unique ha
    refine ⟨_, List.mem_append_right _ List.mem_cons_self, hf, le_refl _, ?_⟩
    rwa [sub_self]
  · obtain ⟨provided?, -, ha⟩ := ha
    exact absurd (hr.symm.trans ha) he.ne_answer

theorem FetchesApart.of_lt {lifetime : τ} {turns : List (Turn ι τ)}
    (hapart : FetchesApart lifetime turns) (horder : InOrder turns) {s t : Turn ι τ} (hs : s ∈ turns)
    (ht : t ∈ turns) {root other : Root} (hf : s.Fetches root) (hg : t.Fetches other)
    (hlt : s.use.now < t.use.now) : lifetime ≤ t.use.now - s.use.now := by
  obtain ⟨i, hi, rfl⟩ := List.getElem_of_mem hs
  obtain ⟨j, hj, rfl⟩ := List.getElem_of_mem ht
  rcases Nat.lt_trichotomy i j with hij | rfl | hij
  · exact List.pairwise_iff_getElem.mp hapart i j hi hj hij root other hf hg
  · exact absurd hlt (lt_irrefl _)
  · exact absurd (List.pairwise_iff_getElem.mp horder j i hj hi hij) (not_le.mpr hlt)

variable [IsOrderedAddMonoid τ]

theorem Backed.apart (h : Backed v earlier w) {u : Use ι τ} {other : Root}
    (hu : (⟨u, w⟩ : Turn ι τ).Fetches other) {s : Turn ι τ} (hs : s ∈ earlier) {root : Root}
    (hf : s.Fetches root) : v.lifetime ≤ u.now - s.use.now := by
  obtain ⟨entry, hcache, hle⟩ := h.latest s hs root hf
  rcases h.outcome u with ⟨-, -, hcall⟩ | ⟨-, -, -, -, hcall⟩ | ⟨hstale, -, -, -⟩ | ⟨-, hnone, -⟩
  · exact nomatch hcall.symm.trans hu.1
  · exact nomatch hcall.symm.trans hu.1
  · have hold := not_lt.mp (CachedRoot.serve?_eq_none hstale hcache)
    rw [h.lifetime] at hold
    exact hold.trans (sub_le_sub_left hle _)
  · exact absurd hu (hnone other)

structure Starts (v : RootVerifier τ) : Prop where
  kind : v.kind = .cached
  isOpen : v.pool.closed = false
  isEmpty : v.cache = none

theorem backed_run (hv : Starts v) {events : List (Event ι τ)} (htimes : InOrder (turns v events)) :
    Backed v (turns v events) (v.run events) ∧ FetchesApart v.lifetime (turns v events) := by
  induction events using List.reverseRecOn with
  | nil =>
    refine ⟨⟨hv.kind, rfl, hv.isOpen, fun entry he => ?_, fun f hf => nomatch hf⟩, .nil⟩
    exact nomatch hv.isEmpty.symm.trans he
  | append_singleton events event ih =>
    rw [run_append]
    cases event with
    | freed =>
      rw [turns_freed] at htimes ⊢
      obtain ⟨hbacked, hapart⟩ := ih htimes
      exact ⟨hbacked.free, hapart⟩
    | use u =>
      rw [turns_append] at htimes ⊢
      obtain ⟨hbefore, -, hlast⟩ := List.pairwise_append.mp htimes
      obtain ⟨hbacked, hapart⟩ := ih hbefore
      have htimes : ∀ f ∈ turns v events, f.use.now ≤ u.now := fun f hf =>
        hlast f hf _ List.mem_cons_self
      refine ⟨hbacked.serve htimes, List.pairwise_append.mpr ⟨hapart, List.pairwise_singleton _ _, ?_⟩⟩
      intro s hs t ht root other hf hu
      obtain rfl := List.mem_singleton.mp ht
      exact hbacked.apart hu hs hf

theorem backed_before (hv : Starts v) {events : List (Event ι τ)} (htimes : InOrder (turns v events))
    {later : List (Turn ι τ)} {t : Turn ι τ} (h : turns v events = earlier ++ t :: later) :
    Backed v earlier t.before := by
  obtain ⟨before, hturns, hrun⟩ := turns_split h
  rw [h] at htimes
  obtain ⟨hbefore, -, -⟩ := List.pairwise_append.mp htimes
  rw [← hturns] at hbefore ⊢
  rw [← hrun]
  exact (backed_run hv hbefore).1

theorem Turn.isFresh_iff {t : Turn ι τ} : t.IsFresh ↔
    ∃ entry, t.before.cache = some entry ∧ t.use.now - entry.fetchedAt < t.before.lifetime := by
  simp only [IsFresh, RootVerifier.expiry?, Option.map_eq_some_iff, exists_exists_and_eq_and,
    sub_lt_iff_lt_add']

/-- What a turn for a root does, by the state of the cache. -/
theorem Backed.turn (h : Backed v earlier w) {u : Use ι τ} (hu : (⟨u, w⟩ : Turn ι τ).IsForRoot) :
    let t : Turn ι τ := ⟨u, w⟩
    (t.IsHit ↔ t.IsFresh) ∧
    (¬ t.IsFresh → t.Submits ∧
      ((∃ root, t.Fetches root ∧ t.AnsweredBy root ∧
        t.step.verifier.cache = some { root, fetchedAt := u.now }) ∨
      ((∀ root, ¬ t.Fetches root) ∧ t.step.verifier.cache = w.cache ∧
        (¬ t.MeetsUnshown → ∃ why, t.step.result = .error (.refused (.unchecked why))) ∧
        (t.MeetsUnshown → ∃ f, t.step.result = .error (.fault f))))) := by
  intro t
  have hstale (hs : CachedRoot.serve? w.cache w.lifetime u.now = none) : ¬ t.IsFresh := by
    rw [Turn.isFresh_iff]
    rintro ⟨entry, hcache, hfresh⟩
    exact CachedRoot.serve?_eq_none hs hcache hfresh
  have hsubmits : _ → t.Submits := Turn.submits h.kind h.isOpen hu
  rcases h.outcome u with ⟨hnot, -, -⟩ | ⟨hcache, hfresh, ha, hstep, hcall⟩ | ⟨hs, hf, ha, hstep⟩ |
    ⟨hs, hnone, he, hr, -, hstep⟩
  · exact absurd hu hnot
  · have hyes : t.IsFresh := Turn.isFresh_iff.mpr ⟨_, hcache, hfresh⟩
    exact ⟨iff_of_true ⟨_, hcache, ha, hstep, hcall⟩ hyes, fun hno => absurd hyes hno⟩
  · refine ⟨iff_of_false ?_ (hstale hs), fun _ => ⟨hsubmits hs, .inl ⟨_, hf, ha, ?_⟩⟩⟩
    · rintro ⟨entry, -, -, -, hcall⟩
      exact nomatch hcall.symm.trans hf.1
    · exact congrArg RootVerifier.cache hstep
  · refine ⟨iff_of_false ?_ (hstale hs), fun _ => ⟨hsubmits hs, .inr ⟨hnone, ?_, ?_⟩⟩⟩
    · rintro ⟨entry, -, ⟨provided?, -, ha⟩, -⟩
      exact he.ne_answer (hr.symm.trans ha)
    · rw [show t.step.verifier = _ from hstep]
    · cases he with
      | unchecked why h => exact ⟨fun _ => ⟨why, hr⟩, fun hunshown => absurd hunshown h⟩
      | unshown f h => exact ⟨fun hshown => absurd h hshown, fun _ => ⟨f, hr⟩⟩

end Session

open Session

variable {ι τ : Type} [AddCommGroup τ] [LinearOrder τ] [IsOrderedAddMonoid τ]

/-- A session with a cached verifier, whatever the ledger says at each of its turns. What is kept was
told by the ledger at the time that is kept with it. A turn for a root is served from the cache
exactly before the end of the lifetime, and makes one call otherwise, which brings the root that is
kept from then on or fails and changes nothing. A failure leaves the root unchecked, but for the
answer of a ledger that is no root and holds an integer too long to be shown. So every answer rests
on a fetch younger than the lifetime, and on one made at the end of an earlier lifetime or after it;
fetches keep a distance of the lifetime. -/
theorem RootVerifier.session_lifetime {v : RootVerifier τ} (hv : Starts v) (hlife : 0 < v.lifetime)
    {events : List (Event ι τ)} (horder : InOrder (turns v events)) :
    (∀ entry, (v.run events).cache = some entry →
      ∃ f ∈ turns v events, f.Fetches entry.root ∧ f.use.now = entry.fetchedAt) ∧
    (∀ t ∈ turns v events, t.IsForRoot →
      (t.IsHit ↔ t.IsFresh) ∧
      (¬ t.IsFresh → t.Submits ∧
        ((∃ root, t.Fetches root ∧ t.AnsweredBy root ∧
          t.step.verifier.cache = some { root, fetchedAt := t.use.now }) ∨
        ((∀ root, ¬ t.Fetches root) ∧ t.step.verifier.cache = t.before.cache ∧
          (¬ t.MeetsUnshown → ∃ why, t.step.result = .error (.refused (.unchecked why))) ∧
          (t.MeetsUnshown → ∃ f, t.step.result = .error (.fault f)))))) ∧
    (∀ earlier t later, turns v events = earlier ++ t :: later → ∀ stored, t.AnsweredBy stored →
      ∃ f ∈ earlier ++ [t], f.Fetches stored ∧ f.use.now ≤ t.use.now ∧
        t.use.now - f.use.now < v.lifetime ∧
        ∀ g ∈ earlier, ∀ root, g.Fetches root → g.use.now + v.lifetime ≤ t.use.now →
          g.use.now + v.lifetime ≤ f.use.now) ∧
    FetchesApart v.lifetime (turns v events) := by
  obtain ⟨hbacked, hapart⟩ := backed_run hv horder
  refine ⟨hbacked.fetched, ?_, ?_, hapart⟩
  · intro t ht hfor
    obtain ⟨earlier, later, hsplit⟩ := List.append_of_mem ht
    exact (backed_before hv horder hsplit).turn hfor
  · intro earlier t later hsplit stored ha
    have hbefore := backed_before hv horder hsplit
    have hupto : turns v events = (earlier ++ [t]) ++ later := by simp [hsplit]
    rw [hupto] at horder hapart
    obtain ⟨horder, -, -⟩ := List.pairwise_append.mp horder
    obtain ⟨hapart, -, -⟩ := List.pairwise_append.mp hapart
    have htimes : ∀ f ∈ earlier, f.use.now ≤ t.use.now := fun f hf =>
      (List.pairwise_append.mp horder).2.2 f hf t List.mem_cons_self
    obtain ⟨f, hmem, hf, hle, hyoung⟩ := hbefore.answered hlife htimes ha
    refine ⟨f, hmem, hf, hle, hyoung, fun g hg root hfg hends => ?_⟩
    -- the fetch is younger than the lifetime, so it comes after the other one and keeps its distance
    have hlt : g.use.now < f.use.now := by
      have hstart : t.use.now - v.lifetime < f.use.now := sub_lt_comm.mp hyoung
      exact (le_sub_iff_add_le.mpr hends).trans_lt hstart
    exact le_sub_iff_add_le'.mp
      (FetchesApart.of_lt hapart horder (List.mem_append_left _ hg) hmem hfg hf hlt)

theorem RootVerifier.lifetime_start_pos (kind : RemoteKind) (timeout lifetime : Option Number)
    (capacity : Nat) : 0 < (start kind timeout lifetime capacity).lifetime := by
  have hstandard : 0 < defaultLifetime := by decide +kernel
  change 0 < Number.positiveOr defaultLifetime lifetime
  unfold Number.positiveOr
  split
  · split
    · assumption
    · exact hstandard
  · exact hstandard

def Root.ofSmall (n : Nat) : Root := ⟨Bytes.ofNat 32 n, Root.length_ofNat n⟩

def LedgerView.withRoot (root : Root) : LedgerView :=
  .telling (.answer (.bytes root.bytes))

def RootVerifier.ofTenSeconds : RootVerifier Int where
  kind := .cached
  timeout := "5.0"
  lifetime := 10
  pool := .ofCapacity 4
  cache := none

def Session.ofChange : List (Event Unit Int) := [
  .use ⟨(), .verify (.text "9"), 0, .withRoot (.ofSmall 9)⟩,
  .use ⟨(), .verify (.text "9"), 9, .withRoot (.ofSmall 7)⟩,
  .use ⟨(), .verify (.text "9"), 10, .withRoot (.ofSmall 7)⟩]

theorem RootVerifier.change_seen_after_lifetime :
    let turns := turns ofTenSeconds Session.ofChange
    Starts ofTenSeconds ∧ InOrder turns ∧
      turns.map (fun t => t.step.result) = [.ok .accepted, .ok .accepted,
        .error (.refused (.invalid (.mismatch (.ofSmall 7) (.ofSmall 9))))] ∧
      (ofTenSeconds.run Session.ofChange).cache = some { root := .ofSmall 7, fetchedAt := 10 } ∧
        ∃ f ∈ turns, f.Fetches (.ofSmall 7) ∧ f.use.now = 10 := by
  intro turns
  have hstarts : Starts ofTenSeconds := ⟨rfl, rfl, rfl⟩
  have horder : InOrder turns := by
    unfold InOrder
    decide +kernel
  have hcache : (ofTenSeconds.run Session.ofChange).cache =
      some { root := .ofSmall 7, fetchedAt := 10 } := by decide +kernel
  obtain ⟨hkept, -⟩ := session_lifetime hstarts (by decide) horder
  exact ⟨hstarts, horder, by decide +kernel, hcache, hkept _ hcache⟩

def LedgerView.withUnwritable : LedgerView :=
  .telling (.answer (.json (.number (.int (Nat.pow 10 Integer.digitLimit)))))

/-- An integer of 4301 digits in place of a root: the call fails, but the root is not said to be
unchecked. -/
theorem RootVerifier.unshown_answer_faults :
    let turn : Turn Unit Int := ⟨⟨(), .currentRoot, 0, .withUnwritable⟩, ofTenSeconds⟩
    Starts ofTenSeconds ∧ turn.MeetsUnshown ∧ (∃ f, turn.step.result = .error (.fault f)) ∧
      ¬ ∃ why, turn.step.result = .error (.refused (.unchecked why)) := by
  intro turn
  have hunshown : IsUnshown LedgerView.withUnwritable.currentRoot :=
    ⟨_, rfl, .integer Integer.isUnwritable_pow⟩
  have hmeets : turn.MeetsUnshown := ⟨rfl, hunshown⟩
  have hfault : ∃ f, turn.step.result = .error (.fault f) := by
    rcases Turn.outcome (rfl : turn.before.kind = .cached) rfl with
      ⟨hnot, -, -⟩ | ⟨hcache, -, -, -, -⟩ | ⟨-, ⟨-, ha⟩, -, -⟩ | ⟨-, -, he, hr, -, -⟩
    · exact absurd ⟨none, rfl⟩ hnot
    · exact nomatch hcache
    · exact nomatch ha
    · cases he with
      | unchecked why h => exact absurd hmeets h
      | unshown f h => exact ⟨f, hr⟩
  refine ⟨⟨rfl, rfl, rfl⟩, hmeets, hfault, ?_⟩
  rintro ⟨why, hwhy⟩
  obtain ⟨f, hf⟩ := hfault
  exact nomatch hf.symm.trans hwhy

end IdentityProof
