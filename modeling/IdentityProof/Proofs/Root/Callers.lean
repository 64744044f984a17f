import IdentityProof.Proofs.Root.Lifetime
import IdentityProof.Root.Callers
import Mathlib.Algebra.Ring.Int.Defs

/-! Callers of one cached verifier in any interleaving. The session in the history has one turn for
each caller that got the lock, in the order of the lock, and the shared state is the one that this
session leads to. -/

namespace IdentityProof

open Session

namespace Callers

variable {ι τ : Type}

def Section.answer? : Section τ → Option (Except (Raised RootError) (Grant τ))
  | .storing provided? _ root => some (Taken.root provided? (.ok root)).answer
  | .leaving taken => some taken.answer
  | _ => none

namespace State

def entry (s : State ι τ) : Option (CachedRoot τ) :=
  match s.lock with
  | some (_, .storing _ since root) | some (_, .stamping _ since root) =>
    some { root, fetchedAt := since }
  | _ => s.kept

def ahead (s : State ι τ) : List ι :=
  match s.lock with
  | some (i, .entered _) | some (i, .fetching _ _ _) => [i]
  | _ => []

variable {s : State ι τ} {i : ι}

theorem move_self [DecidableEq ι] (s : State ι τ) (i : ι) (stage : Stage τ) :
    (s.move i stage).stage i = stage :=
  if_pos rfl

theorem move_of_ne [DecidableEq ι] {j : ι} (h : j ≠ i) (stage : Stage τ) :
    (s.move i stage).stage j = s.stage j :=
  if_neg h

theorem ahead_of_entered {aim : Aim} (h : s.lock = some (i, .entered aim)) : s.ahead = [i] := by
  unfold ahead
  rw [h]

theorem ahead_of_fetching {provided? : Option Root} {since : τ} {call : Progress}
    (h : s.lock = some (i, .fetching provided? since call)) : s.ahead = [i] := by
  unfold ahead
  rw [h]

theorem ahead_of_answer {section' : Section τ} {answer : Except (Raised RootError) (Grant τ)}
    (h : s.lock = some (i, section')) (ha : section'.answer? = some answer) : s.ahead = [] := by
  unfold ahead
  rw [h]
  cases section' with
  | entered aim | fetching provided? since call => exact nomatch ha
  | storing provided? since root | stamping provided? since root | leaving taken => rfl

theorem entry_of_ahead (h : s.ahead = [i]) : s.entry = s.kept := by
  unfold ahead at h
  unfold entry
  split
  all_goals first | rfl | (rename_i hlock; rw [hlock] at h; exact nomatch h)

end State

namespace Setup

def linked (c : Setup ι τ) (s : State ι τ) : RootVerifier τ where
  kind := .cached
  timeout := c.timeout
  lifetime := c.lifetime
  pool := { capacity := c.capacity, stuck := s.abandoned.length, closed := false }
  cache := s.entry

variable [Add τ] [Sub τ] [LT τ] [DecidableLT τ]

def turns (c : Setup ι τ) (s : State ι τ) : List (Turn ι τ) :=
  Session.turns c.verifier s.history

def Took (c : Setup ι τ) (turns : List (Turn ι τ)) (i : ι)
    (answer : Except (Raised RootError) (Grant τ)) : Prop :=
  ∃ t ∈ turns, t.use.caller = i ∧ t.use.request = c.request i ∧ t.step.result = answer

theorem Took.append {c : Setup ι τ} {turns : List (Turn ι τ)} {i : ι}
    {answer : Except (Raised RootError) (Grant τ)} (h : c.Took turns i answer)
    (more : List (Turn ι τ)) : c.Took (turns ++ more) i answer := by
  obtain ⟨t, ht, hrest⟩ := h
  exact ⟨t, List.mem_append_left _ ht, hrest⟩

theorem Took.mem {c : Setup ι τ} {turns : List (Turn ι τ)} {i : ι}
    {answer : Except (Raised RootError) (Grant τ)} (h : c.Took turns i answer) :
    i ∈ turns.map (·.use.caller) := by
  obtain ⟨t, ht, hcaller, -⟩ := h
  exact hcaller ▸ List.mem_map_of_mem ht

def GaveUp (c : Setup ι τ) (turns : List (Turn ι τ)) (i : ι) : Prop :=
  c.Took turns i (.error c.missed) ∧
    ∀ t ∈ turns, t.use.caller = i → t.use.ledger.currentRoot = .hang

theorem GaveUp.append {c : Setup ι τ} {turns : List (Turn ι τ)} {i : ι} (h : c.GaveUp turns i)
    {last : Turn ι τ} (hlast : last.use.caller = i → last.use.ledger.currentRoot = .hang) :
    c.GaveUp (turns ++ [last]) i := by
  refine ⟨h.1.append _, ?_⟩
  exact List.forall_mem_append.mpr ⟨h.2, List.forall_mem_singleton.mpr hlast⟩

theorem GaveUp.not_fetches {c : Setup ι τ} {turns : List (Turn ι τ)} {i : ι}
    (h : c.GaveUp turns i) {t : Turn ι τ} (ht : t ∈ turns) (hcaller : t.use.caller = i)
    (root : Root) : ¬ t.Fetches root := by
  rintro ⟨-, hanswer⟩
  exact nomatch (h.2 t ht hcaller).symm.trans hanswer

def Holds [LE τ] (c : Setup ι τ) (s : State ι τ) (i : ι) : Section τ → Prop
  | .entered aim => (c.request i).aim = .ok aim
  | .fetching provided? since call =>
    (c.request i).aim = .ok (.root provided?) ∧ since ≤ s.clock ∧
      (∀ t ∈ c.turns s, t.use.now ≤ since) ∧
        CachedRoot.serve? s.kept c.lifetime since = none ∧
          (call = .queued ∨ s.abandoned.length < c.capacity)
  | .storing provided? _ root =>
    c.Took (c.turns s) i (Taken.root provided? (.ok root) : Taken τ).answer
  | .stamping provided? _ root =>
    c.Took (c.turns s) i (Taken.root provided? (.ok root) : Taken τ).answer ∧ s.root = some root
  | .leaving taken => c.Took (c.turns s) i taken.answer

def Stands (c : Setup ι τ) (turns : List (Turn ι τ)) (i : ι) : Stage τ → Prop
  | .idle | .inside => True
  | .waiting aim => (c.request i).aim = .ok aim
  | .left taken => c.Took turns i taken.answer
  | .done answer =>
    (∃ e, (c.request i).aim = .error e ∧ answer = .error e) ∨ c.Took turns i answer

theorem Stands.append {c : Setup ι τ} {turns : List (Turn ι τ)} {i : ι} {stage : Stage τ}
    (h : c.Stands turns i stage) (more : List (Turn ι τ)) : c.Stands (turns ++ more) i stage := by
  cases stage with
  | idle | inside => trivial
  | waiting aim => exact h
  | left taken => exact Took.append h more
  | done answer => exact h.imp_right fun hd => Took.append hd more

theorem serve_use {c : Setup ι τ} {v : RootVerifier τ} (hk : v.kind = .cached) {i : ι} {now : τ}
    {response : Response LedgerValue} {provided? : Option Root}
    (haim : (c.request i).aim = .ok (.root provided?)) :
    v.serve (c.use i now response) =
      { result := (Taken.root provided? (v.currentRoot (.telling response) now).result).answer
        verifier := (v.currentRoot (.telling response) now).verifier
        call := (v.currentRoot (.telling response) now).call } :=
  serve_of_root hk haim

end Setup

variable [AddCommGroup τ] [LinearOrder τ]

/-- The state and the session of its history say the same. -/
structure Sound (c : Setup ι τ) (s : State ι τ) : Prop where
  run : c.verifier.run s.history = c.linked s
  holder : ∀ i section', s.lock = some (i, section') → c.Holds s i section'
  stage : ∀ i, c.Stands (c.turns s) i (s.stage i)
  inOrder : InOrder (c.turns s)
  past : ∀ t ∈ c.turns s, t.use.now ≤ s.clock
  acquired : s.acquired = (c.turns s).map (·.use.caller) ++ s.ahead
  once : s.acquired.Nodup
  begun : ∀ i ∈ s.acquired, s.stage i ≠ .idle ∧ ∀ aim, s.stage i ≠ .waiting aim
  abandoned : ∀ i ∈ s.abandoned, c.GaveUp (c.turns s) i

namespace Sound

variable {c : Setup ι τ} {s : State ι τ} {i : ι}

theorem start (clock : τ) : Sound c (c.start clock) where
  run := rfl
  holder _ _ h := nomatch h
  stage _ := trivial
  inOrder := .nil
  past _ h := nomatch h
  acquired := rfl
  once := .nil
  begun _ h := nomatch h
  abandoned _ h := nomatch h

theorem tick (h : Sound c s) {later : τ} (hle : s.clock ≤ later) :
    Sound c { s with clock := later } :=
  { h with
    holder := fun i section' hlock => by
      have hholds := h.holder i section' hlock
      cases section' with
      | fetching provided? since call =>
        obtain ⟨haim, hsince, hrest⟩ := hholds
        exact ⟨haim, hsince.trans hle, hrest⟩
      | _ => exact hholds
    past := fun t ht => (h.past t ht).trans hle }

theorem go_on (h : Sound c s) {root : Option Root} {fetchedAt : τ} {section' : Section τ}
    (hentry : { s with root, fetchedAt, lock := some (i, section') }.entry = s.entry)
    (hahead : { s with root, fetchedAt, lock := some (i, section') }.ahead = s.ahead)
    (hholds : c.Holds { s with root, fetchedAt, lock := some (i, section') } i section') :
    Sound c { s with root, fetchedAt, lock := some (i, section') } :=
  { h with
    run := by
      rw [h.run]
      unfold Setup.linked
      rw [hentry]
    holder := fun j other hj => by
      obtain ⟨rfl, rfl⟩ := Prod.mk.inj (Option.some.inj hj)
      exact hholds
    acquired := by
      rw [hahead]
      exact h.acquired }

theorem acquired_of_ahead (h : Sound c s) (hahead : s.ahead = [i]) :
    s.acquired = (c.turns s).map (·.use.caller) ++ [i] :=
  hahead ▸ h.acquired

theorem new_of_ahead (h : Sound c s) (hahead : s.ahead = [i]) :
    i ∉ (c.turns s).map (·.use.caller) := by
  have honce := h.once
  rw [h.acquired_of_ahead hahead] at honce
  exact fun hi => (List.nodup_append.mp honce).2.2 i hi i List.mem_cons_self rfl

theorem turns_turn (h : Sound c s) (now : τ) (response : Response LedgerValue)
    (section' : Section τ) :
    c.turns (c.turn s i now response section') =
      c.turns s ++ [⟨c.use i now response, c.linked s⟩] := by
  unfold Setup.turns
  rw [← h.run]
  exact turns_append ..

/-- The caller that is ahead takes its turn. What it goes on with is what the session answers it,
and the state is the one that the session goes on to. -/
theorem turn (h : Sound c s) {section' : Section τ} (hahead : s.ahead = [i]) {now : τ}
    (hnow : ∀ t ∈ c.turns s, t.use.now ≤ now) (hclock : now ≤ s.clock)
    {response : Response LedgerValue} {abandoned : List ι}
    (hrun : ((c.linked s).serve (c.use i now response)).verifier =
      c.linked { c.turn s i now response section' with abandoned })
    (hanswer : section'.answer? = some ((c.linked s).serve (c.use i now response)).result)
    (hgiven : ∀ j ∈ abandoned, j ∈ s.abandoned ∨
      j = i ∧ response = .hang ∧ section'.answer? = some (.error c.missed)) :
    Sound c { c.turn s i now response section' with abandoned } := by
  have hturns : c.turns { c.turn s i now response section' with abandoned } = _ :=
    h.turns_turn now response section'
  have hnew := h.new_of_ahead hahead
  have htook {answer : Except (Raised RootError) (Grant τ)}
      (ha : section'.answer? = some answer) :
      c.Took (c.turns { c.turn s i now response section' with abandoned }) i answer := by
    rw [hturns]
    refine ⟨_, List.mem_append_right _ List.mem_cons_self, rfl, rfl, ?_⟩
    exact Option.some.inj (hanswer.symm.trans ha)
  constructor
  case run =>
    rw [← hrun, ← h.run]
    exact run_append ..
  case holder =>
    intro j other hj
    obtain ⟨rfl, rfl⟩ := Prod.mk.inj (Option.some.inj hj)
    cases section' with
    | entered aim | fetching provided? since call | stamping provided? since root =>
      exact nomatch hanswer
    | storing provided? since root | leaving taken => exact htook rfl
  case stage =>
    intro j
    rw [hturns]
    exact (h.stage j).append _
  case inOrder =>
    rw [hturns]
    exact h.inOrder.concat hnow
  case past =>
    rw [hturns]
    exact List.forall_mem_append.mpr ⟨h.past, List.forall_mem_singleton.mpr hclock⟩
  case acquired =>
    rw [State.ahead_of_answer rfl hanswer, List.append_nil, hturns, List.map_append]
    exact h.acquired_of_ahead hahead
  case once => exact h.once
  case begun => exact h.begun
  case abandoned =>
    -- the caller had no turn before this one, so it cannot have given up on an earlier call
    intro j hj
    rcases hgiven j hj with hj | ⟨rfl, hhang, hmissed⟩
    · have hgave := h.abandoned j hj
      rw [hturns]
      refine hgave.append fun hij => ?_
      obtain rfl : i = j := hij
      exact absurd hgave.1.mem hnew
    · refine ⟨htook hmissed, ?_⟩
      rw [hturns]
      refine List.forall_mem_append.mpr ⟨fun t ht hcaller => ?_, ?_⟩
      · exact absurd (hcaller ▸ List.mem_map_of_mem ht) hnew
      · exact List.forall_mem_singleton.mpr fun _ => hhang

theorem leave (h : Sound c s) (hahead : s.ahead = [i]) {now : τ}
    (hnow : ∀ t ∈ c.turns s, t.use.now ≤ now) (hclock : now ≤ s.clock)
    {response : Response LedgerValue} {taken : Taken τ} {abandoned : List ι}
    (hserve : ∃ call, (c.linked s).serve (c.use i now response) =
      { result := taken.answer
        verifier := { c.linked s with
          pool := { capacity := c.capacity, stuck := abandoned.length, closed := false } }
        call })
    (hgiven : ∀ j ∈ abandoned, j ∈ s.abandoned ∨
      j = i ∧ response = .hang ∧ taken.answer = .error c.missed) :
    Sound c { c.turn s i now response (.leaving taken) with abandoned } := by
  obtain ⟨call, hserve⟩ := hserve
  refine h.turn hahead hnow hclock ?_ ?_ fun j hj => ?_
  · rw [hserve]
    unfold Setup.linked
    rw [State.entry_of_ahead hahead]
    rfl
  · rw [hserve]
    rfl
  · obtain hj | ⟨hj, hhang, hmissed⟩ := hgiven j hj
    · exact .inl hj
    · exact .inr ⟨hj, hhang, congrArg some hmissed⟩

theorem expiry (h : Sound c s) (hlock : s.lock = some (i, .entered .expiry)) :
    Sound c (c.turn s i s.clock .timeout
      (.leaving (.expiry (s.kept.map fun entry => entry.fetchedAt + c.lifetime)))) := by
  have hahead := State.ahead_of_entered hlock
  have haim : (c.request i).aim = .ok .expiry := h.holder i _ hlock
  refine h.leave hahead h.past le_rfl ⟨none, ?_⟩ fun j hj => .inl hj
  rw [serve_of_expiry haim, ← State.entry_of_ahead hahead]
  rfl

theorem hit (h : Sound c s) {provided? : Option Root} {root : Root}
    (hlock : s.lock = some (i, .entered (.root provided?)))
    (hs : CachedRoot.serve? s.kept c.lifetime s.clock = some root) :
    Sound c (c.turn s i s.clock .timeout (.leaving (.root provided? (.ok root)))) := by
  have hahead := State.ahead_of_entered hlock
  have haim : (c.request i).aim = .ok (.root provided?) := h.holder i _ hlock
  rw [← State.entry_of_ahead hahead] at hs
  refine h.leave hahead h.past le_rfl ⟨none, ?_⟩ fun j hj => .inl hj
  rw [serve_of_root rfl haim, RootVerifier.currentRoot_of_kept hs]
  rfl

theorem miss (h : Sound c s) {provided? : Option Root}
    (hlock : s.lock = some (i, .entered (.root provided?)))
    (hs : CachedRoot.serve? s.kept c.lifetime s.clock = none) :
    Sound c { s with lock := some (i, .fetching provided? s.clock .queued) } := by
  refine h.go_on ?_ (State.ahead_of_entered hlock).symm ?_
  · rw [State.entry_of_ahead (State.ahead_of_entered hlock)]
    rfl
  · exact ⟨h.holder i _ hlock, le_rfl, h.past, hs, .inl rfl⟩

section Fetching

variable {provided? : Option Root} {since : τ} {call : Progress}
  (hlock : s.lock = some (i, .fetching provided? since call))
include hlock

theorem stale (h : Sound c s) :
    CachedRoot.serve? (c.linked s).cache (c.linked s).lifetime since = none := by
  obtain ⟨-, -, -, hs, -⟩ := h.holder i _ hlock
  have hahead := State.ahead_of_fetching hlock
  rwa [← State.entry_of_ahead hahead] at hs

theorem advance (h : Sound c s) {next : Progress}
    (hnext : next = .queued ∨ s.abandoned.length < c.capacity) :
    Sound c { s with lock := some (i, .fetching provided? since next) } := by
  have hahead := State.ahead_of_fetching hlock
  obtain ⟨haim, hsince, hnow, hstale, -⟩ := h.holder i _ hlock
  refine h.go_on ?_ hahead.symm ⟨haim, hsince, hnow, hstale, hnext⟩
  rw [State.entry_of_ahead hahead]
  rfl

theorem fail (h : Sound c s) {response : Response LedgerValue} {e : Raised RootError}
    {abandoned : List ι} {started : Option RemoteCall}
    (hlook : (c.linked s).currentRoot (.telling response) since =
      { result := .error e
        verifier := { c.linked s with
          pool := { capacity := c.capacity, stuck := abandoned.length, closed := false } }
        call := started })
    (hgiven : ∀ j ∈ abandoned, j ∈ s.abandoned ∨ j = i ∧ response = .hang ∧ e = c.missed) :
    Sound c { c.turn s i since response (.leaving (.root provided? (.error e))) with
      abandoned } := by
  have hahead := State.ahead_of_fetching hlock
  obtain ⟨haim, hsince, hnow, -, -⟩ := h.holder i _ hlock
  refine h.leave hahead hnow hsince ⟨started, ?_⟩ fun j hj => ?_
  · rw [Setup.serve_use rfl haim, hlook]
  · obtain hj | ⟨hj, hhang, rfl⟩ := hgiven j hj
    · exact .inl hj
    · exact .inr ⟨hj, hhang, Taken.answer_error⟩

theorem miss_deadline (h : Sound c s) :
    Sound c (c.turn s i since .timeout (.leaving (.root provided? (.error c.missed)))) := by
  obtain ⟨_, hlook⟩ := RootVerifier.currentRoot_of_timeout rfl (h.stale hlock)
    (rfl : (LedgerView.telling .timeout).currentRoot = .timeout)
  exact h.fail hlock hlook fun j hj => .inl hj

theorem give_up (h : Sound c s) (hfree : s.abandoned.length < c.capacity) :
    Sound c { c.turn s i since .hang (.leaving (.root provided? (.error c.missed))) with
      abandoned := i :: s.abandoned } := by
  have hlook := RootVerifier.currentRoot_of_hang rfl (h.stale hlock) hfree
    (rfl : (LedgerView.telling .hang).currentRoot = .hang)
  refine h.fail hlock hlook fun j hj => ?_
  exact (List.mem_cons.mp hj).symm.imp_right fun hj => ⟨hj, rfl, rfl⟩

theorem receive (h : Sound c s) (hfree : s.abandoned.length < c.capacity) (value : LedgerValue) :
    Sound c (c.turn s i since (.answer value) (c.after provided? since (.answer value))) := by
  have hahead := State.ahead_of_fetching hlock
  obtain ⟨haim, hsince, hnow, -, -⟩ := h.holder i _ hlock
  have hlook := RootVerifier.currentRoot_of_answer rfl (h.stale hlock) hfree
    (rfl : (LedgerView.telling (.answer value)).currentRoot = .answer value)
  -- what is made of an answer is the same for the shared verifier as for the one of the session
  cases hroot : value.toRoot? with
  | some root =>
    have hafter : c.after provided? since (.answer value) = .storing provided? since root := by
      simp only [Setup.after, RootVerifier.store_of_root hroot]
    rw [RootVerifier.store_of_root hroot] at hlook
    rw [hafter]
    refine h.turn hahead hnow hsince ?_ ?_ fun j hj => .inl hj <;>
      rw [Setup.serve_use rfl haim, hlook] <;> rfl
  | none =>
    obtain ⟨e, -, hstore⟩ : ∃ e, FailsWith (.answer value) (some .currentRoot) e ∧
      RootVerifier.store since (c.linked s) value = (.error e, c.linked s) :=
        RootVerifier.store_of_none hroot
    have hafter : c.after provided? since (.answer value) =
        .leaving (.root provided? (.error e)) := by
      simp only [Setup.after, RootVerifier.store_result since since c.verifier (c.linked s), hstore]
    rw [hstore] at hlook
    rw [hafter]
    exact h.fail hlock hlook fun j hj => .inl hj

end Fetching

theorem free_of_running (h : Sound c s) {provided? : Option Root} {since : τ}
    (hlock : s.lock = some (i, .fetching provided? since .running)) :
    s.abandoned.length < c.capacity := by
  obtain ⟨-, -, -, -, hfree⟩ := h.holder i _ hlock
  exact hfree.resolve_left nofun

theorem collect (h : Sound c s) {provided? : Option Root} {since : τ} {ending : Ending}
    (hlock : s.lock = some (i, .fetching provided? since (.ended ending))) :
    Sound c (c.turn s i since ending.response (c.after provided? since ending)) := by
  obtain ⟨-, -, -, -, hended⟩ := h.holder i _ hlock
  have hfree : s.abandoned.length < c.capacity := hended.resolve_left (nomatch ·)
  cases ending with
  | answer value => exact h.receive hlock hfree value
  | failure reason =>
    have hlook := RootVerifier.currentRoot_of_failure rfl (h.stale hlock) hfree
      (rfl : (LedgerView.telling (.failure reason)).currentRoot = .failure reason)
    exact h.fail hlock hlook fun j hj => .inl hj
  | timeout => exact h.miss_deadline hlock

theorem store (h : Sound c s) {provided? : Option Root} {since : τ} {root : Root}
    (hlock : s.lock = some (i, .storing provided? since root)) :
    Sound c { s with root := some root, lock := some (i, .stamping provided? since root) } := by
  refine h.go_on ?_ ?_ ⟨h.holder i _ hlock, rfl⟩
  · unfold State.entry
    rw [hlock]
  · unfold State.ahead
    rw [hlock]

theorem stamp (h : Sound c s) {provided? : Option Root} {since : τ} {root : Root}
    (hlock : s.lock = some (i, .stamping provided? since root)) :
    Sound c { s with
      fetchedAt := since
      lock := some (i, .leaving (.root provided? (.ok root))) } := by
  -- the root was written a step ago, and with its time the pair is what the session has kept since
  obtain ⟨htook, hroot⟩ := h.holder i _ hlock
  refine h.go_on ?_ ?_ htook
  · unfold State.entry State.kept
    rw [hlock, hroot]
    rfl
  · unfold State.ahead
    rw [hlock]

variable [DecidableEq ι]

theorem late (h : Sound c s) (hi : i ∈ s.abandoned) :
    Sound c { s with abandoned := s.abandoned.erase i, history := s.history ++ [.freed] } := by
  have hturns : turns c.verifier (s.history ++ [.freed]) = c.turns s := turns_freed ..
  have hlength := List.length_erase_of_mem hi
  refine ⟨?_, ?_, ?_, ?_, ?_, ?_, h.once, h.begun, ?_⟩
  · rw [run_append, h.run]
    unfold Setup.linked
    rw [hlength]
    rfl
  · intro j section' hj
    have hholds := h.holder j section' hj
    unfold Setup.Holds Setup.turns at *
    rw [hturns]
    cases section' with
    | fetching provided? since call =>
      obtain ⟨haim, hsince, hnow, hstale, hfree⟩ := hholds
      refine ⟨haim, hsince, hnow, hstale, hfree.imp_right fun hfree => ?_⟩
      exact (List.length_erase_le ..).trans_lt hfree
    | _ => exact hholds
  all_goals
    unfold Setup.turns
    rw [hturns]
  · exact h.stage
  · exact h.inOrder
  · exact h.past
  · exact h.acquired
  · exact fun j hj => h.abandoned j (List.mem_of_mem_erase hj)

theorem move (h : Sound c s) {stage : Stage τ} (hstage : c.Stands (c.turns s) i stage)
    (hbegun : i ∈ s.acquired → stage ≠ .idle ∧ ∀ aim, stage ≠ .waiting aim) :
    Sound c (s.move i stage) :=
  { h with
    stage := fun j => by
      rcases eq_or_ne j i with rfl | hj
      · rw [State.move_self]
        exact hstage
      · rw [State.move_of_ne hj]
        exact h.stage j
    begun := fun j hmem => by
      rcases eq_or_ne j i with rfl | hj
      · rw [State.move_self]
        exact hbegun hmem
      · rw [State.move_of_ne hj]
        exact h.begun j hmem }

theorem acquire (h : Sound c s) (hlock : s.lock = none) {aim : Aim}
    (hi : s.stage i = .waiting aim) :
    Sound c { s.move i .inside with
        lock := some (i, .entered aim)
        acquired := s.acquired ++ [i] } := by
  have hnew : i ∉ s.acquired := fun hmem => (h.begun i hmem).2 aim hi
  have haim : (c.request i).aim = .ok aim := by
    have hstands := h.stage i
    rw [hi] at hstands
    exact hstands
  have hbefore : s.acquired = (c.turns s).map (·.use.caller) := by
    rw [h.acquired, State.ahead, hlock, List.append_nil]
  have hinside : Sound c (s.move i .inside) := h.move trivial fun hmem => absurd hmem hnew
  exact
    { hinside with
      run := by
        refine h.run.trans ?_
        unfold Setup.linked State.entry
        rw [hlock]
        rfl
      holder := fun j section' hj => by
        obtain ⟨rfl, rfl⟩ := Prod.mk.inj (Option.some.inj hj)
        exact haim
      acquired := by rw [hbefore]; rfl
      once := by
        rw [List.nodup_append]
        refine ⟨h.once, List.pairwise_singleton _ _, fun j hj => ?_⟩
        exact List.forall_mem_singleton.mpr fun hji => hnew (hji ▸ hj)
      begun := by
        refine List.forall_mem_append.mpr ⟨hinside.begun, List.forall_mem_singleton.mpr ?_⟩
        rw [show State.stage _ i = _ from s.move_self i .inside]
        exact ⟨nofun, nofun⟩ }

theorem call (h : Sound c s) (hi : s.stage i = .idle) {stage : Stage τ}
    (hstage : c.Stands (c.turns s) i stage) : Sound c (s.move i stage) :=
  h.move hstage fun hmem => absurd hi (h.begun i hmem).1

theorem release (h : Sound c s) {taken : Taken τ} (hlock : s.lock = some (i, .leaving taken)) :
    Sound c { s.move i (.left taken) with lock := none } := by
  have htook : c.Took (c.turns s) i taken.answer := h.holder i _ hlock
  have hleft : Sound c (s.move i (.left taken)) := h.move htook fun _ => ⟨nofun, nofun⟩
  exact
    { hleft with
      run := by
        refine h.run.trans ?_
        unfold Setup.linked State.entry
        rw [hlock]
        rfl
      holder := fun _ _ hj => nomatch hj
      acquired := by
        refine h.acquired.trans ?_
        rw [State.ahead_of_answer hlock rfl]
        rfl }

theorem conclude (h : Sound c s) {taken : Taken τ} (hi : s.stage i = .left taken) :
    Sound c (s.move i (.done taken.answer)) := by
  have htook : c.Stands (c.turns s) i (.left taken) := hi ▸ h.stage i
  exact h.move (.inr htook) fun _ => ⟨nofun, nofun⟩

theorem step (h : Sound c s) {action : Action ι τ} {s' : State ι τ}
    (hstep : c.step s action = some s') : Sound c s' := by
  cases action with
  | tick later =>
    simp only [Setup.step, Option.ite_none_right_eq_some, Option.some.injEq] at hstep
    obtain ⟨hle, rfl⟩ := hstep
    exact h.tick hle
  | call i =>
    simp only [Setup.step] at hstep
    split at hstep
    · rename_i hi
      split at hstep
      · rename_i aim haim
        obtain rfl := Option.some.inj hstep
        exact h.call hi haim
      · rename_i e haim
        obtain rfl := Option.some.inj hstep
        exact h.call hi (.inl ⟨e, haim, rfl⟩)
    · exact nomatch hstep
  | acquire i =>
    simp only [Setup.step] at hstep
    split at hstep
    · rename_i hlock hi
      obtain rfl := Option.some.inj hstep
      exact h.acquire hlock hi
    · exact nomatch hstep
  | look =>
    simp only [Setup.step] at hstep
    split at hstep
    · rename_i hlock
      obtain rfl := Option.some.inj hstep
      exact h.expiry hlock
    · rename_i hlock
      split at hstep
      · rename_i hs
        obtain rfl := Option.some.inj hstep
        exact h.hit hlock hs
      · rename_i hs
        obtain rfl := Option.some.inj hstep
        exact h.miss hlock hs
    · exact nomatch hstep
  | begin =>
    simp only [Setup.step] at hstep
    split at hstep
    · rename_i hlock
      simp only [Option.ite_none_right_eq_some, Option.some.injEq] at hstep
      obtain ⟨hfree, rfl⟩ := hstep
      exact h.advance hlock (.inr hfree)
    · exact nomatch hstep
  | finish ending =>
    simp only [Setup.step] at hstep
    split at hstep
    · rename_i hlock
      obtain rfl := Option.some.inj hstep
      exact h.advance hlock (.inr (h.free_of_running hlock))
    · exact nomatch hstep
  | collect =>
    simp only [Setup.step] at hstep
    split at hstep
    · rename_i hlock
      obtain rfl := Option.some.inj hstep
      exact h.collect hlock
    · exact nomatch hstep
  | giveUp =>
    simp only [Setup.step] at hstep
    split at hstep
    · rename_i hlock
      obtain rfl := Option.some.inj hstep
      exact h.miss_deadline hlock
    · rename_i hlock
      obtain rfl := Option.some.inj hstep
      exact h.give_up hlock (h.free_of_running hlock)
    · exact nomatch hstep
  | late i ending =>
    simp only [Setup.step, Option.ite_none_right_eq_some, Option.some.injEq] at hstep
    obtain ⟨hi, rfl⟩ := hstep
    exact h.late hi
  | store =>
    simp only [Setup.step] at hstep
    split at hstep
    · rename_i hlock
      obtain rfl := Option.some.inj hstep
      exact h.store hlock
    · exact nomatch hstep
  | stamp =>
    simp only [Setup.step] at hstep
    split at hstep
    · rename_i hlock
      obtain rfl := Option.some.inj hstep
      exact h.stamp hlock
    · exact nomatch hstep
  | release =>
    simp only [Setup.step] at hstep
    split at hstep
    · rename_i hlock
      obtain rfl := Option.some.inj hstep
      exact h.release hlock
    · exact nomatch hstep
  | conclude i =>
    simp only [Setup.step] at hstep
    split at hstep
    · rename_i hi
      obtain rfl := Option.some.inj hstep
      exact h.conclude hi
    · exact nomatch hstep

theorem run_of (h : Sound c s) {actions : List (Action ι τ)} {s' : State ι τ}
    (hrun : c.run s actions = some s') : Sound c s' := by
  induction actions generalizing s with
  | nil => exact Option.some.inj hrun ▸ h
  | cons action actions ih =>
    obtain ⟨next, hstep, hrest⟩ := Option.bind_eq_some_iff.mp hrun
    exact ih (h.step hstep) hrest

end Sound

variable [DecidableEq ι] [IsOrderedAddMonoid τ]

/-- Whatever the schedule, the callers might as well have come one after the other in the order in
which they got the lock. Each has at most one turn, at the time that it read from the clock and with
what the ledger had to say by its deadline, and is answered what it is answered at that turn of the
session. Only a caller without a turn, because its root cannot be read, might have come at any place
in the order. While nobody has the lock, the two variables are what the session leaves. A caller
that looks at them sees what one fetch brought, fetches keep a distance of the lifetime, and a call
that ends after its caller has missed the deadline changes neither the variables nor the session. -/
theorem run_linearizable {c : Setup ι τ} {clock : τ} {actions : List (Action ι τ)} {s : State ι τ}
    (h : c.run (c.start clock) actions = some s) :
    (s.acquired.Nodup ∧ s.acquired = (c.turns s).map (·.use.caller) ++ s.ahead ∧
      InOrder (c.turns s)) ∧
    (∀ i answer, s.stage i = .done answer →
      (∃ t ∈ c.turns s, t.use.caller = i ∧ t.use.request = c.request i ∧
        t.step.result = answer) ∨
      ∀ (v : RootVerifier τ) (now : τ) (response : Response LedgerValue),
        v.serve (c.use i now response) = { result := answer, verifier := v, call := none }) ∧
    (s.lock = none → (c.verifier.run s.history).cache = s.kept) ∧
    (∀ i aim entry, s.lock = some (i, .entered aim) → s.kept = some entry →
      ∃ f ∈ c.turns s, f.Fetches entry.root ∧ f.use.now = entry.fetchedAt) ∧
    FetchesApart c.lifetime (c.turns s) ∧
    (∀ i ending s', c.step s (.late i ending) = some s' →
      (∃ t ∈ c.turns s, t.use.caller = i ∧ t.step.result = .error c.missed) ∧
      (∀ t ∈ c.turns s, t.use.caller = i → ∀ root, ¬ t.Fetches root) ∧
      s'.kept = s.kept ∧ c.turns s' = c.turns s) := by
  have hsound := (Sound.start clock).run_of h
  have hstarts : Starts c.verifier := ⟨rfl, rfl, rfl⟩
  obtain ⟨hbacked, hapart⟩ := backed_run hstarts hsound.inOrder
  refine ⟨⟨hsound.once, hsound.acquired, hsound.inOrder⟩, ?_, ?_, ?_, hapart, ?_⟩
  · intro i answer hi
    have hstands := hsound.stage i
    rw [hi] at hstands
    rcases hstands with ⟨e, haim, rfl⟩ | htook
    · exact .inr fun v now response => serve_of_error haim
    · exact .inl htook
  · intro hlock
    rw [hsound.run]
    unfold Setup.linked State.entry
    rw [hlock]
  · intro i aim entry hlock hkept
    have hentry : s.entry = some entry := by
      unfold State.entry
      rw [hlock]
      exact hkept
    refine hbacked.fetched entry ?_
    rw [hsound.run]
    exact hentry
  · intro i ending s' hstep
    simp only [Setup.step, Option.ite_none_right_eq_some, Option.some.injEq] at hstep
    obtain ⟨hi, rfl⟩ := hstep
    have hgave := hsound.abandoned i hi
    obtain ⟨t, ht, hcaller, -, hmissed⟩ := hgave.1
    refine ⟨⟨t, ht, hcaller, hmissed⟩, fun t ht hcaller => hgave.not_fetches ht hcaller, rfl, ?_⟩
    exact turns_freed ..

/-- Three callers with one worker. The first one gives up on its call, which keeps the worker until
it ends with another root, and only then the call of the second one begins. -/
def Setup.ofOneWorker : Setup (Fin 3) Int where
  request _ := .verify (.text "9")
  timeout := "5.0"
  lifetime := 10
  capacity := 1

def Action.ofLateAnswer : List (Action (Fin 3) Int) := [
  .call 0, .acquire 0, .call 1, .look, .begin, .tick 5, .giveUp, .release,
  .acquire 1, .look, .late 0 (.answer (.bytes (Root.ofSmall 7).bytes)), .conclude 0,
  .begin, .finish (.answer (.bytes (Root.ofSmall 9).bytes)), .tick 6, .collect, .store, .stamp,
  .call 2, .release, .tick 14, .acquire 2, .look, .release, .conclude 2, .conclude 1]

theorem late_answer_ignored : ∃ s,
    Setup.ofOneWorker.run (Setup.ofOneWorker.start 0) Action.ofLateAnswer = some s ∧
      s.stage 0 = .done (.error Setup.ofOneWorker.missed) ∧
      s.stage 1 = .done (.ok .accepted) ∧ s.stage 2 = .done (.ok .accepted) ∧
      s.acquired = [0, 1, 2] ∧ s.kept = some { root := .ofSmall 9, fetchedAt := 5 } ∧
      InOrder (Setup.ofOneWorker.turns s) ∧
      FetchesApart Setup.ofOneWorker.lifetime (Setup.ofOneWorker.turns s) ∧
      ∃ t ∈ Setup.ofOneWorker.turns s, t.use.caller = 2 ∧ t.step.result = .ok .accepted := by
  have hread : (Setup.ofOneWorker.request 2).aim = .ok (.root (some (.ofSmall 9))) := by
    decide +kernel
  obtain ⟨s, hrun, hmissed, hsecond, hthird, hacquired, hkept⟩ : ∃ s,
      Setup.ofOneWorker.run (Setup.ofOneWorker.start 0) Action.ofLateAnswer = some s ∧
        s.stage 0 = .done (.error Setup.ofOneWorker.missed) ∧
        s.stage 1 = .done (.ok .accepted) ∧ s.stage 2 = .done (.ok .accepted) ∧
        s.acquired = [0, 1, 2] ∧ s.kept = some { root := .ofSmall 9, fetchedAt := 5 } :=
    ⟨_, rfl, rfl, rfl, rfl, rfl, rfl⟩
  obtain ⟨⟨-, -, horder⟩, hanswers, -, -, hapart, -⟩ := run_linearizable hrun
  refine ⟨s, hrun, hmissed, hsecond, hthird, hacquired, hkept, horder, hapart, ?_⟩
  obtain ⟨t, ht, hcaller, -, hresult⟩ | hanywhere := hanswers 2 _ hthird
  · exact ⟨t, ht, hcaller, hresult⟩
  · have hrefused := hanywhere Setup.ofOneWorker.verifier 0 .hang
    rw [Setup.serve_use rfl hread] at hrefused
    exact nomatch congrArg RootStep.result hrefused

end Callers
end IdentityProof
