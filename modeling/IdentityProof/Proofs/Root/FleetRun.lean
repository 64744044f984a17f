import IdentityProof.Proofs.Root.Fleet
import IdentityProof.Proofs.Root.Life

/-! Runs of a fleet: what its steps keep, a run keeps. -/

namespace IdentityProof.Fleet

variable {κ ι L τ : Type} [DecidableEq κ] [DecidableEq ι] [DecidableEq L]
  [Add τ] [Sub τ] [LE τ] [LT τ] [DecidableLE τ] [DecidableLT τ]
  {c : Setup κ L τ} {s s' t : State κ ι L τ} {action : Action κ ι τ} {actions : List (Action κ ι τ)}
  {k : κ} {i : ι}

namespace Setup

open Member

theorem step_tick {later : τ} (h : c.step s (.tick later) = some s') :
    s.clock ≤ later ∧ s' = { s with clock := later } := by
  simp only [step] at h
  split at h
  · rename_i hlater
    exact ⟨hlater, (Option.some.inj h).symm⟩
  · exact nomatch h

theorem member_of_step (h : c.step s action = some s') (k : κ) :
    (∃ move, action = .act k move ∧
        Moved (c.patience k) (c.delay k) s.clock (s.member k) move (s'.member k)) ∨
      action.isOf k = false ∧ s'.member k = s.member k := by
  cases action with
  | tick later =>
    obtain ⟨-, rfl⟩ := step_tick h
    exact .inr ⟨rfl, rfl⟩
  | act j move =>
    obtain ⟨m, hm, rfl⟩ := Option.map_eq_some_iff.mp h
    by_cases hj : k = j
    · subst hj
      refine .inl ⟨move, rfl, ?_⟩
      simp only [if_true]
      exact moved_of_step hm
    · exact .inr ⟨decide_eq_false (Ne.symm hj), if_neg hj⟩

theorem run_cons : c.run s (action :: actions) = some s' ↔
    ∃ t, c.step s action = some t ∧ c.run t actions = some s' :=
  Option.bind_eq_some_iff

theorem run_append {before after : List (Action κ ι τ)} :
    c.run s (before ++ after) = (c.run s before).bind fun t => c.run t after := by
  induction before generalizing s with
  | nil => rfl
  | cons action before ih =>
    simp only [List.cons_append, run, ih, Option.bind_assoc]

theorem sound_step (h : ∀ k, Sound (c.verifier k) (s.member k)) (hstep : c.step s action = some s')
    (k : κ) : Sound (c.verifier k) (s'.member k) := by
  rcases member_of_step hstep k with ⟨move, -, hmoved⟩ | ⟨-, hsame⟩
  · exact (h k).moved hmoved
  · rw [hsame]
    exact h k

theorem run_keeps {P : State κ ι L τ → Prop}
    (hkeeps : ∀ s action s', P s → c.step s action = some s' → P s') (h : P s)
    (hrun : c.run s actions = some s') : P s' := by
  induction actions generalizing s with
  | nil =>
    obtain rfl := Option.some.inj hrun
    exact h
  | cons action actions ih =>
    obtain ⟨t, hstep, hrest⟩ := run_cons.mp hrun
    exact ih (hkeeps s action t h hstep) hrest

theorem sound_run (h : ∀ k, Sound (c.verifier k) (s.member k))
    (hrun : c.run s actions = some s') : ∀ k, Sound (c.verifier k) (s'.member k) :=
  run_keeps (fun _ _ _ => sound_step) h hrun

theorem over_step (h : Over (c.verifier k) (s.member k) i) (hstep : c.step s action = some s') :
    Over (c.verifier k) (s'.member k) i := by
  rcases member_of_step hstep k with ⟨move, -, hmoved⟩ | ⟨-, hsame⟩
  · exact h.moved hmoved
  · rwa [hsame]

theorem over_run (h : Over (c.verifier k) (s.member k) i) (hrun : c.run s actions = some s') :
    Over (c.verifier k) (s'.member k) i :=
  run_keeps (P := fun s => Over (c.verifier k) (s.member k) i) (fun _ _ _ => over_step) h hrun

/-- None of certain calls of a verifier ends before a time. -/
def Unreleased (c : Setup κ L τ) (k : κ) (held : List ι) (time : τ) (s : State κ ι L τ)
    (actions : List (Action κ ι τ)) : Prop :=
  ∀ earlier j ledger later t, actions = earlier ++ .act k (.finish j ledger) :: later →
    c.run s earlier = some t → j ∈ held → time ≤ t.clock

theorem Unreleased.head {held : List ι} {time : τ} {move : Move ι}
    (h : c.Unreleased k held time s (.act k move :: actions)) (hearly : ¬ time ≤ s.clock) :
    ∀ j ∈ held, ∀ ledger, move ≠ .finish j ledger := by
  rintro j hj ledger rfl
  exact hearly (h [] j ledger actions s rfl rfl hj)

theorem Unreleased.tail {held : List ι} {time : τ}
    (h : c.Unreleased k held time s (action :: actions)) (hstep : c.step s action = some t) :
    c.Unreleased k held time t actions := by
  intro earlier j ledger later u heq hrun hj
  exact h (action :: earlier) j ledger later u (congrArg _ heq) (run_cons.mpr ⟨t, hstep, hrun⟩) hj

section Clock

variable [IsTrans τ (· ≤ ·)] {time : τ}

theorem late_step (h : time ≤ s.clock) (hstep : c.step s action = some s') : time ≤ s'.clock := by
  cases action with
  | tick later =>
    obtain ⟨hlater, rfl⟩ := step_tick hstep
    exact IsTrans.trans _ _ _ h hlater
  | act j move =>
    obtain ⟨m, -, rfl⟩ := Option.map_eq_some_iff.mp hstep
    exact h

theorem late_run (h : time ≤ s.clock) (hrun : c.run s actions = some s') : time ≤ s'.clock :=
  run_keeps (P := fun s => time ≤ s.clock) (fun _ _ _ => late_step) h hrun

theorem unreleased_of_tick {held : List ι} {later : τ} {before after : List (Action κ ι τ)}
    (hheld : ∀ j ∈ held, ∀ ledger, .act k (.finish j ledger) ∉ before) (htime : time ≤ later) :
    c.Unreleased k held time s (before ++ .tick later :: after) := by
  intro earlier j ledger rest t heq hrun hj
  rcases List.append_eq_append_iff.mp heq with ⟨between, rfl, hafter⟩ | ⟨between, rfl, hbefore⟩
  · cases between with
    | nil => exact nomatch (List.cons.inj hafter).1
    | cons action between =>
      obtain ⟨rfl, -⟩ := List.cons.inj hafter
      rw [run_append] at hrun
      obtain ⟨u, -, hrun⟩ := Option.bind_eq_some_iff.mp hrun
      obtain ⟨u', htick, hrun⟩ := run_cons.mp hrun
      obtain ⟨-, rfl⟩ := step_tick htick
      exact late_run htime hrun
  · cases between with
    | nil => exact nomatch (List.cons.inj hbefore).1
    | cons action between =>
      obtain ⟨rfl, -⟩ := List.cons.inj hbefore
      exact absurd (List.mem_append_right _ List.mem_cons_self) (hheld j hj ledger)

/-- A call that waits for a worker still waits for one after a run, or its check is over, as long as
the calls that keep the workers do not end before its caller has to be gone. -/
theorem blocked_run {held : List ι} {since : τ} (hsound : ∀ k, Sound (c.verifier k) (s.member k))
    (h : Blocked (s.member k) i since)
    (hkept : since + c.patience k + c.delay k ≤ s.clock ∨ Kept (c.verifier k) (s.member k) held)
    (hheld : c.Unreleased k held (since + c.patience k + c.delay k) s actions)
    (hrun : c.run s actions = some s') :
    Over (c.verifier k) (s'.member k) i ∨ Blocked (s'.member k) i since := by
  induction actions generalizing s with
  | nil =>
    obtain rfl := Option.some.inj hrun
    exact .inr h
  | cons action actions ih =>
    obtain ⟨t, hstep, hrest⟩ := run_cons.mp hrun
    have hlater : since + c.patience k + c.delay k ≤ s.clock →
        since + c.patience k + c.delay k ≤ t.clock := (late_step · hstep)
    have hgoes := fun hblocked hstill =>
      ih (sound_step hsound hstep) hblocked hstill (hheld.tail hstep) hrest
    rcases member_of_step hstep k with ⟨move, rfl, hmoved⟩ | ⟨-, hsame⟩
    · have hnow : since + c.patience k + c.delay k ≤ s.clock ∨
          Kept (c.verifier k) (s.member k) held ∧ ∀ j ∈ held, ∀ ledger, move ≠ .finish j ledger := by
        by_cases hlate : since + c.patience k + c.delay k ≤ s.clock
        · exact .inl hlate
        · exact .inr ⟨hkept.resolve_left hlate, hheld.head hlate⟩
      rcases h.moved (hsound k) hnow hmoved with hover | ⟨hblocked, hstill⟩
      · exact .inl (over_run hover hrest)
      · exact hgoes hblocked (hstill.imp_left hlater)
    · rw [← hsame] at h hkept
      exact hgoes h (hkept.imp_left hlater)

end Clock

/-- The states are the same but for one verifier, and for the calls at its ledger. -/
structure AgreeBeside (c : Setup κ L τ) (k : κ) (s t : State κ ι L τ) : Prop where
  clock : s.clock = t.clock
  member : ∀ j, j ≠ k → s.member j = t.member j
  calls : ∀ l, l ≠ c.ledger k → s.calls l = t.calls l

theorem AgreeBeside.own {move : Move ι} (h : AgreeBeside c k s t)
    (hstep : c.step s (.act k move) = some s') : AgreeBeside c k s' t := by
  obtain ⟨m, -, rfl⟩ := Option.map_eq_some_iff.mp hstep
  refine ⟨h.clock, fun j hj => (if_neg hj).trans (h.member j hj), fun l hl => ?_⟩
  rw [← h.calls l hl]
  unfold counted
  split
  · exact if_neg hl
  · rfl

theorem AgreeBeside.other (h : AgreeBeside c k s t) (hstep : c.step s action = some s')
    (haction : action.isOf k = false) :
    ∃ t', c.step t action = some t' ∧ AgreeBeside c k s' t' := by
  cases action with
  | tick later =>
    obtain ⟨hlater, rfl⟩ := step_tick hstep
    exact ⟨_, if_pos (h.clock ▸ hlater), { h with clock := rfl }⟩
  | act j move =>
    have hj : j ≠ k := of_decide_eq_false haction
    obtain ⟨m, hm, rfl⟩ := Option.map_eq_some_iff.mp hstep
    rw [h.member j hj, h.clock] at hm
    refine ⟨_, Option.map_eq_some_iff.mpr ⟨m, hm, rfl⟩, h.clock, fun i hi => ?_, fun l hl => ?_⟩
    · simp only [h.member i hi]
    · unfold counted
      split
      · simp only [h.calls l hl]
      · exact h.calls l hl

theorem AgreeBeside.run (h : AgreeBeside c k s t) (hrun : c.run s actions = some s') :
    ∃ t', c.run t (actions.filter fun action => !action.isOf k) = some t' ∧
      AgreeBeside c k s' t' := by
  induction actions generalizing s t with
  | nil =>
    obtain rfl := Option.some.inj hrun
    exact ⟨t, rfl, h⟩
  | cons action actions ih =>
    obtain ⟨u, hstep, hrest⟩ := run_cons.mp hrun
    cases haction : action.isOf k with
    | true =>
      rw [List.filter_cons_of_neg (by simp [haction])]
      cases action with
      | tick later => exact nomatch haction
      | act j move =>
        obtain rfl : j = k := of_decide_eq_true haction
        exact ih (h.own hstep) hrest
    | false =>
      obtain ⟨t₁, ht₁, hagree⟩ := h.other hstep haction
      obtain ⟨t', ht', hagree'⟩ := ih hagree hrest
      rw [List.filter_cons_of_pos (by simp [haction])]
      exact ⟨t', run_cons.mpr ⟨t₁, ht₁, ht'⟩, hagree'⟩

theorem AgreeBeside.of_runs {other : List (Action κ ι τ)} {start : State κ ι L τ}
    (hs : c.run start actions = some s) (ht : c.run start other = some t)
    (hsame : (actions.filter fun action => !action.isOf k) =
      other.filter fun action => !action.isOf k) : AgreeBeside c k s t := by
  have hrefl : AgreeBeside c k start start := ⟨rfl, fun _ _ => rfl, fun _ _ => rfl⟩
  obtain ⟨u, hu, hsu⟩ := hrefl.run hs
  obtain ⟨u', hu', htu⟩ := hrefl.run ht
  rw [hsame, hu'] at hu
  obtain rfl := Option.some.inj hu
  exact ⟨hsu.clock.trans htu.clock.symm, fun j hj => (hsu.member j hj).trans (htu.member j hj).symm,
    fun l hl => (hsu.calls l hl).trans (htu.calls l hl).symm⟩

end Setup

def oneWorker : RootVerifier Int where
  kind := .contract
  timeout := "5"
  lifetime := 10
  pool := .ofCapacity 1
  cache := none

def pair : Setup Bool Bool Int where
  verifier _ := oneWorker
  patience _ := 5
  delay _ := 0
  ledger k := k

def answered : List (Action Bool Nat Int) := [
  .act true (.call 7 (.text "9")), .act true .begin, .act true (.finish 7 .agreeing),
  .act true (.collect 7)]

def hung : List (Action Bool Nat Int) := [.act false (.call 0 (.text "9")), .act false .begin]

def starved : List (Action Bool Nat Int) :=
  answered ++ .tick 5 :: [.act false (.finish 0 .agreeing), .act false (.giveUp 1)]

/-- A caller that is late leaves its call to the worker of one that ends in between. -/
example : let late : Setup Bool Bool Int := { pair with delay := fun _ => 2 }
    let released : List (Action Bool Nat Int) := hung ++ [.act false (.call 1 (.text "9")), .tick 6,
      .act false (.finish 0 .agreeing), .act false .begin]
    (late.run (late.start 0) released).map (fun s => (s.member false).started) = some [0, 1] := rfl

end IdentityProof.Fleet
