import IdentityProof.Proofs.Root.Verdict
import IdentityProof.Root.Fleet

/-! One of the verifiers that work side by side. What a step can do is said once. The workers are
never too many, since a call is started for a free one only, and a call that finds none by its
deadline is never started. -/

namespace IdentityProof

namespace RootVerifier

variable {τ : Type} [Sub τ] [LT τ] [DecidableLT τ] {v : RootVerifier τ}

theorem verify_eq_consult {root : Json} {provided : Root} {ledger : LedgerView} {now : τ}
    (hroot : Root.parse root = .ok provided)
    (hcache : v.kind = .cached → CachedRoot.serve? v.cache v.lifetime now = none) :
    v.verify ledger now root = v.consult ledger now provided := by
  unfold verify consult
  rw [hroot]
  cases hkind : v.kind with
  | contract => rfl
  | events => rfl
  | cached =>
    simp only [currentRoot]
    rw [hcache hkind]

end RootVerifier

namespace Fleet

variable {ι τ : Type}

def Stage.IsEarly : Stage τ → Prop
  | .idle | .entering _ => True
  | .waiting _ _ | .answered _ _ _ | .done _ => False

namespace Member

/-- What holds of a verifier at work: its workers are not too many, the calls that were started are
those that have ended and those that run, and a check has no call before it comes to it. -/
structure Sound (v : RootVerifier τ) (m : Member ι τ) : Prop where
  capacity : m.verifier.pool.capacity = v.pool.capacity
  missed : m.verifier.missed = v.missed
  bounded : m.running.length ≤ v.pool.capacity
  told : m.started.Perm (m.ended ++ m.running)
  early : ∀ i, (m.stage i).IsEarly → i ∉ m.queue ∧ i ∉ m.started

theorem Sound.ofVerifier (v : RootVerifier τ) : Sound v (.ofVerifier v : Member ι τ) where
  capacity := rfl
  missed := rfl
  bounded := Nat.zero_le _
  told := .refl _
  early _ _ := ⟨List.not_mem_nil, List.not_mem_nil⟩

theorem isOverdue_of_waiting [Add τ] [LE τ] [DecidableLE τ] {patience delay now since : τ}
    {m : Member ι τ} {i : ι} {provided : Root} (h : m.stage i = .waiting provided since) :
    m.isOverdue patience delay now i = decide (since + patience + delay ≤ now) := by
  unfold isOverdue
  rw [h]

theorem perm_start {started ended running : List ι} (h : started.Perm (ended ++ running)) (i : ι) :
    (started ++ [i]).Perm (ended ++ i :: running) :=
  (List.perm_append_singleton i started).trans ((h.cons i).trans List.perm_middle.symm)

theorem not_mem_concat {i j : ι} {l : List ι} (h : i ∉ l) (hne : i ≠ j) : i ∉ l ++ [j] :=
  List.not_mem_append h (mt List.mem_singleton.mp hne)

variable [DecidableEq ι] {m m' : Member ι τ} {move : Move ι} {i j : ι} {v : RootVerifier τ}

theorem perm_finish {started ended running : List ι} (h : started.Perm (ended ++ running))
    (hi : i ∈ running) : started.Perm (ended ++ [i] ++ running.erase i) := by
  rw [List.append_assoc]
  exact h.trans (.append_left ended (List.perm_cons_erase hi))

theorem stage_move_of_ne {stage : Stage τ} (h : j ≠ i) : (m.move i stage).stage j = m.stage j :=
  if_neg h

theorem stage_move_self {stage : Stage τ} : (m.move i stage).stage i = stage := if_pos rfl

theorem early_of_move {stage : Stage τ} (hstage : stage.IsEarly → (m.stage i).IsEarly)
    (h : ((m.move i stage).stage j).IsEarly) : (m.stage j).IsEarly := by
  by_cases hj : j = i
  · subst hj
    rw [stage_move_self] at h
    exact hstage h
  · rwa [stage_move_of_ne hj] at h

theorem ne_of_early_move {stage : Stage τ} (hstage : ¬ stage.IsEarly)
    (h : ((m.move i stage).stage j).IsEarly) : j ≠ i := by
  rintro rfl
  rw [stage_move_self] at h
  exact hstage h

section Moves

variable [Add τ] [LE τ] [DecidableLE τ] {patience delay now : τ}

inductive Moved (patience delay now : τ) (m : Member ι τ) : Move ι → Member ι τ → Prop
  | aside {i : ι} {move : Move ι} {stage : Stage τ} (early : (m.stage i).IsEarly)
      (hmove : (∃ root, move = .call i root) ∨ move = .enter i)
      (hstage : (∃ provided, stage = .entering provided) ∨ ∃ result, stage = .done result)
      (lock : Option ι) : Moved patience delay now m move { m.move i stage with lock }
  | submitted {i : ι} {move : Move ι} (provided : Root) (early : (m.stage i).IsEarly)
      (hmove : (∃ root, move = .call i root) ∨ move = .enter i) (lock : Option ι) :
      Moved patience delay now m move
        { m.move i (.waiting provided now) with lock, queue := m.queue ++ [i] }
  | started {i : ι} {queue : List ι} (hqueue : m.queue = i :: queue)
      (hfree : m.running.length < m.verifier.pool.capacity)
      (hthere : m.isOverdue patience delay now i = false) :
      Moved patience delay now m .begin
        { m with queue, running := i :: m.running, started := m.started ++ [i] }
  | ended {i : ι} {ledger : Ledger} (hrunning : i ∈ m.running) :
      Moved patience delay now m (.finish i ledger)
        { m with running := m.running.erase i, ended := m.ended ++ [i] }
  | answered {i : ι} {ledger : Ledger} {provided : Root} {since : τ} (hrunning : i ∈ m.running)
      (hwaits : m.stage i = .waiting provided since) :
      Moved patience delay now m (.finish i ledger)
        { m.move i (.answered provided since ledger) with
          running := m.running.erase i, ended := m.ended ++ [i] }
  | collected {i : ι} {provided : Root} {since : τ} {ledger : Ledger}
      (hanswered : m.stage i = .answered provided since ledger) (cache : Option (CachedRoot τ))
      (result : Except (Raised RootError) Unit) (lock : Option ι) :
      Moved patience delay now m (.collect i)
        { m.move i (.done result) with verifier := { m.verifier with cache }, lock }
  | gaveUp {i : ι} {provided : Root} {since : τ} (hwaits : m.stage i = .waiting provided since)
      (hlate : since + patience ≤ now) (lock : Option ι) :
      Moved patience delay now m (.giveUp i)
        { m.move i (.done m.verifier.missed) with lock, queue := m.queue.filter (· ≠ i) }
  | closed : Moved patience delay now m .close { m with verifier := m.verifier.close }

theorem Sound.moved (h : Sound v m) (hmoved : Moved patience delay now m move m') : Sound v m' := by
  cases hmoved with
  | aside early hmove hstage lock =>
    exact { h with early := fun j hj => h.early j (early_of_move (fun _ => early) hj) }
  | @submitted i _ provided early hmove lock =>
    refine { h with early := fun j hj => ?_ }
    have hlate : ¬ (Stage.waiting provided now).IsEarly := id
    have hne : j ≠ i := ne_of_early_move hlate hj
    obtain ⟨hqueue, hstarted⟩ := h.early j (early_of_move (fun _ => early) hj)
    exact ⟨not_mem_concat hqueue hne, hstarted⟩
  | @started i queue hqueue hfree _ =>
    refine { h with
      bounded := h.capacity ▸ hfree, told := perm_start h.told i, early := fun j hj => ?_ }
    obtain ⟨hnot, hstarted⟩ := h.early j hj
    rw [hqueue, List.mem_cons, not_or] at hnot
    exact ⟨hnot.2, not_mem_concat hstarted hnot.1⟩
  | ended hrunning =>
    exact { h with
      bounded := Nat.le_trans List.length_erase_le h.bounded
      told := perm_finish h.told hrunning }
  | answered hrunning hwaits =>
    exact { h with
      bounded := Nat.le_trans List.length_erase_le h.bounded
      told := perm_finish h.told hrunning
      early := fun j hj => h.early j (early_of_move False.elim hj) }
  | collected hanswered cache result lock =>
    exact { h with early := fun j hj => h.early j (early_of_move False.elim hj) }
  | gaveUp hwaits hlate lock =>
    refine { h with early := fun j hj => ?_ }
    obtain ⟨hqueue, hstarted⟩ := h.early j (early_of_move False.elim hj)
    exact ⟨fun hmem => hqueue (List.mem_filter.mp hmem).1, hstarted⟩
  | closed => exact { h with }

structure Blocked (m : Member ι τ) (i : ι) (since : τ) : Prop where
  queued : i ∈ m.queue
  unstarted : i ∉ m.started
  waits : ∃ provided, m.stage i = .waiting provided since

structure Kept (v : RootVerifier τ) (m : Member ι τ) (held : List ι) : Prop where
  running : m.running = held
  full : v.pool.capacity ≤ held.length

/-- The check has ended with a missed deadline, and its call was not started and will not be. -/
structure Over (v : RootVerifier τ) (m : Member ι τ) (i : ι) : Prop where
  unqueued : i ∉ m.queue
  unstarted : i ∉ m.started
  missed : m.stage i = .done v.missed

theorem Over.moved (h : Over v m i) (hmoved : Moved patience delay now m move m') : Over v m' i := by
  -- the check is done, so that a step of it would be a step from another stage
  have hother {j : ι} (hj : m.stage j ≠ .done v.missed) : i ≠ j := by
    rintro rfl
    exact hj h.missed
  have hearly {j : ι} (hj : (m.stage j).IsEarly) : i ≠ j := by
    refine hother fun hdone => ?_
    rw [hdone] at hj
    exact hj
  cases hmoved with
  | aside early hmove hstage lock =>
    exact { h with missed := (stage_move_of_ne (hearly early)).trans h.missed }
  | submitted provided early hmove lock =>
    exact { h with
      missed := (stage_move_of_ne (hearly early)).trans h.missed
      unqueued := not_mem_concat h.unqueued (hearly early) }
  | started hqueue hfree _ =>
    have hnot := h.unqueued
    rw [hqueue, List.mem_cons, not_or] at hnot
    exact { h with
      unqueued := hnot.2
      unstarted := not_mem_concat h.unstarted hnot.1 }
  | ended hrunning => exact { h with }
  | answered hrunning hwaits =>
    exact { h with missed := (stage_move_of_ne (hother (by simp [hwaits]))).trans h.missed }
  | collected hanswered cache result lock =>
    exact { h with missed := (stage_move_of_ne (hother (by simp [hanswered]))).trans h.missed }
  | gaveUp hwaits hlate lock =>
    exact { h with
      missed := (stage_move_of_ne (hother (by simp [hwaits]))).trans h.missed
      unqueued := fun hmem => h.unqueued (List.mem_filter.mp hmem).1 }
  | closed => exact { h with }

/-- A call without a worker goes on to wait, or its caller gives up: until the caller is overdue no
worker is free for the call, and after that the call is there no more to be taken. -/
theorem Blocked.moved {held : List ι} {since : τ} (h : Blocked m i since)
    (hsound : Sound v m)
    (hkept : since + patience + delay ≤ now ∨
      Kept v m held ∧ ∀ j ∈ held, ∀ ledger, move ≠ .finish j ledger)
    (hmoved : Moved patience delay now m move m') :
    Over v m' i ∨ Blocked m' i since ∧ (since + patience + delay ≤ now ∨ Kept v m' held) := by
  obtain ⟨provided, hwaits⟩ := h.waits
  have hother {j : ι} (hj : ∀ provided, m.stage j ≠ .waiting provided since) : i ≠ j := by
    rintro rfl
    exact hj provided hwaits
  have hearly {j : ι} (hj : (m.stage j).IsEarly) : i ≠ j := by
    refine hother fun provided hwaits => ?_
    rw [hwaits] at hj
    exact hj
  have hstays {j : ι} {stage : Stage τ} (hj : i ≠ j) :
      ∃ provided, (m.move j stage).stage i = .waiting provided since :=
    ⟨provided, (stage_move_of_ne hj).trans hwaits⟩
  have hnot : i ∉ m.running := fun hmem =>
    h.unstarted (hsound.told.mem_iff.mpr (List.mem_append_right _ hmem))
  cases hmoved with
  | aside early hmove hstage lock =>
    refine .inr ⟨{ h with waits := hstays (hearly early) }, hkept.imp_right fun hkept => ?_⟩
    exact { hkept.1 with }
  | submitted _ early hmove lock =>
    refine .inr ⟨{ h with
      waits := hstays (hearly early), queued := List.mem_append_left _ h.queued }, ?_⟩
    exact hkept.imp_right fun hkept => { hkept.1 with }
  | @started j queue hqueue hfree hthere =>
    rcases hkept with hlate | ⟨hkept, -⟩
    · -- the caller of the call that is taken is still there
      have hne : i ≠ j := by
        rintro rfl
        rw [isOverdue_of_waiting hwaits] at hthere
        exact of_decide_eq_false hthere hlate
      have hqueued := h.queued
      rw [hqueue, List.mem_cons, or_iff_right hne] at hqueued
      exact .inr ⟨{ h with queued := hqueued, unstarted := not_mem_concat h.unstarted hne },
        .inl hlate⟩
    · rw [hkept.running, hsound.capacity] at hfree
      exact absurd hfree (Nat.not_lt.mpr hkept.full)
  | ended hrunning =>
    refine .inr ⟨{ h with }, .inl (hkept.resolve_right ?_)⟩
    exact fun ⟨hkept, hheld⟩ => hheld _ (hkept.running ▸ hrunning) _ rfl
  | answered hrunning _ =>
    have hne : i ≠ _ := fun heq => hnot (heq ▸ hrunning)
    refine .inr ⟨{ h with waits := hstays hne }, .inl (hkept.resolve_right ?_)⟩
    exact fun ⟨hkept, hheld⟩ => hheld _ (hkept.running ▸ hrunning) _ rfl
  | collected hanswered cache result lock =>
    refine .inr ⟨{ h with waits := hstays (hother fun _ hj => ?_) }, ?_⟩
    · exact nomatch hanswered.symm.trans hj
    · exact hkept.imp_right fun hkept => { hkept.1 with }
  | @gaveUp j _ _ hgone hlate lock =>
    by_cases hj : i = j
    · subst hj
      refine .inl ⟨?_, h.unstarted, ?_⟩
      · exact fun hmem => by simpa using (List.mem_filter.mp hmem).2
      · exact stage_move_self.trans (congrArg _ hsound.missed)
    · refine .inr ⟨{ h with
        waits := hstays hj, queued := List.mem_filter.mpr ⟨h.queued, by simpa using hj⟩ }, ?_⟩
      exact hkept.imp_right fun hkept => { hkept.1 with }
  | closed =>
    exact .inr ⟨{ h with }, hkept.imp_right fun hkept => { hkept.1 with }⟩

theorem Moved.submitted_of_mem (hmoved : Moved patience delay now m move m') (hout : i ∉ m.queue)
    (hin : i ∈ m'.queue) :
    (m.stage i).IsEarly ∧ m'.running = m.running ∧ m'.started = m.started ∧
      ∃ provided, m'.stage i = .waiting provided now := by
  cases hmoved with
  | @submitted j _ provided early hmove lock =>
    obtain rfl : i = j := by
      rcases List.mem_append.mp hin with hold | hnew
      · exact absurd hold hout
      · exact List.mem_singleton.mp hnew
    exact ⟨early, rfl, rfl, provided, stage_move_self⟩
  | started hqueue hfree _ =>
    rw [hqueue] at hout
    exact absurd (List.mem_cons_of_mem _ hin) hout
  | gaveUp hwaits hlate lock => exact absurd (List.mem_filter.mp hin).1 hout
  | aside | ended | answered | collected | closed => exact absurd hin hout

theorem Moved.blocked (hmoved : Moved patience delay now m move m') (hsound : Sound v m)
    (hfull : v.pool.capacity ≤ m.running.length) (hout : i ∉ m.queue) (hin : i ∈ m'.queue) :
    Blocked m' i now ∧ Kept v m' m.running := by
  obtain ⟨early, hrunning, hstarted, hwaits⟩ := hmoved.submitted_of_mem hout hin
  exact ⟨⟨hin, hstarted ▸ (hsound.early i early).2, hwaits⟩, hrunning, hfull⟩

theorem moved_of_submit {provided : Root} {lock : Option ι}
    (early : (m.stage i).IsEarly) (hmove : (∃ root, move = .call i root) ∨ move = .enter i) :
    Moved patience delay now m move ({ m with lock }.submit i provided now) := by
  unfold submit
  split
  · exact .aside early hmove (.inr ⟨_, rfl⟩) _
  · exact .submitted provided early hmove lock

variable [Sub τ] [LT τ] [DecidableLT τ]

theorem moved_of_step (h : m.step patience delay now move = some m') :
    Moved patience delay now m move m' := by
  cases move with
  | call i root =>
    simp only [step] at h
    split at h
    · rename_i hidle
      have early : (m.stage i).IsEarly := by rw [hidle]; trivial
      split at h
      · obtain rfl := Option.some.inj h
        exact .aside early (.inl ⟨root, rfl⟩) (.inr ⟨_, rfl⟩) m.lock
      · split at h
        · obtain rfl := Option.some.inj h
          exact .aside early (.inl ⟨root, rfl⟩) (.inl ⟨_, rfl⟩) m.lock
        all_goals
          obtain rfl := Option.some.inj h
          exact moved_of_submit early (.inl ⟨root, rfl⟩)
    · exact nomatch h
  | enter i =>
    simp only [step] at h
    split at h
    · rename_i hentering
      have early : (m.stage i).IsEarly := by rw [hentering]; trivial
      split at h
      · obtain rfl := Option.some.inj h
        exact .aside early (.inr rfl) (.inr ⟨_, rfl⟩) m.lock
      · obtain rfl := Option.some.inj h
        exact moved_of_submit early (.inr rfl)
    · exact nomatch h
  | begin =>
    simp only [step] at h
    split at h
    · rename_i hqueue
      split at h
      · rename_i hbegin
        obtain rfl := Option.some.inj h
        exact .started hqueue hbegin.1 (eq_false_of_ne_true hbegin.2)
      · exact nomatch h
    · exact nomatch h
  | finish i ledger =>
    simp only [step] at h
    split at h
    · rename_i hrunning
      split at h
      · rename_i hwaits
        split at h
        · exact nomatch h
        · obtain rfl := Option.some.inj h
          exact .answered hrunning hwaits
      · obtain rfl := Option.some.inj h
        exact .ended hrunning
    · exact nomatch h
  | collect i =>
    simp only [step] at h
    split at h
    · rename_i hanswered
      obtain rfl := Option.some.inj h
      exact .collected hanswered _ _ _
    · exact nomatch h
  | giveUp i =>
    simp only [step] at h
    split at h
    · rename_i hwaits
      split at h
      · rename_i hlate
        obtain rfl := Option.some.inj h
        exact .gaveUp hwaits hlate _
      · exact nomatch h
    · exact nomatch h
  | close =>
    obtain rfl := Option.some.inj h
    exact .closed

theorem step_giveUp {provided : Root} {since : τ} (hwaits : m.stage i = .waiting provided since)
    (hlate : since + patience ≤ now) :
    ∃ m', m.step patience delay now (.giveUp i) = some m' ∧ m'.stage i = .done m.verifier.missed := by
  have hstep : m.step patience delay now (.giveUp i) = some ({ m with
      queue := m.queue.filter (· ≠ i) }.leave i m.verifier.missed) := by
    simp only [step, hwaits, if_pos hlate]
  exact ⟨_, hstep, stage_move_self⟩

end Moves

section Alone

variable {patience delay now : τ} {root : Json} {provided : Root} {ledger : Ledger}

theorem submit_of_open (hopen : m.verifier.pool.closed = false) :
    (m.submit i provided now).queue = m.queue ++ [i] ∧
      (m.submit i provided now).stage i = .waiting provided now ∧
      (m.submit i provided now).running = m.running ∧
      (m.submit i provided now).verifier = m.verifier := by
  rw [submit, if_neg (by simp [hopen])]
  exact ⟨rfl, stage_move_self, rfl, rfl⟩

variable [Add τ] [Sub τ] [LE τ] [LT τ] [DecidableLE τ] [DecidableLT τ]

def steps (patience delay now : τ) (m : Member ι τ) (moves : List (Move ι)) : Option (Member ι τ) :=
  moves.foldlM (fun m move => m.step patience delay now move) m

theorem steps_cons {moves : List (Move ι)} (h : m.step patience delay now move = some m') :
    m.steps patience delay now (move :: moves) = m'.steps patience delay now moves := by
  rw [steps, List.foldlM_cons, h]
  rfl

theorem step_begin {queue : List ι} (hqueue : m.queue = i :: queue)
    (hfree : m.running.length < m.verifier.pool.capacity)
    (hthere : m.isOverdue patience delay now i = false) :
    ∃ m', m.step patience delay now .begin = some m' ∧ i ∈ m'.running ∧ m'.stage = m.stage ∧
      m'.verifier = m.verifier := by
  have hstep : m.step patience delay now .begin =
      some { m with queue, running := i :: m.running, started := m.started ++ [i] } := by
    simp only [step, hqueue]
    exact if_pos ⟨hfree, ne_true_of_eq_false hthere⟩
  exact ⟨_, hstep, List.mem_cons_self, rfl, rfl⟩

theorem step_finish {since : τ} (hrunning : i ∈ m.running)
    (hwaits : m.stage i = .waiting provided since)
    (hends : ledger.course provided m.verifier.kind ≠ .hangs) :
    ∃ m', m.step patience delay now (.finish i ledger) = some m' ∧
      m'.stage i = .answered provided since ledger ∧ m'.verifier = m.verifier := by
  have hstep : m.step patience delay now (.finish i ledger) =
      some ({ m with running := m.running.erase i, ended := m.ended ++ [i] }.move i
        (.answered provided since ledger)) := by
    simp only [step, if_pos hrunning, hwaits]
  exact ⟨_, hstep, stage_move_self, rfl⟩

theorem step_collect {since : τ} (hanswered : m.stage i = .answered provided since ledger) :
    ∃ m', m.step patience delay now (.collect i) = some m' ∧
      m'.stage i = .done (m.verifier.withWorker.consult ledger.view since provided).result := by
  simp only [step, hanswered]
  exact ⟨_, rfl, stage_move_self⟩

theorem steps_of_submit (hpatience : ¬ now + patience + delay ≤ now) (hqueue : m.queue = [])
    (hopen : m.verifier.pool.closed = false)
    (hfree : m.running.length < m.verifier.pool.capacity)
    (hends : ledger.course provided m.verifier.kind ≠ .hangs) :
    ∃ m', (m.submit i provided now).steps patience delay now [.begin, .finish i ledger, .collect i] =
        some m' ∧
      m'.stage i = .done (m.verifier.withWorker.consult ledger.view now provided).result := by
  obtain ⟨hqueue₀, hwaits, hrunning₀, hsame₀⟩ :
      (m.submit i provided now).queue = m.queue ++ [i] ∧ _ := submit_of_open hopen
  rw [hqueue, List.nil_append] at hqueue₀
  rw [← hrunning₀, ← hsame₀] at hfree
  rw [← hsame₀] at hends ⊢
  have hthere : (m.submit i provided now).isOverdue patience delay now i = false := by
    rw [isOverdue_of_waiting hwaits, decide_eq_false hpatience]
  obtain ⟨m₁, h₁, hrunning, hstage, hsame₁⟩ := step_begin hqueue₀ hfree hthere
  obtain ⟨m₂, h₂, hanswered, hsame₂⟩ :=
    step_finish hrunning (hstage ▸ hwaits) (hsame₁ ▸ hends)
  obtain ⟨m₃, h₃, hdone⟩ := step_collect hanswered
  refine ⟨m₃, ?_, ?_⟩
  · rw [steps_cons h₁, steps_cons h₂, steps_cons h₃]
    rfl
  · rw [← hsame₁, ← hsame₂]
    exact hdone

theorem steps_alone (hpatience : ¬ now + patience + delay ≤ now)
    (hidle : m.stage i = .idle) (hqueue : m.queue = [])
    (hfree : m.running.length < m.verifier.pool.capacity)
    (hopen : m.verifier.pool.closed = false) (hroot : Root.parse root = .ok provided)
    (hends : ledger.course provided m.verifier.kind ≠ .hangs)
    (hkind : m.verifier.kind ≠ .cached) :
    ∃ m', m.steps patience delay now [.call i root, .begin, .finish i ledger, .collect i] = some m' ∧
      m'.stage i = .done (m.verifier.withWorker.verify ledger.view now root).result := by
  have hcall : m.step patience delay now (.call i root) = some (m.submit i provided now) := by
    simp only [step, hidle, hroot]
    cases hm : m.verifier.kind with
    | cached => exact absurd hm hkind
    | contract | events => rfl
  have hconsult : m.verifier.withWorker.verify ledger.view now root =
      m.verifier.withWorker.consult ledger.view now provided :=
    RootVerifier.verify_eq_consult hroot fun h => absurd h hkind
  rw [steps_cons hcall, hconsult]
  exact steps_of_submit hpatience hqueue hopen hfree hends

theorem steps_alone_cached (hpatience : ¬ now + patience + delay ≤ now)
    (hidle : m.stage i = .idle) (hqueue : m.queue = [])
    (hfree : m.running.length < m.verifier.pool.capacity)
    (hopen : m.verifier.pool.closed = false) (hroot : Root.parse root = .ok provided)
    (hends : ledger.course provided m.verifier.kind ≠ .hangs)
    (hkind : m.verifier.kind = .cached) (hlock : m.lock = none)
    (hstale : CachedRoot.serve? m.verifier.cache m.verifier.lifetime now = none) :
    ∃ m', m.steps patience delay now [.call i root, .enter i, .begin, .finish i ledger, .collect i] =
        some m' ∧
      m'.stage i = .done (m.verifier.withWorker.verify ledger.view now root).result := by
  have hcall : m.step patience delay now (.call i root) = some (m.move i (.entering provided)) := by
    simp only [step, hidle, hroot, hkind]
  have henter : (m.move i (.entering provided)).step patience delay now (.enter i) =
      some ({ m.move i (.entering provided) with lock := some i }.submit i provided now) := by
    have hentering : (m.move i (.entering provided)).stage i = .entering provided := stage_move_self
    have hunlocked : (m.move i (.entering provided)).lock = none := hlock
    have hempty : CachedRoot.serve? (m.move i (.entering provided)).verifier.cache
      (m.move i (.entering provided)).verifier.lifetime now = none := hstale
    simp only [step, hentering, hunlocked, hempty]
  have hconsult : m.verifier.withWorker.verify ledger.view now root =
      m.verifier.withWorker.consult ledger.view now provided :=
    RootVerifier.verify_eq_consult hroot fun _ => hstale
  rw [steps_cons hcall, steps_cons henter, hconsult]
  exact steps_of_submit (m := { m.move i (.entering provided) with lock := some i }) hpatience
    hqueue hopen hfree hends

end Alone
end Member
end Fleet
end IdentityProof
