import IdentityProof.Fault

/-! Operations in sequence: what the result of the whole says about the steps. -/

namespace IdentityProof

theorem ok_bind (a : α) (f : α → Except ε β) : (Except.ok a >>= f) = f a := rfl

theorem bind_eq_ok {x : Except ε α} {f : α → Except ε β} {b : β} :
    x >>= f = .ok b ↔ ∃ a, x = .ok a ∧ f a = .ok b := by
  cases x <;> simp [bind, Except.bind]

theorem bind_eq_error {x : Except ε α} {f : α → Except ε β} {e : ε} :
    x >>= f = .error e ↔ x = .error e ∨ ∃ a, x = .ok a ∧ f a = .error e := by
  cases x <;> simp [bind, Except.bind]

theorem pure_eq_ok {a b : α} : (pure a : Except ε α) = .ok b ↔ a = b := by
  simp [pure, Except.pure]

theorem throw_eq_ok {e : ε} {b : α} : (throw e : Except ε α) = .ok b ↔ False := by
  simp [throw, throwThe, MonadExceptOf.throw]

theorem map_eq_ok {f : α → β} {x : Except ε α} {b : β} :
    x.map f = .ok b ↔ ∃ a, x = .ok a ∧ f a = b := by
  cases x <;> simp [Except.map]

theorem map_eq_error {f : α → β} {x : Except ε α} {e : ε} :
    x.map f = .error e ↔ x = .error e := by
  cases x <;> simp [Except.map]

theorem mapError_eq_ok {f : ε → δ} {x : Except ε α} {a : α} :
    x.mapError f = .ok a ↔ x = .ok a := by
  cases x with
  | error e => exact ⟨nofun, nofun⟩
  | ok b =>
    constructor
    · intro h
      exact congrArg Except.ok (Except.ok.inj h)
    · intro h
      exact congrArg Except.ok (Except.ok.inj h)

theorem mapError_eq_error {f : ε → δ} {x : Except ε α} {d : δ} :
    x.mapError f = .error d ↔ ∃ e, x = .error e ∧ f e = d := by
  cases x with
  | error e =>
    have hmap : (Except.error e : Except ε α).mapError f = .error (f e) := rfl
    rw [hmap]
    simp
  | ok b => exact ⟨nofun, fun ⟨_, he, _⟩ => nomatch he⟩

def IsError (x : Except ε α) : Prop := ∃ e, x = .error e

/-- The operation meets a fault, so that it neither has a result nor refuses. -/
def MeetsFault (x : Except (Raised ε) α) : Prop := ∃ f, x = .error (.fault f)

theorem not_isError_ok {a : α} : ¬ IsError (.ok a : Except ε α) := fun ⟨_, h⟩ => nomatch h

theorem isError_error {e : ε} : IsError (.error e : Except ε α) := ⟨e, rfl⟩

theorem not_isError_pure {a : α} : ¬ IsError (pure a : Except ε α) := not_isError_ok

theorem not_isError_iff {x : Except ε α} : ¬ IsError x ↔ ∃ a, x = .ok a := by
  cases x with
  | error e => exact iff_of_false (fun h => h isError_error) nofun
  | ok a => exact iff_of_true not_isError_ok ⟨a, rfl⟩

theorem isError_bind {x : Except ε α} {f : α → Except ε β} {P : Prop}
    (h : ∀ a, x = .ok a → (IsError (f a) ↔ P)) : IsError (x >>= f) ↔ IsError x ∨ P := by
  cases x with
  | error e => exact ⟨fun _ => .inl isError_error, fun _ => isError_error⟩
  | ok a =>
    rw [or_iff_right not_isError_ok]
    exact h a rfl

theorem isError_bind_of_ok {x : Except ε α} {f : α → Except ε β} {a : α} (hx : x = .ok a) :
    IsError (x >>= f) ↔ IsError (f a) := by
  rw [hx]
  rfl

theorem isError_bind_of_not {x : Except ε α} {f : α → Except ε β} {P : Prop} (hx : ¬ IsError x)
    (h : ∀ a, IsError (f a) ↔ P) : IsError (x >>= f) ↔ P :=
  (isError_bind fun a _ => h a).trans (or_iff_right hx)

theorem isError_bind_of_forall_not {x : Except ε α} {f : α → Except ε β}
    (h : ∀ a, ¬ IsError (f a)) : IsError (x >>= f) ↔ IsError x :=
  (isError_bind fun a _ => iff_false_intro (h a)).trans (iff_of_eq (or_false _))

theorem isError_bind_of_forall {x : Except ε α} {f : α → Except ε β} (h : ∀ a, IsError (f a)) :
    IsError (x >>= f) := by
  cases x with
  | error e => exact isError_error
  | ok a => exact h a

theorem isError_mapM_cons {f : α → Except ε β} {a : α} {as : List α} :
    IsError ((a :: as).mapM f) ↔ IsError (f a) ∨ IsError (as.mapM f) := by
  rw [List.mapM_cons]
  exact isError_bind fun _ _ => isError_bind_of_forall_not fun _ => not_isError_pure

theorem not_meetsFault_ok {a : α} : ¬ MeetsFault (.ok a : Except (Raised ε) α) :=
  fun ⟨_, h⟩ => nomatch h

theorem not_meetsFault_refused {e : ε} : ¬ MeetsFault (.error (.refused e) : Except (Raised ε) α) :=
  fun ⟨_, h⟩ => nomatch h

theorem meetsFault_bind {x : Except (Raised ε) α} {f : α → Except (Raised ε) β} :
    MeetsFault (x >>= f) ↔ MeetsFault x ∨ ∃ a, x = .ok a ∧ MeetsFault (f a) := by
  unfold MeetsFault
  simp only [bind_eq_error, exists_or]
  constructor
  · rintro (h | ⟨fault, a, hx, hf⟩)
    · exact .inl h
    · exact .inr ⟨a, hx, fault, hf⟩
  · rintro (h | ⟨a, hx, fault, hf⟩)
    · exact .inl h
    · exact .inr ⟨fault, a, hx, hf⟩

theorem meetsFault_bind_iff {x : Except (Raised ε) α} {f : α → Except (Raised ε) β} {P : Prop}
    (h : ∀ a, MeetsFault (f a) ↔ P) :
    MeetsFault (x >>= f) ↔ MeetsFault x ∨ (∃ a, x = .ok a) ∧ P := by
  rw [meetsFault_bind]
  simp only [h, exists_and_right]

def RefusesIn (causes : ε → Prop) (x : Except (Raised ε) α) : Prop :=
  ∀ e, x = .error (.refused e) → causes e

namespace RefusesIn

variable {causes : ε → Prop}

theorem ok {a : α} : RefusesIn causes (.ok a : Except (Raised ε) α) := fun _ => nofun

theorem refused {e : ε} (h : causes e) :
    RefusesIn causes (.error (.refused e) : Except (Raised ε) α) := by
  intro other hother
  obtain rfl := Raised.refused.inj (Except.error.inj hother)
  exact h

theorem lift {x : Except Fault α} : RefusesIn causes (Fault.lift x) := by
  intro e h
  obtain ⟨f, -, hf⟩ := mapError_eq_error.mp h
  exact nomatch hf

theorem bind {x : Except (Raised ε) α} {f : α → Except (Raised ε) β} (hx : RefusesIn causes x)
    (hf : ∀ a, x = .ok a → RefusesIn causes (f a)) : RefusesIn causes (x >>= f) := by
  intro e h
  rcases bind_eq_error.mp h with h | ⟨a, ha, h⟩
  · exact hx e h
  · exact hf a ha e h

end RefusesIn

theorem toOption_eq_some {x : Except ε α} {a : α} : x.toOption = some a ↔ x = .ok a := by
  cases x <;> simp [Except.toOption]

theorem Fault.lift_eq_ok {x : Except Fault α} {a : α} :
    (Fault.lift x : Except (Raised ε) α) = .ok a ↔ x = .ok a := mapError_eq_ok

theorem Fault.lift_eq_error {x : Except Fault α} {e : Raised ε} :
    Fault.lift x = .error e ↔ ∃ f, x = .error f ∧ e = .fault f := by
  rw [Fault.lift, mapError_eq_error]
  simp only [eq_comm]

theorem Fault.meetsFault_lift {x : Except Fault α} :
    MeetsFault (Fault.lift x : Except (Raised ε) α) ↔ IsError x := by
  constructor
  · rintro ⟨f, h⟩
    obtain ⟨g, hx, -⟩ := lift_eq_error.mp h
    exact ⟨g, hx⟩
  · rintro ⟨f, rfl⟩
    exact ⟨f, rfl⟩

end IdentityProof
