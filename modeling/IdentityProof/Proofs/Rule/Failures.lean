import IdentityProof.Rule.Outcome

/-! The fields of collected failures. Nothing is lost or overwritten as long as the fields are
distinct. -/

namespace IdentityProof.Failures

variable {ε : Type}

def fields (failures : Failures ε) : List String := failures.map Prod.fst

@[simp] theorem fields_nil : fields ([] : Failures ε) = [] := rfl

@[simp] theorem fields_append (first second : Failures ε) :
    fields (first ++ second) = fields first ++ fields second := List.map_append

theorem fields_eq_nil {failures : Failures ε} : failures.fields = [] ↔ failures = [] := by
  rw [fields, List.map_eq_nil_iff]

theorem mem_ofOutcomes {outcomes : List (String × Outcome ε)} {field : String} {e : ε} :
    (field, e) ∈ ofOutcomes outcomes ↔ (field, .failed e) ∈ outcomes := by
  unfold ofOutcomes
  rw [List.mem_filterMap]
  constructor
  · rintro ⟨⟨f, outcome⟩, hmem, h⟩
    cases outcome with
    | pass => simp at h
    | skipped => simp at h
    | failed e' =>
      obtain ⟨rfl, rfl⟩ : f = field ∧ e' = e := by simpa using h
      exact hmem
  · intro hmem
    exact ⟨_, hmem, rfl⟩

theorem mem_fields_ofOutcomes {outcomes : List (String × Outcome ε)} {field : String} :
    field ∈ (ofOutcomes outcomes).fields ↔ ∃ e, (field, .failed e) ∈ outcomes := by
  simp only [fields, List.mem_map, Prod.exists, exists_and_right, exists_eq_right, mem_ofOutcomes]

theorem ofOutcomes_eq_nil {outcomes : List (String × Outcome ε)} :
    ofOutcomes outcomes = [] ↔ ∀ entry ∈ outcomes, ∀ e, entry.2 ≠ .failed e := by
  constructor
  · rintro h ⟨field, outcome⟩ hmem e rfl
    have hin := mem_ofOutcomes.mpr hmem
    rw [h] at hin
    exact nomatch hin
  · intro h
    refine List.eq_nil_iff_forall_not_mem.mpr fun ⟨field, e⟩ hmem => ?_
    exact h _ (mem_ofOutcomes.mp hmem) e rfl

theorem fields_ofOutcomes_sublist (outcomes : List (String × Outcome ε)) :
    (ofOutcomes outcomes).fields.Sublist (outcomes.map Prod.fst) := by
  induction outcomes with
  | nil => exact .slnil
  | cons entry rest ih =>
    obtain ⟨field, outcome⟩ := entry
    cases outcome with
    | pass => exact ih.cons _
    | skipped => exact ih.cons _
    | failed e => exact ih.cons_cons _

theorem ofOutcomes_cons (entry : String × Outcome ε) (rest : List (String × Outcome ε)) :
    ofOutcomes (entry :: rest) = ofOutcomes [entry] ++ ofOutcomes rest := by
  obtain ⟨field, outcome⟩ := entry
  cases outcome <;> rfl

theorem insert_of_notMem {field : String} {e : ε} {failures : Failures ε}
    (h : field ∉ failures.fields) : insert field e failures = failures ++ [(field, e)] := by
  induction failures with
  | nil => rfl
  | cons entry rest ih =>
    obtain ⟨f, old⟩ := entry
    have hne : f ≠ field := fun he => h (he ▸ List.mem_cons_self)
    have hrest : field ∉ fields rest := fun hm => h (List.mem_cons_of_mem _ hm)
    simp only [insert, beq_iff_eq, hne, if_false, ih hrest, List.cons_append]

theorem union_eq_append {first second : Failures ε} (hd : second.fields.Nodup)
    (h : ∀ field ∈ second.fields, field ∉ first.fields) : union first second = first ++ second := by
  induction second generalizing first with
  | nil => simp [union]
  | cons entry rest ih =>
    obtain ⟨field, e⟩ := entry
    obtain ⟨hfresh, hrest⟩ := List.nodup_cons.mp hd
    have hinsert := insert_of_notMem (e := e) (h field List.mem_cons_self)
    have hdisjoint : ∀ f ∈ fields rest, f ∉ fields (first ++ [(field, e)]) := by
      intro f hf hm
      rcases List.mem_append.mp (fields_append _ _ ▸ hm) with hm | hm
      · exact h f (List.mem_cons_of_mem _ hf) hm
      · exact hfresh (List.mem_singleton.mp hm ▸ hf)
    have hstep : union first ((field, e) :: rest) = union (first ++ [(field, e)]) rest := by
      rw [← hinsert]
      rfl
    rw [hstep, ih hrest hdisjoint, List.append_assoc, List.singleton_append]

theorem foldl_union_eq_append {first : Failures ε} {rest : List (Failures ε)}
    (h : (fields (first ++ rest.flatten)).Nodup) :
    rest.foldl union first = first ++ rest.flatten := by
  induction rest generalizing first with
  | nil => simp
  | cons second rest ih =>
    rw [List.flatten_cons, ← List.append_assoc] at h ⊢
    have hboth : (fields first ++ fields second).Nodup := by
      rw [fields_append, fields_append] at h
      exact (List.nodup_append.mp h).1
    obtain ⟨-, hd, hne⟩ := List.nodup_append.mp hboth
    rw [List.foldl_cons, union_eq_append hd fun f hf hm => hne f hm f hf rfl]
    exact ih h

theorem ofEither_of_pass {a b : String} (hab : a ≠ b) {first second : Outcome ε}
    (h : first = .pass ∨ second = .pass) : ofEither (a, first) (b, second) = [] := by
  rcases h with rfl | rfl
  · cases second <;> simp [ofEither, insert, hab]
  · cases first <;> simp [ofEither, insert, hab]

theorem ofEither_of_ne_pass {a b : String} (hab : a ≠ b) {first second : Outcome ε}
    (h₁ : first ≠ .pass) (h₂ : second ≠ .pass) :
    ofEither (a, first) (b, second) = ofOutcomes [(a, first), (b, second)] := by
  cases first <;> cases second <;> simp_all [ofEither, ofOutcomes, insert, filtered]

theorem ofEither_eq_nil {a b : String} (hab : a ≠ b) {first second : Outcome ε} :
    ofEither (a, first) (b, second) = [] ↔
      first = .pass ∨ second = .pass ∨ (first = .skipped ∧ second = .skipped) := by
  by_cases h : first = .pass ∨ second = .pass
  · rw [ofEither_of_pass hab h]
    rcases h with rfl | rfl <;> simp
  · obtain ⟨h₁, h₂⟩ := not_or.mp h
    rw [ofEither_of_ne_pass hab h₁ h₂, ofOutcomes_eq_nil]
    cases first <;> cases second <;> simp_all

theorem mem_fields_ofEither {a b field : String} (hab : a ≠ b) {first second : Outcome ε} :
    field ∈ (ofEither (a, first) (b, second)).fields ↔
      first ≠ .pass ∧ second ≠ .pass ∧
        ((field = a ∧ ∃ e, first = .failed e) ∨ (field = b ∧ ∃ e, second = .failed e)) := by
  by_cases h : first = .pass ∨ second = .pass
  · rw [ofEither_of_pass hab h]
    rcases h with rfl | rfl <;> simp
  · obtain ⟨h₁, h₂⟩ := not_or.mp h
    rw [ofEither_of_ne_pass hab h₁ h₂, mem_fields_ofOutcomes]
    simp only [h₁, h₂, ne_eq, not_false_eq_true, true_and, List.mem_cons, Prod.mk.injEq,
      List.not_mem_nil, or_false, exists_or, exists_and_left, eq_comm]

theorem fields_ofEither_sublist {a b : String} (hab : a ≠ b) (first second : Outcome ε) :
    (ofEither (a, first) (b, second)).fields.Sublist [a, b] := by
  by_cases h : first = .pass ∨ second = .pass
  · rw [ofEither_of_pass hab h]
    exact List.nil_sublist _
  · obtain ⟨h₁, h₂⟩ := not_or.mp h
    rw [ofEither_of_ne_pass hab h₁ h₂]
    exact fields_ofOutcomes_sublist _

end IdentityProof.Failures
