import IdentityProof.Proof
import IdentityProof.Proofs.Fault

/-! Documents of proofs. Whatever values a document has for coordinates and signals, the proof that
is read from it is read again from its own written form, and it makes no difference under which of
their two keys the signals stand. -/

namespace IdentityProof

theorem mapM_map_of_inverse (write : α → β) (read : β → Except ε α)
    (h : ∀ a, read (write a) = .ok a) (as : List α) : (as.map write).mapM read = .ok as := by
  induction as with
  | nil => rfl
  | cons a as ih => rw [List.map_cons, List.mapM_cons, h, ih, ok_bind, ok_bind, pure_eq_ok]

namespace Json

def rename (old new : String) (members : List (String × Json)) : List (String × Json) :=
  members.map fun m => (if m.1 = old then new else m.1, m.2)

section Rename

variable {members : List (String × Json)} {old new key : String}

theorem lookup_cons (m : String × Json) :
    lookup (m :: members) key = if m.1 = key then some m.2 else lookup members key := by
  unfold lookup
  rw [List.find?_cons]
  by_cases h : m.1 = key
  · rw [if_pos h, beq_iff_eq.mpr h]
    rfl
  · rw [if_neg h, beq_eq_false_iff_ne.mpr h]

theorem lookup_rename_of_ne (hold : key ≠ old) (hnew : key ≠ new) :
    lookup (rename old new members) key = lookup members key := by
  induction members with
  | nil => rfl
  | cons m members ih =>
    unfold rename at ih ⊢
    rw [List.map_cons, lookup_cons, lookup_cons, ih]
    by_cases hm : m.1 = old
    · rw [if_pos hm, if_neg hnew.symm, if_neg fun h => hold (h.symm.trans hm)]
    · rw [if_neg hm]

theorem lookup_rename_old (h : old ≠ new) : lookup (rename old new members) old = none := by
  induction members with
  | nil => rfl
  | cons m members ih =>
    unfold rename at ih ⊢
    rw [List.map_cons, lookup_cons, ih]
    by_cases hm : m.1 = old
    · rw [if_pos hm, if_neg h.symm]
    · rw [if_neg hm, if_neg hm]

theorem lookup_rename_new (h : lookup members new = none) :
    lookup (rename old new members) new = lookup members old := by
  induction members with
  | nil => rfl
  | cons m members ih =>
    rw [lookup_cons] at h
    by_cases hsame : m.1 = new
    · rw [if_pos hsame] at h
      exact nomatch h
    · rw [if_neg hsame] at h
      have hrest := ih h
      unfold rename at hrest ⊢
      rw [List.map_cons, lookup_cons, lookup_cons, hrest]
      by_cases hm : m.1 = old
      · rw [if_pos hm, if_pos rfl, if_pos hm]
      · rw [if_neg hm, if_neg hsame, if_neg hm]

end Rename

theorem entries_of_not_given {value : Json} (h : value.isGiven = false) {items : List Json}
    (hentries : value.entries = .ok items) : items = [] := by
  cases value with
  | null | bool | number => exact nomatch hentries
  | text s =>
    have hs : s = "" := by simpa [isGiven] using h
    rw [hs] at hentries
    exact (Except.ok.inj hentries).symm
  | array list =>
    have hlist : list = [] := by simpa [isGiven] using h
    rw [hlist] at hentries
    exact (Except.ok.inj hentries).symm
  | object members =>
    have hmembers : members = [] := by simpa [isGiven] using h
    rw [hmembers] at hentries
    exact (Except.ok.inj hentries).symm

end Json

open Json (lookup rename lookup_rename_of_ne lookup_rename_old lookup_rename_new)

theorem mapM_shown_texts (texts : List String) :
    (texts.map Json.text).mapM Json.shown = .ok texts :=
  mapM_map_of_inverse Json.text Json.shown (fun _ => rfl) texts

namespace ProofPoints

theorem textsOf_array {members : List (String × Json)} {key : String} {items : List Json}
    (h : lookup members key = some (.array items)) : textsOf members key = .ok items := by
  unfold textsOf
  rw [h]
  cases items with
  | nil => rfl
  | cons item items => rfl

theorem ofJson_toJson (p : ProofPoints) : ofJson p.toJson = .ok p := by
  have hrows : (p.b.map fun row => Json.array (row.map .text)).mapM
      (fun row => do (← row.entries).mapM Json.shown) = .ok p.b :=
    mapM_map_of_inverse (fun row => Json.array (row.map .text)) _ mapM_shown_texts p.b
  unfold ofJson toJson
  rw [Json.membersOf, ok_bind, textsOf_array rfl, ok_bind, mapM_shown_texts, ok_bind,
    textsOf_array rfl, ok_bind, hrows, ok_bind, textsOf_array rfl, ok_bind, mapM_shown_texts,
    ok_bind]
  rfl

end ProofPoints

namespace Proof

def pointsOf (members : List (String × Json)) : Except Fault (Option ProofPoints) :=
  match lookup members "proof" with
  | some value => if value.isGiven then some <$> ProofPoints.ofJson value else .ok none
  | none => .ok none

theorem ofJson_object (members : List (String × Json)) :
    ofJson (.object members) = do
      let points ← pointsOf members
      let signals ← (← signalsOf members).mapM Json.shown
      return { points, signals } := by
  unfold ofJson pointsOf
  rw [Json.membersOf, ok_bind]
  cases lookup members "proof" with
  | none => rfl
  | some value =>
    by_cases h : value.isGiven = true
    · simp only [if_pos h]
    · simp only [if_neg h]
      rfl

theorem pointsOf_toJson (p : Proof) {members : List (String × Json)}
    (h : lookup members "proof" = some ((p.points.map ProofPoints.toJson).getD .null)) :
    pointsOf members = .ok p.points := by
  unfold pointsOf
  rw [h]
  cases p.points with
  | none => rfl
  | some points => exact congrArg (some <$> ·) (ProofPoints.ofJson_toJson points)

theorem signalsOf_array {members : List (String × Json)} {items : List Json}
    (h : lookup members "pub_signals" = some (.array items)) : signalsOf members = .ok items := by
  unfold signalsOf
  rw [h]
  rfl

theorem ofJson_toJson (p : Proof) : ofJson p.toJson = .ok p := by
  rw [toJson, ofJson_object, pointsOf_toJson p rfl, ok_bind, signalsOf_array rfl, ok_bind,
    mapM_shown_texts, ok_bind]
  rfl

theorem signalsOf_rename {members : List (String × Json)} {items : List Json}
    (hnone : lookup members "publicSignals" = none) (h : signalsOf members = .ok items) :
    signalsOf (rename "pub_signals" "publicSignals" members) = .ok items := by
  unfold signalsOf at h ⊢
  rw [lookup_rename_old (by decide)]
  unfold ProofPoints.textsOf at h ⊢
  rw [hnone] at h
  rw [lookup_rename_new hnone]
  cases hlookup : lookup members "pub_signals" with
  | none =>
    rw [hlookup] at h
    exact h
  | some value =>
    rw [hlookup] at h
    by_cases hgiven : value.isGiven = true
    · refine (if_pos hgiven).trans ?_
      cases value with
      | null => exact nomatch hgiven
      | bool | number | text | array | object => exact h
    · refine (if_neg hgiven).trans ?_
      cases value with
      | null => exact h
      | bool | number | text | array | object =>
        rw [Json.entries_of_not_given (Bool.eq_false_iff.mpr hgiven) h]

theorem pointsOf_rename {members : List (String × Json)} :
    pointsOf (rename "pub_signals" "publicSignals" members) = pointsOf members := by
  unfold pointsOf
  rw [lookup_rename_of_ne (by decide) (by decide)]

/-- Loading settles what a proof is. What a document gives is read again from its own written form,
and signals under the one key are the same proof as signals under the other. Every proof is what is
read from its written form, so that reading it loses nothing. -/
theorem loading_settles {data : Json} {p : Proof} (h : ofJson data = .ok p) :
    ofJson p.toJson = .ok p ∧
      (∀ q : Proof, ofJson q.toJson = .ok q) ∧
      ∃ members, data = .object members ∧ (lookup members "publicSignals" = none →
        ofJson (.object (rename "pub_signals" "publicSignals" members)) = .ok p) := by
  obtain ⟨members, hmembers, -⟩ := bind_eq_ok.mp h
  obtain rfl : data = .object members := by
    cases data with
    | object other => rw [Except.ok.inj hmembers]
    | null | bool | number | text | array => exact nomatch hmembers
  refine ⟨ofJson_toJson p, ofJson_toJson, members, rfl, fun hnone => ?_⟩
  rw [ofJson_object] at h ⊢
  obtain ⟨points, hpoints, h⟩ := bind_eq_ok.mp h
  obtain ⟨items, hitems, h⟩ := bind_eq_ok.mp h
  rw [pointsOf_rename, hpoints, ok_bind, signalsOf_rename hnone hitems, ok_bind]
  exact h

def looseMembers : List (String × Json) := [
  ("proof", .object [
    ("pi_a", .array [.int 1, .bool true, .null]),
    ("pi_b", .array [.text "12", .array [.array [.int 7]]]),
    ("pi_c", .null)]),
  ("pub_signals", .array [
    .object [("k", .null)], .number (.float (.finite false 0x10000000000000 1021)), .text "5"])]

theorem loose_document_settled : ∃ p, ofJson (.object looseMembers) = .ok p ∧
    p.signals = ["\x7b'k': None\x7d", "0.5", "5"] ∧
    (p.points.map fun points => (points.a, points.b, points.c)) =
      some (["1", "True", "None"], [["1", "2"], ["[7]"]], []) ∧
    ofJson p.toJson = .ok p ∧
    ofJson (.object (rename "pub_signals" "publicSignals" looseMembers)) = .ok p := by
  have hread : ((ofJson (.object looseMembers)).toOption.map fun p =>
      (p.signals, p.points.map fun points => (points.a, points.b, points.c))) =
        some (["\x7b'k': None\x7d", "0.5", "5"],
          some (["1", "True", "None"], [["1", "2"], ["[7]"]], [])) := by
    decide +kernel
  obtain ⟨p, hp, htexts⟩ := Option.map_eq_some_iff.mp hread
  have hok := toOption_eq_some.mp hp
  obtain ⟨hagain, -, members, hmembers, hrenamed⟩ := loading_settles hok
  obtain rfl := Json.object.inj hmembers
  exact ⟨p, hok, congrArg Prod.fst htexts, congrArg Prod.snd htexts, hagain, hrenamed (by decide)⟩

end Proof
end IdentityProof
