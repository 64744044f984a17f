import Mathlib.Data.List.TakeWhile
import IdentityProof.Json.Source
import IdentityProof.Proofs.Fault

/-! How deep a text is nested, counted by its brackets alone. Reading stops for the depth of a text
only where more brackets are open than can be followed. -/

namespace IdentityProof.Json

inductive Place where
  | outside
  | quoted
  | escaped

/-- The most brackets that are open at one time, `depth` of them being open already. -/
def nestingFrom : Place → Nat → List Char → Nat
  | _, depth, [] => depth
  | .outside, depth, c :: cs =>
    if c = '"' then nestingFrom .quoted depth cs
    else if c = '[' ∨ c = '\x7b' then nestingFrom .outside (depth + 1) cs
    else if c = ']' ∨ c = '\x7d' then max depth (nestingFrom .outside (depth - 1) cs)
    else nestingFrom .outside depth cs
  | .quoted, depth, c :: cs =>
    if c = '"' then nestingFrom .outside depth cs
    else if c = '\\' then nestingFrom .escaped depth cs
    else nestingFrom .quoted depth cs
  | .escaped, depth, _ :: cs => nestingFrom .quoted depth cs

def nesting (text : List Char) : Nat := nestingFrom .outside 0 text

theorem le_nestingFrom (place : Place) (depth : Nat) (cs : List Char) :
    depth ≤ nestingFrom place depth cs := by
  induction cs generalizing place depth with
  | nil => cases place <;> exact Nat.le_refl depth
  | cons c cs ih =>
    cases place with
    | outside =>
      unfold nestingFrom
      split
      · exact ih .quoted depth
      · split
        · exact Nat.le_of_succ_le (ih .outside (depth + 1))
        · split
          · exact Nat.le_max_left _ _
          · exact ih .outside depth
    | quoted =>
      unfold nestingFrom
      split
      · exact ih .outside depth
      · split
        · exact ih .escaped depth
        · exact ih .quoted depth
    | escaped => exact ih .quoted depth

/-! ## Characters that are passed over -/

def marks : List Char := ['"', '\\', '[', ']', '\x7b', '\x7d']

def IsPlain (c : Char) : Prop := c ∉ marks

instance (c : Char) : Decidable (IsPlain c) := inferInstanceAs (Decidable (_ ∉ _))

theorem isPlain_of {p : Char → Bool} (hmarks : marks.any p = false) {c : Char} (h : p c = true) :
    IsPlain c := by
  intro hmem
  exact List.any_eq_false.mp hmarks c hmem h

def Skips (cs rest : List Char) : Prop := ∃ skipped, cs = skipped ++ rest ∧ ∀ c ∈ skipped, IsPlain c

variable {depth bound after : Nat} {cs rest : List Char}

theorem nestingFrom_plain {c : Char} (h : IsPlain c) :
    nestingFrom .outside depth (c :: cs) = nestingFrom .outside depth cs := by
  simp only [IsPlain, marks, List.mem_cons, List.not_mem_nil, or_false, not_or] at h
  obtain ⟨hquote, -, hopen, hclose, hopen', hclose'⟩ := h
  simp [nestingFrom, hquote, hopen, hclose, hopen', hclose']

theorem nestingFrom_quoted_plain {c : Char} (hquote : c ≠ '"') (hslash : c ≠ '\\') :
    nestingFrom .quoted depth (c :: cs) = nestingFrom .quoted depth cs := by
  simp [nestingFrom, hquote, hslash]

theorem nestingFrom_quoted_of_isPlain {c : Char} (h : IsPlain c) :
    nestingFrom .quoted depth (c :: cs) = nestingFrom .quoted depth cs := by
  simp only [IsPlain, marks, List.mem_cons, List.not_mem_nil, or_false, not_or] at h
  exact nestingFrom_quoted_plain h.1 h.2.1

theorem isPlain_digit {c : Char} (h : Binary64.isDigit c = true) : IsPlain c :=
  isPlain_of (by decide) h

theorem isPlain_hexDigit {c : Char} {d : Nat} (h : Text.hexDigit? c = some d) : IsPlain c := by
  have hsome : (Text.hexDigit? c).isSome = true := by rw [h]; rfl
  exact isPlain_of (p := fun c => (Text.hexDigit? c).isSome) (by decide) hsome

namespace Skips

theorem refl (cs : List Char) : Skips cs cs := ⟨[], rfl, nofun⟩

theorem cons {c : Char} (hc : IsPlain c) (h : Skips cs rest) : Skips (c :: cs) rest := by
  obtain ⟨skipped, rfl, hplain⟩ := h
  exact ⟨c :: skipped, rfl, List.forall_mem_cons.mpr ⟨hc, hplain⟩⟩

theorem trans {mid : List Char} (h : Skips cs mid) (h' : Skips mid rest) : Skips cs rest := by
  obtain ⟨skipped, rfl, hplain⟩ := h
  obtain ⟨more, rfl, hmore⟩ := h'
  exact ⟨skipped ++ more, (List.append_assoc ..).symm, List.forall_mem_append.mpr ⟨hplain, hmore⟩⟩

theorem dropWhile {p : Char → Bool} (hmarks : marks.any p = false) (cs : List Char) :
    Skips cs (cs.dropWhile p) :=
  ⟨cs.takeWhile p, List.takeWhile_append_dropWhile.symm,
    fun _ hc => isPlain_of hmarks (List.mem_takeWhile_imp hc)⟩

theorem nestingFrom_eq (h : Skips cs rest) :
    nestingFrom .outside depth cs = nestingFrom .outside depth rest := by
  obtain ⟨skipped, rfl, hplain⟩ := h
  induction skipped with
  | nil => rfl
  | cons c skipped ih =>
    obtain ⟨hc, hrest⟩ := List.forall_mem_cons.mp hplain
    rw [List.cons_append, nestingFrom_plain hc, ih hrest]

theorem blanks (cs : List Char) : Skips cs (skipBlanks cs) := dropWhile (by decide) cs

theorem digits (cs : List Char) : Skips cs (cs.dropWhile Binary64.isDigit) :=
  dropWhile (by decide) cs

theorem sign (cs : List Char) : Skips cs (Integer.splitSign cs).2 := by
  unfold Integer.splitSign
  split
  · exact (refl _).cons (by decide)
  · exact (refl _).cons (by decide)
  · exact refl _

theorem fraction (cs : List Char) : Skips cs (takeFraction cs).2 := by
  unfold takeFraction
  split
  · rename_i d rest
    split
    · rename_i hd
      exact ((digits rest).cons (isPlain_digit hd)).cons (by decide)
    · exact refl _
  · exact refl _

theorem exponent (cs : List Char) : Skips cs (takeExponent cs).2 := by
  cases cs with
  | nil => exact refl _
  | cons e rest =>
    unfold takeExponent
    simp only
    split
    · rename_i he
      have hletter : IsPlain e := by
        simp only [Bool.and_eq_true, Bool.or_eq_true, beq_iff_eq] at he
        rcases he.1 with rfl | rfl <;> decide
      exact ((sign rest).trans (digits _)).cons hletter
    · exact refl _

theorem word {found : Json × List Char} (h : word? cs = some found) : Skips cs found.2 := by
  unfold word? at h
  obtain ⟨w, hw, rfl⟩ := Option.map_eq_some_iff.mp h
  have hmem := List.mem_of_find?_eq_some hw
  have hprefix := List.find?_some hw
  obtain ⟨rest, rfl⟩ := List.isPrefixOf_iff_prefix.mp hprefix
  have hplain : (words.all fun w => w.1.all fun c => decide (IsPlain c)) = true := by decide
  simp only [List.all_eq_true, decide_eq_true_eq] at hplain
  refine ⟨w.1, ?_, hplain w hmem⟩
  rw [List.drop_left]

theorem drop_digits (cs : List Char) : Skips cs (cs.drop (cs.takeWhile Binary64.isDigit).length) := by
  have hdrop : (cs.takeWhile Binary64.isDigit ++ cs.dropWhile Binary64.isDigit).drop
      (cs.takeWhile Binary64.isDigit).length = cs.dropWhile Binary64.isDigit := List.drop_left
  rw [List.takeWhile_append_dropWhile] at hdrop
  rw [hdrop]
  exact digits cs

theorem left_eq_rest {c d : Prop} [Decidable c] [Decidable d] {e : Stop} {m n value : Json}
    {left : List Char} (h : (if c then (if d then .error e else .ok (m, left)) else .ok (n, left)) =
      (.ok (value, rest) : Except Stop (Parsed Json))) : left = rest := by
  split at h
  · split at h
    · exact nomatch h
    · exact (Prod.mk.inj (Except.ok.inj h)).2
  · exact (Prod.mk.inj (Except.ok.inj h)).2

theorem number {value : Json} (h : takeNumber cs = .ok (value, rest)) : Skips cs rest := by
  unfold takeNumber at h
  split at h
  rename_i negative body hsign
  have hbody : Skips cs body := by
    split at hsign
    · obtain ⟨-, rfl⟩ := Prod.mk.inj hsign
      exact (refl _).cons (by decide)
    · obtain ⟨-, rfl⟩ := Prod.mk.inj hsign
      exact refl _
  have htail : ∀ k, Skips body (body.drop k) →
      Skips cs (takeExponent (takeFraction (body.drop k)).2).2 := fun k hk =>
    ((hbody.trans hk).trans (fraction _)).trans (exponent _)
  simp only at h
  split at h
  · rw [if_neg (by decide)] at h
    rw [← left_eq_rest h]
    exact htail 1 ((refl _).cons (by decide))
  · split at h
    · exact nomatch h
    · rw [← left_eq_rest h]
      exact htail _ (drop_digits body)

end Skips

/-! ## Texts in quotes -/

section Quoted

variable {u start : List Char}

theorem hexUnit_nesting {n : Nat} (h : hexUnit u = .ok (n, rest)) :
    nestingFrom .quoted depth (u.drop 1) = nestingFrom .quoted depth rest := by
  unfold hexUnit at h
  split at h
  · rename_i a b c d tail hu
    split at h
    · exact nomatch h
    · split at h
      · rename_i ds hds
        obtain ⟨-, rfl⟩ := Prod.mk.inj (Except.ok.inj h)
        simp only [List.mapM_cons, List.mapM_nil, Option.bind_eq_bind, Option.bind_eq_some_iff] at hds
        obtain ⟨_, ha, _, ⟨_, hb, _, ⟨_, hc, _, ⟨_, hd, -⟩, -⟩, -⟩, -⟩ := hds
        rw [hu, nestingFrom_quoted_of_isPlain (isPlain_hexDigit ha),
          nestingFrom_quoted_of_isPlain (isPlain_hexDigit hb),
          nestingFrom_quoted_of_isPlain (isPlain_hexDigit hc),
          nestingFrom_quoted_of_isPlain (isPlain_hexDigit hd)]
      · exact nomatch h
  · exact nomatch h

theorem nestingFrom_escape {c : Char} :
    nestingFrom .quoted depth ('\\' :: c :: cs) = nestingFrom .quoted depth cs := rfl

theorem unicodeEscape_nesting {c : Char} (h : unicodeEscape u = .ok (c, rest)) :
    nestingFrom .quoted depth (u.drop 1) = nestingFrom .quoted depth rest := by
  obtain ⟨⟨n, left⟩, hunit, h⟩ := bind_eq_ok.mp h
  rw [hexUnit_nesting hunit]
  simp only at h
  split at h
  · rename_i more
    split at h
    · obtain ⟨⟨m, left'⟩, hunit', h⟩ := bind_eq_ok.mp h
      simp only at h
      split at h
      · obtain ⟨-, rfl⟩ := Prod.mk.inj (pure_eq_ok.mp h)
        exact nestingFrom_escape.trans (hexUnit_nesting hunit')
      · obtain ⟨-, rfl⟩ := Prod.mk.inj (pure_eq_ok.mp h)
        rfl
    · obtain ⟨-, rfl⟩ := Prod.mk.inj (pure_eq_ok.mp h)
      rfl
  · obtain ⟨-, rfl⟩ := Prod.mk.inj (pure_eq_ok.mp h)
    rfl

def Place.behind (piece : Option Char) : Place := if piece.isSome then .quoted else .outside

theorem textPiece_nesting {piece : Option Char} (h : textPiece start cs = .ok (piece, rest)) :
    nestingFrom .quoted depth cs = nestingFrom (.behind piece) depth rest := by
  unfold textPiece at h
  split at h
  · exact nomatch h
  · obtain ⟨rfl, rfl⟩ := Prod.mk.inj (Except.ok.inj h)
    rfl
  · split at h
    · exact nomatch h
    · obtain ⟨⟨c, after⟩, hescape, hpair⟩ := map_eq_ok.mp h
      obtain ⟨rfl, rfl⟩ := Prod.mk.inj hpair
      exact nestingFrom_escape.trans (unicodeEscape_nesting hescape)
    · split at h
      · obtain ⟨rfl, rfl⟩ := Prod.mk.inj (Except.ok.inj h)
        exact nestingFrom_escape
      · exact nomatch h
  · rename_i c tail hquote hslash
    split at h
    · exact nomatch h
    · obtain ⟨rfl, rfl⟩ := Prod.mk.inj (Except.ok.inj h)
      exact nestingFrom_quoted_plain hquote hslash

theorem textFrom_nesting {fuel : Nat} {found text : List Char}
    (h : textFrom start fuel cs found = .ok (text, rest)) :
    nestingFrom .quoted depth cs = nestingFrom .outside depth rest := by
  induction fuel generalizing cs found with
  | zero => exact nomatch h
  | succ fuel ih =>
    obtain ⟨⟨piece, left⟩, hpiece, h⟩ := bind_eq_ok.mp h
    rw [textPiece_nesting hpiece]
    cases piece with
    | none =>
      obtain ⟨-, rfl⟩ := Prod.mk.inj (pure_eq_ok.mp h)
      rfl
    | some c => exact ih h

theorem takeText_nesting {fuel : Nat} {text : String} (h : takeText fuel cs = .ok (text, rest)) :
    nestingFrom .quoted depth cs = nestingFrom .outside depth rest := by
  obtain ⟨⟨found, left⟩, hfound, h⟩ := bind_eq_ok.mp h
  obtain ⟨-, rfl⟩ := Prod.mk.inj (pure_eq_ok.mp h)
  exact textFrom_nesting hfound

end Quoted

/-! ## Reading and the bound -/

section Reading

variable {α β : Type} {x : Except Stop α} {f : α → Except Stop β}

def NotForDepth (x : Except Stop α) : Prop := ∀ container, x ≠ .error (.tooDeep container)

namespace NotForDepth

theorem ok (a : α) : NotForDepth (.ok a : Except Stop α) := fun _ => nofun

theorem stopAt (what : Expected) (rest : List Char) :
    NotForDepth (Json.stopAt what rest : Except Stop α) := fun _ => nofun

theorem bind (hx : NotForDepth x) (hf : ∀ a, NotForDepth (f a)) : NotForDepth (x >>= f) := by
  intro container h
  rcases bind_eq_error.mp h with h | ⟨a, -, h⟩
  · exact hx container h
  · exact hf a container h

theorem ite {c : Prop} [Decidable c] {y : Except Stop α} (hx : NotForDepth x)
    (hy : NotForDepth y) : NotForDepth (if c then x else y) := by
  split
  · exact hx
  · exact hy

theorem hexUnit (u : List Char) : NotForDepth (Json.hexUnit u) := by
  unfold Json.hexUnit
  split
  · split
    · exact stopAt _ _
    · split
      · exact ok _
      · exact stopAt _ _
  · exact stopAt _ _

theorem unicodeEscape (u : List Char) : NotForDepth (Json.unicodeEscape u) := by
  refine (hexUnit u).bind fun ⟨n, left⟩ => ?_
  simp only
  split
  · split
    · refine (hexUnit _).bind fun ⟨m, left'⟩ => ?_
      simp only
      split
      · exact ok _
      · exact ok _
    · exact ok _
  · exact ok _

theorem textPiece (start cs : List Char) : NotForDepth (Json.textPiece start cs) := by
  unfold Json.textPiece
  split
  · exact fun _ => nofun
  · exact ok _
  · split
    · exact fun _ => nofun
    · intro container h
      exact unicodeEscape _ container (map_eq_error.mp h)
    · split
      · exact ok _
      · exact stopAt _ _
  · split
    · exact stopAt _ _
    · exact ok _

theorem textFrom (start : List Char) (fuel : Nat) (cs found : List Char) :
    NotForDepth (Json.textFrom start fuel cs found) := by
  induction fuel generalizing cs found with
  | zero => exact fun _ => nofun
  | succ fuel ih =>
    refine (textPiece start cs).bind fun ⟨piece, left⟩ => ?_
    cases piece with
    | none => exact ok _
    | some c => exact ih left (c :: found)

theorem takeText (fuel : Nat) (cs : List Char) : NotForDepth (Json.takeText fuel cs) :=
  (textFrom cs fuel cs []).bind fun _ => ok _

theorem takeNumber (cs : List Char) : NotForDepth (Json.takeNumber cs) := by
  have hlong (e : Integer.ReadError) : NotForDepth (.error (.integer e) : Except Stop (Parsed Json)) :=
    fun _ => nofun
  unfold Json.takeNumber
  split
  simp only
  split
  · exact (stopAt _ _).ite (((hlong _).ite (ok _)).ite (ok _))
  · exact (stopAt _ _).ite (((hlong _).ite (ok _)).ite (ok _))

end NotForDepth

/-- What is read leaves no more open brackets behind than the bound, and reading stops for the depth
of the text only if the bound is more than can be followed. -/
structure Within (bound after : Nat) (x : Except Stop (Parsed α)) : Prop where
  left : ∀ found rest, x = .ok (found, rest) → nestingFrom .outside after rest ≤ bound
  stop : ∀ container, x = .error (.tooDeep container) → depthLimit < bound

namespace Within

variable {x : Except Stop (Parsed α)} {f : Parsed α → Except Stop (Parsed β)}

theorem ok {found : α} (h : nestingFrom .outside after rest ≤ bound) :
    Within bound after (.ok (found, rest)) where
  left := by
    intro _ _ hok
    obtain ⟨-, rfl⟩ := Prod.mk.inj (Except.ok.inj hok)
    exact h
  stop := nofun

theorem of_notForDepth (hx : NotForDepth x)
    (h : ∀ found rest, x = .ok (found, rest) → nestingFrom .outside after rest ≤ bound) :
    Within bound after x := ⟨h, fun container hdeep => absurd hdeep (hx container)⟩

theorem stopAt (what : Expected) (rest : List Char) :
    Within bound after (Json.stopAt what rest : Except Stop (Parsed α)) :=
  of_notForDepth (.stopAt what rest) nofun

theorem bind {mid : Nat} (hx : Within bound mid x)
    (hf : ∀ found rest, nestingFrom .outside mid rest ≤ bound → Within bound after (f (found, rest))) :
    Within bound after (x >>= f) where
  left := by
    intro found rest hok
    obtain ⟨⟨a, between⟩, ha, hok⟩ := bind_eq_ok.mp hok
    exact (hf a between (hx.left a between ha)).left found rest hok
  stop := by
    intro container hdeep
    rcases bind_eq_error.mp hdeep with hdeep | ⟨⟨a, between⟩, ha, hdeep⟩
    · exact hx.stop container hdeep
    · exact (hf a between (hx.left a between ha)).stop container hdeep

theorem map {g : Parsed α → Parsed β} (hg : ∀ found rest, (g (found, rest)).2 = rest)
    (hx : Within bound after x) : Within bound after (x.map g) where
  left := by
    intro found rest hok
    obtain ⟨⟨a, between⟩, ha, hpair⟩ := map_eq_ok.mp hok
    have hrest : between = rest := (hg a between).symm.trans (congrArg Prod.snd hpair)
    rw [← hrest]
    exact hx.left a between ha
  stop := fun container hdeep => hx.stop container (map_eq_error.mp hdeep)

theorem takeText {fuel : Nat} (h : nestingFrom .quoted after cs ≤ bound) :
    Within bound after (Json.takeText fuel cs) :=
  of_notForDepth (.takeText fuel cs) fun _ _ hok => (takeText_nesting hok).symm.trans_le h

theorem takeNumber (h : nestingFrom .outside after cs ≤ bound) :
    Within bound after (Json.takeNumber cs) :=
  of_notForDepth (.takeNumber cs) fun _ _ hok =>
    (Skips.number hok).nestingFrom_eq.symm.trans_le h

end Within

end Reading

theorem nestingFrom_opened {c : Char} (h : c = '[' ∨ c = '\x7b') :
    nestingFrom .outside depth (c :: cs) = nestingFrom .outside (depth + 1) cs := by
  rcases h with rfl | rfl <;> rfl

theorem nestingFrom_closed {c : Char} (h : c = ']' ∨ c = '\x7d') :
    nestingFrom .outside depth cs ≤ nestingFrom .outside (depth + 1) (c :: cs) := by
  have hclose : nestingFrom .outside (depth + 1) (c :: cs) =
      max (depth + 1) (nestingFrom .outside depth cs) := by
    rcases h with rfl | rfl <;> rfl
  rw [hclose]
  exact Nat.le_max_right _ _

structure StaysWithin (bound fuel : Nat) : Prop where
  value : ∀ depth cs, nestingFrom .outside depth cs ≤ bound →
    Within bound depth (takeValue depth fuel cs)
  array : ∀ depth cs items, nestingFrom .outside (depth + 1) cs ≤ bound →
    Within bound depth (arrayFrom (depth + 1) fuel cs items)
  object : ∀ depth cs members, nestingFrom .outside (depth + 1) cs ≤ bound →
    Within bound depth (objectFrom (depth + 1) fuel cs members)

namespace StaysWithin

variable {fuel : Nat}

theorem tooDeep {c : Char} (hc : c = '[' ∨ c = '\x7b') (hdeep : depthLimit ≤ depth)
    (h : nestingFrom .outside depth (c :: cs) ≤ bound) : depthLimit < bound := by
  have hopen := le_nestingFrom .outside (depth + 1) cs
  rw [nestingFrom_opened hc] at h
  omega

theorem skipBlanks (h : nestingFrom .outside depth cs ≤ bound) :
    nestingFrom .outside depth (Json.skipBlanks cs) ≤ bound :=
  (Skips.blanks cs).nestingFrom_eq.symm.trans_le h

theorem closed {c : Char} (hc : c = ']' ∨ c = '\x7d')
    (h : nestingFrom .outside (depth + 1) (c :: cs) ≤ bound) :
    nestingFrom .outside depth cs ≤ bound := (nestingFrom_closed hc).trans h

theorem value_succ (h : StaysWithin bound fuel) (hcs : nestingFrom .outside depth cs ≤ bound) :
    Within bound depth (takeValue depth (fuel + 1) cs) := by
  unfold takeValue
  split
  · exact .stopAt _ _
  · exact (Within.takeText hcs).map fun _ _ => rfl
  · split
    · rename_i hdeep
      exact ⟨nofun, fun _ _ => tooDeep (.inl rfl) hdeep hcs⟩
    · rename_i rest _
      have hrest : nestingFrom .outside (depth + 1) rest ≤ bound := hcs
      have hitems := skipBlanks hrest
      split
      · rename_i hnone
        rw [hnone] at hitems
        exact .ok (closed (.inl rfl) hitems)
      · exact h.array depth _ [] hitems
  · split
    · rename_i hdeep
      exact ⟨nofun, fun _ _ => tooDeep (.inr rfl) hdeep hcs⟩
    · rename_i rest _
      have hrest : nestingFrom .outside (depth + 1) rest ≤ bound := hcs
      have hmembers := skipBlanks hrest
      split
      · rename_i hnone
        rw [hnone] at hmembers
        exact .ok (closed (.inr rfl) hmembers)
      · exact h.object depth _ [] hmembers
  · split
    · rename_i found hword
      exact .ok ((Skips.word hword).nestingFrom_eq.symm.trans_le hcs)
    · exact .takeNumber hcs

theorem behind {c : Char} (hc : IsPlain c) (h : nestingFrom .outside depth (c :: cs) ≤ bound) :
    nestingFrom .outside depth (Json.skipBlanks cs) ≤ bound := by
  rw [nestingFrom_plain hc] at h
  exact skipBlanks h

theorem array_succ (h : StaysWithin bound fuel) {items : List Json}
    (hcs : nestingFrom .outside (depth + 1) cs ≤ bound) :
    Within bound depth (arrayFrom (depth + 1) (fuel + 1) cs items) := by
  unfold arrayFrom
  refine (h.value (depth + 1) cs hcs).bind fun item rest hrest => ?_
  have hbehind := skipBlanks hrest
  simp only
  split
  · rename_i after heq
    rw [heq] at hbehind
    exact .ok (closed (.inl rfl) hbehind)
  · rename_i after heq
    rw [heq] at hbehind
    exact h.array depth _ _ (behind (by decide) hbehind)
  · exact .stopAt _ _

theorem object_succ (h : StaysWithin bound fuel) {members : List (String × Json)}
    (hcs : nestingFrom .outside (depth + 1) cs ≤ bound) :
    Within bound depth (objectFrom (depth + 1) (fuel + 1) cs members) := by
  unfold objectFrom
  split
  · rename_i quoted
    have hquoted : nestingFrom .quoted (depth + 1) quoted ≤ bound := hcs
    refine (Within.takeText hquoted).bind fun key rest hrest => ?_
    have hcolon := skipBlanks hrest
    simp only
    split
    · rename_i value heq
      rw [heq] at hcolon
      refine (h.value (depth + 1) _ (behind (by decide) hcolon)).bind fun member left hleft => ?_
      have hbehind := skipBlanks hleft
      simp only
      split
      · rename_i after heq
        rw [heq] at hbehind
        exact .ok (closed (.inr rfl) hbehind)
      · rename_i after heq
        rw [heq] at hbehind
        exact h.object depth _ _ (behind (by decide) hbehind)
      · exact .stopAt _ _
    · exact .stopAt _ _
  · exact .stopAt _ _

end StaysWithin

theorem staysWithin (bound fuel : Nat) : StaysWithin bound fuel := by
  induction fuel with
  | zero =>
    exact ⟨fun _ _ _ => .stopAt _ _, fun _ _ _ _ => .stopAt _ _, fun _ _ _ _ => .stopAt _ _⟩
  | succ fuel ih =>
    exact ⟨fun _ _ => ih.value_succ, fun _ _ _ => ih.array_succ, fun _ _ _ => ih.object_succ⟩

/-- A text that is too deep to be read has more brackets open at one time than can be followed. -/
theorem depthLimit_lt_nesting {text : List Char} {container : Kind}
    (h : read text = .error (.tooDeep container)) : depthLimit < nesting text := by
  have hstart := StaysWithin.skipBlanks (Nat.le_refl (nesting text))
  have hwithin := (staysWithin (nesting text) (2 * text.length + 2)).value 0 _ hstart
  unfold read at h
  simp only at h
  split at h
  · exact nomatch h
  · split at h
    · exact nomatch h
    · exact nomatch h
    · rename_i hstop
      exact hwithin.stop _ hstop
    · split at h
      · exact nomatch h
      · exact nomatch h

theorem depthLimit_lt_nesting_decoded {bytes : Bytes} {container : Kind}
    (h : readBytes bytes = .error (.tooDeep container)) :
    ∃ text, Text.decodeJsonBytes bytes = .ok text ∧ depthLimit < nesting text := by
  rcases bind_eq_error.mp h with h | ⟨text, htext, h⟩
  · obtain ⟨e, -, he⟩ := mapError_eq_error.mp h
    exact nomatch he
  · exact ⟨text, mapError_eq_ok.mp htext, depthLimit_lt_nesting h⟩

end IdentityProof.Json
