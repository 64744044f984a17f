import IdentityProof.Proofs.Root.ConfigParts

/-! Configurations of any shape. The order in which the parts are read decides which one is refused,
and only a part that is reached can stop the reading. Settings that are read make a verifier whose
times are finite, unless the document has them infinite. -/

namespace IdentityProof

namespace RootConfig

open Json (lookup)

section Parts

variable (members : List (String × Json))

def kindIn (kind : Json) : Json := (lookup members "kind").getD kind

def flagIn : Json := (lookup members "disabled").getD (.bool false)

def urlIn? : Option Json := firstGiven? members ["rpc", "rpc_url"]

def blockIn : Json := (lookup members "from_block").getD (.int 0)

def contractIn : Json := (lookup members "contract").getD (.text "")

def timeoutIn? : Option Json := lookup members "request_timeout"

def lifetimeIn? : Option Json := lookup members "cache_expiration"

def viewIn : Json := (firstGiven? members ["root_method"]).getD (.text RemoteSettings.standardView)

end Parts

/-- A verifier that asks a ledger is described, of some kind and behind some endpoint. -/
structure Asks (members : List (String × Json)) (kind : Json) (remote : RemoteKind) (url : Json) :
    Prop where
  named : kindIn members kind = .text remote.name
  enabled : readFlag (flagIn members) = .ok false
  url : urlIn? members = some url

def IsSwitchedOff (members : List (String × Json)) (kind : Json) : Prop :=
  kindIn members kind = .text "disabled" ∨
    (∃ remote : RemoteKind, kindIn members kind = .text remote.name) ∧
      readFlag (flagIn members) = .ok true

/-- What keeps the settings behind an endpoint from being read or refused: a block that is
infinite, or a part that has no text and comes to be shown before another is refused. -/
inductive SettingsStop (members : List (String × Json)) (url : Json) : Prop
  | endless (h : IsEndlessBlock (blockIn members))
  | block (hno : IsNoBlock (blockIn members)) (h : (blockIn members).HoldsUnwritable)
  | url (hblock : ¬ IsNoBlock (blockIn members)) (h : url.HoldsUnwritable)
  | contract (hblock : ¬ IsNoBlock (blockIn members)) (h : (contractIn members).HoldsUnwritable)
  | timeout (hblock : ¬ IsNoBlock (blockIn members)) {value : Json}
      (hvalue : timeoutIn? members = some value) (h : value.HoldsUnwritable)
  | lifetime (hblock : ¬ IsNoBlock (blockIn members))
      (htimeout : ¬ IsNoSeconds (timeoutIn? members)) {value : Json}
      (hvalue : lifetimeIn? members = some value) (h : value.HoldsUnwritable)
  | view (hblock : ¬ IsNoBlock (blockIn members)) (htimeout : ¬ IsNoSeconds (timeoutIn? members))
      (hlifetime : ¬ IsNoSeconds (lifetimeIn? members)) (h : (viewIn members).HoldsUnwritable)

inductive Stops (members : List (String × Json)) (kind : Json) : Prop
  | kind (h : (kindIn members kind).HoldsUnwritable)
  | flag {remote : RemoteKind} (hkind : kindIn members kind = .text remote.name)
      (h : (flagIn members).HoldsUnwritable)
  | settings {remote : RemoteKind} {url : Json} (hasks : Asks members kind remote url)
      (h : SettingsStop members url)

section Settings

variable {members : List (String × Json)} {remote : RemoteKind} {url : Json}

theorem meetsFault_readSettings :
    MeetsFault (readSettings members remote url) ↔ SettingsStop members url := by
  refine (meetsFault_block_bind fun _ => meetsFault_shown_bind fun _ =>
    meetsFault_shown_bind fun _ => meetsFault_seconds_bind fun _ =>
      meetsFault_seconds_bind fun _ => meetsFault_shown_bind fun _ =>
        iff_of_false not_meetsFault_ok id).trans ?_
  constructor
  · rintro (h | ⟨hno, h⟩ | ⟨hblock, h | h | ⟨value, hvalue, h⟩ | ⟨htimeout, ⟨value, hvalue, h⟩ |
      ⟨hlifetime, h | h⟩⟩⟩)
    · exact .endless h
    · exact .block hno h
    · exact .url hblock h
    · exact .contract hblock h
    · exact .timeout hblock hvalue h
    · exact .lifetime hblock htimeout hvalue h
    · exact .view hblock htimeout hlifetime h
    · exact h.elim
  · intro h
    cases h with
    | endless h => exact .inl h
    | block hno h => exact .inr (.inl ⟨hno, h⟩)
    | url hblock h => exact .inr (.inr ⟨hblock, .inl h⟩)
    | contract hblock h => exact .inr (.inr ⟨hblock, .inr (.inl h)⟩)
    | timeout hblock hvalue h => exact .inr (.inr ⟨hblock, .inr (.inr (.inl ⟨_, hvalue, h⟩))⟩)
    | lifetime hblock htimeout hvalue h =>
      exact .inr (.inr ⟨hblock, .inr (.inr (.inr ⟨htimeout, .inl ⟨_, hvalue, h⟩⟩))⟩)
    | view hblock htimeout hlifetime h =>
      exact .inr (.inr ⟨hblock, .inr (.inr (.inr ⟨htimeout, .inr ⟨hlifetime, .inl h⟩⟩))⟩)

end Settings

section Outcomes

variable {members : List (String × Json)} {kind : Json} {remote : RemoteKind} {url : Json}

theorem ofJson_object (members : List (String × Json)) (kind : Json) :
    ofJson (.object members) kind = do
      match ← readKind (kindIn members kind) with
      | none => return disabled
      | some kind =>
        if ← Fault.lift (readFlag (flagIn members)) then return disabled
        match urlIn? members with
        | none => throw (.refused .urlRequired)
        | some url => return .remote (← readSettings members kind url) := rfl

theorem ofJson_of_disabled (h : kindIn members kind = .text "disabled") :
    ofJson (.object members) kind = .ok disabled := by
  rw [ofJson_object, h]
  rfl

theorem ofJson_of_remote (h : kindIn members kind = .text remote.name) {off : Bool}
    (hflag : readFlag (flagIn members) = .ok off) :
    ofJson (.object members) kind =
      if off then .ok disabled
      else
        match urlIn? members with
        | none => .error (.refused .urlRequired)
        | some url => readSettings members remote url >>= fun s => .ok (.remote s) := by
  rw [ofJson_object, h, readKind_name, ok_bind]
  dsimp only
  rw [Fault.lift_eq_ok.mpr hflag, ok_bind]
  cases off with
  | true => rfl
  | false =>
    cases urlIn? members with
    | none => rfl
    | some url => rfl

theorem ofJson_of_switchedOff (h : IsSwitchedOff members kind) :
    ofJson (.object members) kind = .ok disabled := by
  rcases h with h | ⟨⟨remote, h⟩, hflag⟩
  · exact ofJson_of_disabled h
  · rw [ofJson_of_remote h hflag, if_pos rfl]

theorem ofJson_of_asks (h : Asks members kind remote url) :
    ofJson (.object members) kind =
      readSettings members remote url >>= fun s => .ok (.remote s) := by
  rw [ofJson_of_remote h.named h.enabled, if_neg Bool.false_ne_true, h.url]

theorem ofJson_of_no_kind (h : NamesNoKind (kindIn members kind)) :
    ofJson (.object members) kind = refuseShowing (kindIn members kind) .unknownKind := by
  rw [ofJson_object, readKind_of_no_kind h]
  exact refuseShowing_bind

theorem ofJson_of_unwritable_flag (h : kindIn members kind = .text remote.name)
    (hflag : (flagIn members).HoldsUnwritable) : MeetsFault (ofJson (.object members) kind) := by
  rw [ofJson_object, h, readKind_name, ok_bind]
  exact meetsFault_bind.mpr (.inl (Fault.meetsFault_lift.mpr ((isError_readFlag _).mpr hflag)))

theorem outcome_cases (members : List (String × Json)) (kind : Json) :
    NamesNoKind (kindIn members kind) ∨ IsSwitchedOff members kind ∨
      (∃ remote : RemoteKind, kindIn members kind = .text remote.name ∧
        (flagIn members).HoldsUnwritable) ∨
      (∃ remote : RemoteKind, kindIn members kind = .text remote.name ∧
        readFlag (flagIn members) = .ok false ∧ urlIn? members = none) ∨
      ∃ remote url, Asks members kind remote url := by
  rcases kind_cases (kindIn members kind) with h | ⟨remote, h⟩ | h
  · exact .inr (.inl (.inl h))
  · by_cases hflag : IsError (readFlag (flagIn members))
    · exact .inr (.inr (.inl ⟨remote, h, (isError_readFlag _).mp hflag⟩))
    · obtain ⟨off, hoff⟩ := not_isError_iff.mp hflag
      cases off with
      | true => exact .inr (.inl (.inr ⟨⟨remote, h⟩, hoff⟩))
      | false =>
        cases hurl : urlIn? members with
        | none => exact .inr (.inr (.inr (.inl ⟨remote, h, hoff, rfl⟩)))
        | some url => exact .inr (.inr (.inr (.inr ⟨remote, url, h, hoff, hurl⟩)))
  · exact .inl h

theorem meetsFault_ofJson :
    MeetsFault (ofJson (.object members) kind) ↔ Stops members kind := by
  constructor
  · intro h
    rcases outcome_cases members kind with hno | hoff | ⟨remote, hkind, hflag⟩ |
      ⟨remote, hkind, hflag, hurl⟩ | ⟨remote, url, hasks⟩
    · rw [ofJson_of_no_kind hno, meetsFault_refuseShowing] at h
      exact .kind h
    · rw [ofJson_of_switchedOff hoff] at h
      exact absurd h not_meetsFault_ok
    · exact .flag hkind hflag
    · rw [ofJson_of_remote hkind hflag, if_neg Bool.false_ne_true, hurl] at h
      exact absurd h not_meetsFault_refused
    · rw [ofJson_of_asks hasks, meetsFault_bind_iff fun _ => iff_of_false not_meetsFault_ok id,
        and_false, or_false, meetsFault_readSettings] at h
      exact .settings hasks h
  · intro h
    cases h with
    | kind h =>
      rw [ofJson_object]
      exact meetsFault_bind.mpr (.inl (meetsFault_readKind.mpr h))
    | flag hkind h => exact ofJson_of_unwritable_flag hkind h
    | settings hasks h =>
      rw [ofJson_of_asks hasks]
      exact meetsFault_bind.mpr (.inl (meetsFault_readSettings.mpr h))

end Outcomes

/-! ## Refusals -/

def IsDue (members : List (String × Json)) (kind : Json) : ConfigError → Prop
  | .unknownKind shown =>
    NamesNoKind (kindIn members kind) ∧ (kindIn members kind).quoted = .ok shown
  | .urlRequired => urlIn? members = none
  | .badBlock shown => IsNoBlock (blockIn members) ∧ (blockIn members).quoted = .ok shown
  | .badDuration field shown =>
    (field = "request_timeout" ∨ field = "cache_expiration") ∧ IsNoSeconds (lookup members field) ∧
      ∃ value, lookup members field = some value ∧ value.quoted = .ok shown
  | .registry _ => False

section Refusals

variable {members : List (String × Json)} {kind : Json} {remote : RemoteKind} {url : Json}

theorem refusesIn_seconds {field : String} {standard : Binary64}
    (hfield : field = "request_timeout" ∨ field = "cache_expiration") :
    RefusesIn (IsDue members kind) (readSeconds field standard (lookup members field)) := by
  intro e he
  obtain ⟨value, hvalue, hno, shown, hshown, rfl⟩ := refusesIn_readSeconds e he
  exact ⟨hfield, hno, value, hvalue, hshown⟩

theorem refusesIn_readSettings :
    RefusesIn (IsDue members kind) (readSettings members remote url) := by
  have hblock : RefusesIn (IsDue members kind) (readBlock (blockIn members)) := by
    intro e he
    obtain ⟨hno, shown, hshown, rfl⟩ := refusesIn_readBlock e he
    exact ⟨hno, hshown⟩
  unfold readSettings
  exact hblock.bind fun _ _ => RefusesIn.lift.bind fun _ _ => RefusesIn.lift.bind fun _ _ =>
    (refusesIn_seconds (.inl rfl)).bind fun _ _ => (refusesIn_seconds (.inr rfl)).bind fun _ _ =>
      RefusesIn.lift.bind fun _ _ => .ok

theorem refusesIn_ofJson : RefusesIn (IsDue members kind) (ofJson (.object members) kind) := by
  rcases outcome_cases members kind with hno | hoff | ⟨remote, hkind, hflag⟩ |
    ⟨remote, hkind, hflag, hurl⟩ | ⟨remote, url, hasks⟩
  · rw [ofJson_of_no_kind hno]
    intro e he
    obtain ⟨shown, hshown, rfl⟩ := refusesIn_refuseShowing e he
    exact ⟨hno, hshown⟩
  · rw [ofJson_of_switchedOff hoff]
    exact .ok
  · obtain ⟨f, hf⟩ := ofJson_of_unwritable_flag hkind hflag
    rw [hf]
    exact nofun
  · rw [ofJson_of_remote hkind hflag, if_neg Bool.false_ne_true, hurl]
    exact .refused hurl
  · rw [ofJson_of_asks hasks]
    exact refusesIn_readSettings.bind fun _ _ => .ok

end Refusals

/-! ## Settings -/

/-- Settings that a verifier can be built from. Its endpoint is the one in the document, and its
times are positive, and finite unless the document has them infinite. -/
structure Checked (members : List (String × Json)) (kind : Json) (s : RemoteSettings) : Prop where
  asks : ∃ url, Asks members kind s.kind url ∧ url.shown = .ok s.url
  url : s.url ≠ ""
  timeout_pos : 0 < Number.float s.timeout
  lifetime_pos : 0 < Number.float s.lifetime
  timeout_finite : s.timeout.isFinite = true ↔ ¬ IsEndless (timeoutIn? members)
  lifetime_finite : s.lifetime.isFinite = true ↔ ¬ IsEndless (lifetimeIn? members)
  built : ∃ v, (remote s).verifier? = some v ∧ v.kind = s.kind ∧ v.timeout = s.timeout.text ∧
    v.lifetime = .float s.lifetime

section Settings

variable {members : List (String × Json)} {kind : Json} {which : RemoteKind} {url : Json}
  {s : RemoteSettings}

theorem isGiven_of_urlIn (h : urlIn? members = some url) : url.isGiven = true :=
  List.find?_some (p := Json.isGiven) h

theorem verifier?_remote (htimeout : 0 < Number.float s.timeout)
    (hlifetime : 0 < Number.float s.lifetime) :
    ∃ v, (remote s).verifier? = some v ∧ v.kind = s.kind ∧ v.timeout = s.timeout.text ∧
      v.lifetime = .float s.lifetime :=
  ⟨_, rfl, rfl, congrArg Number.text (if_pos htimeout), if_pos hlifetime⟩

theorem standard_checked :
    ∀ x ∈ [RemoteSettings.standardTimeout, RemoteSettings.standardLifetime],
      x.compare? .zero = some .gt ∧ x.isFinite = true := by
  decide +kernel

theorem checked_of_readSettings (hasks : Asks members kind which url)
    (h : readSettings members which url = .ok s) : Checked members kind s := by
  obtain ⟨fromBlock, -, h⟩ := bind_eq_ok.mp h
  obtain ⟨text, htext, h⟩ := bind_eq_ok.mp h
  obtain ⟨contract, -, h⟩ := bind_eq_ok.mp h
  obtain ⟨timeout, htimeout, h⟩ := bind_eq_ok.mp h
  obtain ⟨lifetime, hlifetime, h⟩ := bind_eq_ok.mp h
  obtain ⟨view, -, h⟩ := bind_eq_ok.mp h
  obtain rfl := pure_eq_ok.mp h
  rw [Fault.lift_eq_ok] at htext
  obtain ⟨hpos, hfinite⟩ := standard_checked RemoteSettings.standardTimeout (.head _)
  obtain ⟨htimeoutPos, htimeoutFinite⟩ := readSeconds_checked hpos hfinite htimeout
  obtain ⟨hpos, hfinite⟩ := standard_checked RemoteSettings.standardLifetime (.tail _ (.head _))
  obtain ⟨hlifetimePos, hlifetimeFinite⟩ := readSeconds_checked hpos hfinite hlifetime
  exact {
    asks := ⟨url, hasks, htext⟩
    url := Json.shown_ne_empty (isGiven_of_urlIn hasks.url) htext
    timeout_pos := Number.zero_lt_float.mpr htimeoutPos
    lifetime_pos := Number.zero_lt_float.mpr hlifetimePos
    timeout_finite := htimeoutFinite
    lifetime_finite := hlifetimeFinite
    built := verifier?_remote (Number.zero_lt_float.mpr htimeoutPos)
      (Number.zero_lt_float.mpr hlifetimePos) }

theorem ofJson_eq_ok {c : RootConfig} (h : ofJson (.object members) kind = .ok c) :
    (IsSwitchedOff members kind ∧ c = disabled) ∨
      ∃ which url s, Asks members kind which url ∧ readSettings members which url = .ok s ∧
        c = remote s := by
  rcases outcome_cases members kind with hno | hoff | ⟨remote, hkind, hflag⟩ |
    ⟨remote, hkind, hflag, hurl⟩ | ⟨remote, url, hasks⟩
  · rw [ofJson_of_no_kind hno] at h
    exact absurd h refuseShowing_ne_ok
  · rw [ofJson_of_switchedOff hoff] at h
    exact .inl ⟨hoff, (Except.ok.inj h).symm⟩
  · obtain ⟨f, hf⟩ := ofJson_of_unwritable_flag hkind hflag
    exact nomatch hf.symm.trans h
  · rw [ofJson_of_remote hkind hflag, if_neg Bool.false_ne_true, hurl] at h
    exact nomatch h
  · rw [ofJson_of_asks hasks] at h
    obtain ⟨s, hs, h⟩ := bind_eq_ok.mp h
    exact .inr ⟨remote, url, s, hasks, hs, (Except.ok.inj h).symm⟩

theorem ofJson_eq_disabled :
    ofJson (.object members) kind = .ok disabled ↔ IsSwitchedOff members kind := by
  refine ⟨fun h => ?_, ofJson_of_switchedOff⟩
  rcases ofJson_eq_ok h with ⟨hoff, -⟩ | ⟨_, _, _, -, -, hremote⟩
  · exact hoff
  · exact nomatch hremote

theorem checked_of_ofJson (h : ofJson (.object members) kind = .ok (remote s)) :
    Checked members kind s := by
  rcases ofJson_eq_ok h with ⟨-, hdisabled⟩ | ⟨which, url, other, hasks, hread, hremote⟩
  · exact nomatch hdisabled
  · obtain rfl := RootConfig.remote.inj hremote
    exact checked_of_readSettings hasks hread

theorem isDisabled_iff (c : RootConfig) : c.isDisabled = true ↔ c.kindName = "disabled" := by
  cases c with
  | disabled => exact iff_of_true rfl rfl
  | remote s => exact iff_of_false Bool.false_ne_true s.kind.name_ne_disabled

/-- A configuration of any shape is read or refused, unless its block is infinite or a part that is
to be shown has no text. It is refused for a cause that the refusal shows. It is disabled exactly
when its kind is, and when its kind or its flag says so; and the settings of any other have an
endpoint, and times that are positive, and finite unless they are given as infinite. -/
theorem settings_checked (members : List (String × Json)) (kind : Json) :
    let result := ofJson (.object members) kind
    (((∃ c, result = .ok c) ∨ ∃ why, result = .error (.refused why)) ↔ ¬ Stops members kind) ∧
      (∀ why, result = .error (.refused why) → IsDue members kind why) ∧
      (result = .ok disabled ↔ IsSwitchedOff members kind) ∧
      (∀ c, result = .ok c → (c.isDisabled = true ↔ c.kindName = "disabled")) ∧
      ∀ s, result = .ok (remote s) → Checked members kind s := by
  intro result
  refine ⟨?_, refusesIn_ofJson, ofJson_eq_disabled, fun c _ => isDisabled_iff c,
    fun s => checked_of_ofJson⟩
  rw [← meetsFault_ofJson]
  change _ ↔ ¬ MeetsFault result
  rcases result with (why | f) | c
  · exact iff_of_true (.inr ⟨why, rfl⟩) not_meetsFault_refused
  · refine iff_of_false ?_ (not_not_intro ⟨f, rfl⟩)
    rintro (⟨c, hc⟩ | ⟨why, hwhy⟩)
    · exact nomatch hc
    · exact nomatch hwhy
  · exact iff_of_true (.inl ⟨c, rfl⟩) not_meetsFault_ok

end Settings

theorem cached_settings_read :
    let members : List (String × Json) := [("kind", .text "cached"), ("rpc", .text "http://x"),
      ("request_timeout", .text "2s"), ("cache_expiration", .int 30), ("from_block", .text "1200")]
    (∃ s, ofJson (.object members) (.text "contract") = .ok (remote s) ∧ s.kind = .cached ∧
      s.fromBlock = 1200 ∧ Checked members (.text "contract") s) ∧
    ¬ Stops members (.text "contract") ∧
    ofJson (.object [("contract", .text "0x")]) (.text "events") = .error (.refused .urlRequired) ∧
    IsDue [("contract", .text "0x")] (.text "events") .urlRequired := by
  intro members
  have hread : (ofJson (.object members) (.text "contract")).toOption = some (remote {
      kind := .cached, url := "http://x", contract := "", timeout := .ofInt 2,
      lifetime := .ofInt 30, fromBlock := 1200, view := "getRoot" }) := by
    decide +kernel
  have hok := toOption_eq_some.mp hread
  obtain ⟨hstops, -, -, -, hchecked⟩ := settings_checked members (.text "contract")
  obtain ⟨-, hdue, -, -, -⟩ := settings_checked [("contract", .text "0x")] (.text "events")
  exact ⟨⟨_, hok, rfl, rfl, hchecked _ hok⟩, hstops.mp (.inl ⟨_, hok⟩), rfl, hdue _ rfl⟩

/-- An infinite block is met by a fault, and infinite times are taken for good ones. -/
theorem endless_values_unchecked :
    ofJson (.object [("rpc", .text "http://x"), ("from_block", .number (.float (.infinity false)))])
        (.text "contract") = .error (.fault .integerFromInfinity) ∧
      ∃ s, ofJson (.object [("rpc", .text "http://x"),
          ("request_timeout", .number (.float (.infinity false))),
          ("cache_expiration", .text "inf")]) (.text "cached") = .ok (remote s) ∧
        s.timeout.isFinite = false ∧ s.lifetime.isFinite = false := by
  have hread : (ofJson (.object [("rpc", .text "http://x"),
      ("request_timeout", .number (.float (.infinity false))), ("cache_expiration", .text "inf")])
        (.text "cached")).toOption =
      some (remote { RemoteSettings.standard with
        kind := .cached, url := "http://x", timeout := .infinity false,
        lifetime := .infinity false }) := by
    decide +kernel
  exact ⟨rfl, _, toOption_eq_some.mp hread, rfl, rfl⟩

end RootConfig
end IdentityProof
