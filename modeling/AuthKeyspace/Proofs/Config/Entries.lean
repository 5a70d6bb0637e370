import AuthKeyspace.Config.Loading
import AuthKeyspace.Proofs.Yaml.Shown

/-!
# What the entries of a mapping give

Two entries count, the number of copies and the delay. An entry of no use is
left to the settings with one warning, and what is of use is taken as it is
(`Settled`). Three things are too much for that, and they are all about the
size of a number: one too long to be shown in the warning, under either key,
and a delay longer than a duration can be (`EntryEscape`).
-/

namespace AuthKeyspace.Config

open AuthKeyspace.Log AuthKeyspace.Time

/-! ## Entries -/

/-- The number under a key, if it can be used: a whole number, not a truth
value, that is not negative. -/
def usable? (conf : Yaml.Entries) (key : String) : Option Int :=
  match (conf.lookup key).map Thunk.get with
  | some (.scalar (.integer n)) => if 0 ≤ n then some n else none
  | _ => none

/-- What is under a key is of no use, and has a number with too many digits to
be shown. -/
def Unshowable (conf : Yaml.Entries) (key : String) : Prop :=
  usable? conf key = none ∧ ∃ v, (conf.lookup key).map Thunk.get = some v ∧ v.HasLongNumber

variable {conf : Yaml.Entries} {key : String}

theorem unshowable_iff {v : Yaml.Value} (h : usable? conf key = none)
    (hv : (conf.lookup key).map Thunk.get = some v) :
    Unshowable conf key ↔ v.shown = .error ⟨⟩ := by
  rw [Yaml.Value.shown_eq_error_iff]
  constructor
  · intro hshown
    obtain ⟨-, w, hw, hlong⟩ := hshown
    rw [hv] at hw
    cases hw
    exact hlong
  · intro hlong
    exact ⟨h, v, hv, hlong⟩

theorem usable?_eq_some_iff {n : Int} :
    usable? conf key = some n ↔
      (conf.lookup key).map Thunk.get = some (.scalar (.integer n)) ∧ 0 ≤ n := by
  constructor
  · intro h
    unfold usable? at h
    split at h
    · next m hm =>
      split at h
      · next hsign =>
        cases h
        exact ⟨hm, hsign⟩
      · cases h
    · cases h
  · intro h
    obtain ⟨hn, hsign⟩ := h
    simp only [usable?, hn, if_pos hsign]

theorem nonNegative_of_usable {n : Int} (h : usable? conf key = some n) :
    nonNegative conf key = .ok n := by
  obtain ⟨hn, hsign⟩ := usable?_eq_some_iff.1 h
  simp only [nonNegative, hn, if_neg (Int.not_lt.2 hsign)]

/-- A message around something can be told exactly if that can be shown. -/
theorem message_of_shown (shown : Except Text.NumberTooLong String) (f : String → String) :
    shown = .error ⟨⟩ ∧ (shown >>= fun text => pure (f text)) = .error ⟨⟩ ∨
      shown ≠ .error ⟨⟩ ∧ ∃ message, (shown >>= fun text => pure (f text)) = .ok message := by
  cases shown with
  | error e => exact .inl ⟨rfl, rfl⟩
  | ok text => exact .inr ⟨by simp, f text, rfl⟩

/-- An entry of no use has a fault, which can be told exactly if the entry can
be shown. -/
theorem nonNegative_of_not_usable (h : usable? conf key = none) :
    ∃ fault, nonNegative conf key = .error fault ∧
      (Unshowable conf key ∧ fault.message = .error ⟨⟩ ∨
        ¬ Unshowable conf key ∧ ∃ message, fault.message = .ok message) := by
  unfold nonNegative
  split
  · next hnone =>
    refine ⟨_, rfl, .inr ⟨?_, _, rfl⟩⟩
    intro hshown
    obtain ⟨-, v, hv, -⟩ := hshown
    rw [hnone] at hv
    cases hv
  · next hnull =>
    refine ⟨_, rfl, .inr ⟨?_, _, rfl⟩⟩
    rw [unshowable_iff h hnull]
    simp [Yaml.Value.shown, Yaml.Scalar.shown]
  · next n hn =>
    have hneg : n < 0 := by
      refine Int.not_le.1 fun hsign => ?_
      simp [usable?, hn, hsign] at h
    rw [if_pos hneg]
    refine ⟨_, rfl, ?_⟩
    rw [unshowable_iff h hn]
    exact message_of_shown (Text.writeInteger n) fun text =>
      key ++ " must be non-negative, got " ++ text ++ "."
  · next v _ _ hv =>
    refine ⟨_, rfl, ?_⟩
    rw [unshowable_iff h hv]
    exact message_of_shown v.shown fun text => key ++ " must be an integer, got " ++ text ++ "."

theorem nonNegative_of_unshowable (h : Unshowable conf key) :
    ∃ fault, nonNegative conf key = .error fault ∧ fault.message = .error ⟨⟩ := by
  obtain ⟨fault, hfault, ⟨-, hmessage⟩ | ⟨hnot, -⟩⟩ := nonNegative_of_not_usable h.1
  · exact ⟨fault, hfault, hmessage⟩
  · exact absurd h hnot

theorem nonNegative_of_showable (h : usable? conf key = none)
    (hshown : ¬ Unshowable conf key) :
    ∃ fault message, nonNegative conf key = .error fault ∧ fault.message = .ok message := by
  obtain ⟨fault, hfault, ⟨hun, -⟩ | ⟨-, message, hmessage⟩⟩ := nonNegative_of_not_usable h
  · exact absurd hun hshown
  · exact ⟨fault, message, hfault, hmessage⟩

/-! ## The two entries that count -/

variable {s : Settings} {d : Duration}

theorem configuredFactor_of_usable {n : Int} (h : usable? conf factorKey = some n) :
    configuredFactor conf = pure (some n) := by
  simp only [configuredFactor, nonNegative_of_usable h]

theorem configuredFactor_of_unshowable (h : Unshowable conf factorKey) :
    configuredFactor conf = ⟨[], .error ⟨⟩⟩ := by
  obtain ⟨fault, hfault, hmessage⟩ := nonNegative_of_unshowable h
  simp only [configuredFactor, hfault, hmessage]
  rfl

/-- A number of copies of no use is left to the floor, with one warning. -/
theorem configuredFactor_of_showable (h : usable? conf factorKey = none)
    (hshown : ¬ Unshowable conf factorKey) :
    ∃ message, configuredFactor conf = ⟨[Severity.warning.record message], .ok none⟩ := by
  obtain ⟨fault, message, hfault, hmessage⟩ := nonNegative_of_showable h hshown
  refine ⟨message ++ " Falling back to the replication floor.", ?_⟩
  simp only [configuredFactor, hfault, hmessage]
  rfl

theorem configuredDelay_of_absent (hd : Bootstrap.defaultDelay s = .ok d)
    (h : conf.lookup delayKey = none) : configuredDelay s conf = ⟨[], .ok d⟩ := by
  simp only [configuredDelay, hd, h]
  rfl

theorem configuredDelay_of_present (hd : Bootstrap.defaultDelay s = .ok d)
    (h : (conf.lookup delayKey).isNone = false) :
    configuredDelay s conf =
      match nonNegative conf delayKey with
      | .ok n => .ofExcept ((Duration.ofMillis n).mapError .overflow)
      | .error fault => do
        let message ← .ofExcept (fault.message.mapError .numberTooLong)
        Logged.tell <| Severity.warning.recordOf do
          return message ++ " Using " ++ (← Text.writeInteger s.setupDelayMillis) ++ " ms."
        return d := by
  simp only [configuredDelay, hd, h]
  rfl

theorem isNone_lookup_of_get {v : Yaml.Value}
    (h : (conf.lookup key).map Thunk.get = some v) : (conf.lookup key).isNone = false := by
  cases hlookup : conf.lookup key with
  | none => simp [hlookup] at h
  | some w => rfl

theorem configuredDelay_of_usable (hd : Bootstrap.defaultDelay s = .ok d) {n : Int}
    (h : usable? conf delayKey = some n) :
    configuredDelay s conf = ⟨[], (Duration.ofMillis n).mapError .overflow⟩ := by
  have hpresent := isNone_lookup_of_get (usable?_eq_some_iff.1 h).1
  rw [configuredDelay_of_present hd hpresent, nonNegative_of_usable h]
  rfl

theorem configuredDelay_of_unshowable (hd : Bootstrap.defaultDelay s = .ok d)
    (h : Unshowable conf delayKey) :
    configuredDelay s conf = ⟨[], .error (.numberTooLong ⟨⟩)⟩ := by
  obtain ⟨v, hv, -⟩ := h.2
  obtain ⟨fault, hfault, hmessage⟩ := nonNegative_of_unshowable h
  rw [configuredDelay_of_present hd (isNone_lookup_of_get hv), hfault]
  simp only [hmessage]
  rfl

/-- A delay of no use is left to the settings, with one warning. -/
theorem configuredDelay_of_showable (hd : Bootstrap.defaultDelay s = .ok d)
    (hpresent : (conf.lookup delayKey).isNone = false) (h : usable? conf delayKey = none)
    (hshown : ¬ Unshowable conf delayKey) :
    ∃ message, configuredDelay s conf = ⟨[Severity.warning.recordOf message], .ok d⟩ := by
  obtain ⟨fault, message, hfault, hmessage⟩ := nonNegative_of_showable h hshown
  rw [configuredDelay_of_present hd hpresent, hfault]
  simp only [hmessage]
  exact ⟨_, rfl⟩

/-! ## A mapping -/

/-- The severities of the records that an operation makes, in order. -/
def severities {ε α : Type} (x : Logged ε α) : List Severity := x.records.map (·.severity)

/-- The delay is the configured number of milliseconds, or the default where
nothing is configured that can be used. -/
structure DelayFrom (default : Duration) (conf : Yaml.Entries) (delay : Duration) : Prop where
  micros_eq : ∀ n, usable? conf delayKey = some n → delay.micros = n * 1000
  eq_default : usable? conf delayKey = none → delay = default

/-- The warnings about a mapping: one for a number of copies of no use, and one
for a delay of no use that is there. -/
def warnings (conf : Yaml.Entries) : List Severity :=
  (if usable? conf factorKey = none then [.warning] else []) ++
    if usable? conf delayKey = none ∧ (conf.lookup delayKey).isNone = false then [.warning] else []

/-- Why a mapping stops a node: an entry of no use cannot be shown in a warning,
or the delay is a number and longer than a duration can be. -/
inductive EntryEscape (conf : Yaml.Entries) : LoadError → Prop
  | factor (h : Unshowable conf factorKey) : EntryEscape conf (.numberTooLong ⟨⟩)
  | delay (h : Unshowable conf delayKey) : EntryEscape conf (.numberTooLong ⟨⟩)
  | overflow {n : Int} {o : Overflow} (hfactor : ¬ Unshowable conf factorKey)
    (hn : usable? conf delayKey = some n) (ho : Duration.ofMillis n = .error o) :
    EntryEscape conf (.overflow o)

theorem configuredFactor_cases (conf : Yaml.Entries) :
    Unshowable conf factorKey ∧ configuredFactor conf = ⟨[], .error ⟨⟩⟩ ∨
      ¬ Unshowable conf factorKey ∧
        (configuredFactor conf).outcome = .ok (usable? conf factorKey) ∧
        severities (configuredFactor conf) =
          if usable? conf factorKey = none then [.warning] else [] := by
  by_cases hun : Unshowable conf factorKey
  · exact .inl ⟨hun, configuredFactor_of_unshowable hun⟩
  · refine .inr ⟨hun, ?_⟩
    cases h : usable? conf factorKey with
    | some n =>
      rw [configuredFactor_of_usable h]
      exact ⟨rfl, rfl⟩
    | none =>
      obtain ⟨message, hmessage⟩ := configuredFactor_of_showable h hun
      rw [hmessage]
      exact ⟨rfl, rfl⟩

/-- The configured delay: there is none to be shown, or it overflows, or there
is a delay with as many warnings as it takes. -/
theorem configuredDelay_cases (hd : Bootstrap.defaultDelay s = .ok d) (conf : Yaml.Entries) :
    Unshowable conf delayKey ∧
        configuredDelay s conf = ⟨[], .error (.numberTooLong ⟨⟩)⟩ ∨
      (∃ n o, usable? conf delayKey = some n ∧ Duration.ofMillis n = .error o ∧
        configuredDelay s conf = ⟨[], .error (.overflow o)⟩) ∨
      ¬ Unshowable conf delayKey ∧
        (∀ n o, usable? conf delayKey = some n → Duration.ofMillis n ≠ .error o) ∧
        ∃ delay, (configuredDelay s conf).outcome = .ok delay ∧ DelayFrom d conf delay ∧
          severities (configuredDelay s conf) =
            if usable? conf delayKey = none ∧ (conf.lookup delayKey).isNone = false then [.warning]
            else [] := by
  by_cases hun : Unshowable conf delayKey
  · exact .inl ⟨hun, configuredDelay_of_unshowable hd hun⟩
  cases h : usable? conf delayKey with
  | some n =>
    have hrun := configuredDelay_of_usable hd h
    cases hmillis : Duration.ofMillis n with
    | error o =>
      rw [hmillis] at hrun
      exact .inr (.inl ⟨n, o, rfl, hmillis, hrun⟩)
    | ok delay =>
      rw [hmillis] at hrun
      refine .inr (.inr ⟨hun, ?_, delay, ?_, ⟨?_, ?_⟩, ?_⟩)
      · intro m o hm
        cases hm
        rw [hmillis]
        simp
      · rw [hrun]
        rfl
      · intro m hm
        rw [h] at hm
        cases hm
        exact Duration.ofMicros_eq_ok_iff.1 hmillis
      · intro hnone
        rw [h] at hnone
        cases hnone
      · rw [hrun]
        rfl
  | none =>
    refine .inr (.inr ⟨hun, ?_, d, ?_⟩)
    · intro n o hn
      cases hn
    have hfrom : DelayFrom d conf d := by
      refine ⟨?_, fun _ => rfl⟩
      intro n hn
      rw [h] at hn
      cases hn
    cases hpresent : (conf.lookup delayKey).isNone with
    | true =>
      rw [configuredDelay_of_absent hd (Option.isNone_iff_eq_none.1 hpresent)]
      exact ⟨rfl, hfrom, rfl⟩
    | false =>
      obtain ⟨message, hmessage⟩ := configuredDelay_of_showable hd hpresent h hun
      rw [hmessage]
      exact ⟨rfl, hfrom, rfl⟩

/-- What a start is told by a mapping: the number of copies that can be used,
the floor of the settings, and the delay. -/
structure Settled (s : Settings) (default : Duration) (conf : Yaml.Entries) (b : Bootstrap) :
    Prop where
  factor_eq : b.configuredFactor? = usable? conf factorKey
  floor_eq : b.floor = s.replicationFloor
  delay : DelayFrom default conf b.setupDelay

theorem outcome_ofEntries (s : Settings) (conf : Yaml.Entries) :
    (ofEntries s conf).outcome =
      (configuredFactor conf).outcome.mapError .numberTooLong >>= fun factor? =>
        (configuredDelay s conf).outcome >>= fun delay =>
          .ok ⟨factor?, s.replicationFloor, delay⟩ := by
  simp only [ofEntries, Logged.outcome_bind, Logged.outcome_mapError, Logged.outcome_pure]

theorem severities_ofEntries {factor? : Option Int} {delay : Duration}
    (hfactor : (configuredFactor conf).outcome = .ok factor?)
    (hdelay : (configuredDelay s conf).outcome = .ok delay) :
    severities (ofEntries s conf) =
      severities (configuredFactor conf) ++ severities (configuredDelay s conf) := by
  have hmapped : ((configuredFactor conf).mapError LoadError.numberTooLong).outcome =
      .ok factor? := by
    rw [Logged.outcome_mapError, hfactor]
    rfl
  rw [severities, ofEntries, (Logged.bind_of_ok hmapped _).1, (Logged.bind_of_ok hdelay _).1]
  simp [severities, Logged.mapError, pure]

/-- A mapping either stops a node, or settles what a start needs with the
warnings about it. -/
theorem ofEntries_cases (hd : Bootstrap.defaultDelay s = .ok d) (conf : Yaml.Entries) :
    (∃ e, EntryEscape conf e ∧ (ofEntries s conf).outcome = .error e) ∨
      (∀ e, ¬ EntryEscape conf e) ∧ ∃ b, (ofEntries s conf).outcome = .ok b ∧
        Settled s d conf b ∧ severities (ofEntries s conf) = warnings conf := by
  rw [outcome_ofEntries]
  rcases configuredFactor_cases conf with ⟨hun, hrun⟩ | ⟨hfactorShown, hfactor, hfactorWarnings⟩
  · refine .inl ⟨_, .factor hun, ?_⟩
    rw [hrun]
    rfl
  rw [hfactor]
  rcases configuredDelay_cases hd conf with ⟨hun, hrun⟩ | ⟨n, o, hn, ho, hrun⟩ |
    ⟨hdelayShown, hfits, delay, hdelay, hfrom, hdelayWarnings⟩
  · refine .inl ⟨_, .delay hun, ?_⟩
    rw [hrun]
    rfl
  · refine .inl ⟨_, .overflow hfactorShown hn ho, ?_⟩
    rw [hrun]
    rfl
  · refine .inr ⟨?_, ⟨usable? conf factorKey, s.replicationFloor, delay⟩, ?_, ⟨rfl, rfl, hfrom⟩, ?_⟩
    · intro e he
      cases he with
      | factor h => exact hfactorShown h
      | delay h => exact hdelayShown h
      | overflow _ hn ho => exact hfits _ _ hn ho
    · rw [hdelay]
      rfl
    · rw [severities_ofEntries hfactor hdelay, hfactorWarnings, hdelayWarnings]
      rfl

/-- A mapping from which loading gives something settles it. -/
theorem settled_of_ofEntries (hd : Bootstrap.defaultDelay s = .ok d) {b : Bootstrap}
    (h : (ofEntries s conf).outcome = .ok b) : Settled s d conf b := by
  rcases ofEntries_cases hd conf with ⟨e, -, herror⟩ | ⟨-, b', hok, hsettled, -⟩
  · rw [herror] at h
    cases h
  · rw [hok] at h
    cases h
    exact hsettled

/-- The delay of the settings has to be a duration, even where it is not
needed. -/
theorem exists_defaultDelay {b : Bootstrap} (h : (ofEntries s conf).outcome = .ok b) :
    ∃ d, Bootstrap.defaultDelay s = .ok d := by
  rw [outcome_ofEntries] at h
  obtain ⟨factor?, -, h⟩ := bind_eq_ok_iff.1 h
  obtain ⟨delay, hdelay, -⟩ := bind_eq_ok_iff.1 h
  cases hd : Bootstrap.defaultDelay s with
  | ok d => exact ⟨d, rfl⟩
  | error o =>
    simp only [configuredDelay, hd] at hdelay
    cases hdelay

/-- A mapping stops a node in one way only. -/
theorem EntryEscape.unique {e e' : LoadError} (h : EntryEscape conf e) (h' : EntryEscape conf e') :
    e = e' := by
  cases h with
  | factor hun =>
    cases h' with
    | factor | delay => rfl
    | overflow hshown => exact absurd hun hshown
  | delay hun =>
    cases h' with
    | factor | delay => rfl
    | overflow _ hn =>
      rw [hun.1] at hn
      cases hn
  | overflow hshown hn ho =>
    cases h' with
    | factor hun => exact absurd hun hshown
    | delay hun =>
      rw [hun.1] at hn
      cases hn
    | overflow _ hn' ho' =>
      rw [hn] at hn'
      cases hn'
      rw [ho] at ho'
      cases ho'
      rfl

theorem ofEntries_outcome_eq_error_iff (hd : Bootstrap.defaultDelay s = .ok d) {e : LoadError} :
    (ofEntries s conf).outcome = .error e ↔ EntryEscape conf e := by
  rcases ofEntries_cases hd conf with ⟨e₀, hescape, herror⟩ | ⟨hnone, b, hok, -⟩
  · rw [herror]
    constructor
    · intro h
      cases h
      exact hescape
    · intro h
      rw [hescape.unique h]
  · rw [hok]
    constructor
    · intro h
      cases h
    · intro h
      exact absurd h (hnone e)

end AuthKeyspace.Config
