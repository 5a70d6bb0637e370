import AuthKeyspace.Log.Record

/-!
# Computations that can fail

A reader is a chain of readers, each of which may fail. The chain succeeds if
and only if every link does (`bind_eq_ok_iff`), so a proof takes a run apart
into one run for each link.

An operation that logs is such a chain too, as far as its outcome goes: what a
run of two operations gives does not depend on their records
(`Logged.outcome_bind`).
-/

namespace AuthKeyspace

variable {ε ε' α β : Type}

theorem bind_eq_ok_iff {x : Except ε α} {f : α → Except ε β} {b : β} :
    (x >>= f) = .ok b ↔ ∃ a, x = .ok a ∧ f a = .ok b := by
  cases x with
  | error e => simp [bind, Except.bind]
  | ok a => simp [bind, Except.bind]

theorem ok_bind (a : α) (f : α → Except ε β) : (Except.ok a >>= f) = f a := rfl

theorem map_eq_ok_iff {x : Except ε α} {f : α → β} {b : β} :
    x.map f = .ok b ↔ ∃ a, x = .ok a ∧ f a = b := by
  cases x with
  | error e => simp [Except.map]
  | ok a => simp [Except.map]

theorem map_eq_error_iff {x : Except ε α} {f : α → β} {e : ε} :
    x.map f = .error e ↔ x = .error e := by
  cases x with
  | error e => simp [Except.map]
  | ok a => simp [Except.map]

theorem functor_map_eq_error_iff {x : Except ε α} {f : α → β} {e : ε} :
    f <$> x = .error e ↔ x = .error e := map_eq_error_iff

/-- Speaking of failures in other terms makes no failure a success. -/
theorem mapError_eq_ok_iff {x : Except ε α} {f : ε → ε'} {a : α} :
    x.mapError f = .ok a ↔ x = .ok a := by
  cases x with
  | error e =>
    constructor
    · intro h
      cases h
    · intro h
      cases h
  | ok a =>
    constructor
    · intro h
      cases h
      rfl
    · intro h
      cases h
      rfl

/-- What gives `a` under a condition `p` gives `f a` under the same condition when
`f` is applied to the result. -/
theorem bind_pure_eq_ok_iff {x : Except ε α} {p : Prop} {a : α} {f : α → β} {b : β}
    (h : ∀ a', x = .ok a' ↔ p ∧ a = a') :
    (x >>= fun a' => pure (f a')) = .ok b ↔ p ∧ f a = b := by
  simp only [bind_eq_ok_iff, h, pure, Except.pure, Except.ok.injEq]
  constructor
  · rintro ⟨_, ⟨hp, rfl⟩, rfl⟩
    exact ⟨hp, rfl⟩
  · rintro ⟨hp, rfl⟩
    exact ⟨_, ⟨hp, rfl⟩, rfl⟩

/-- A run over a list gives a list if it gives something at every place. -/
theorem mapM_eq_ok_iff {f : α → Except ε β} {p : α → Prop} {g : α → β}
    (h : ∀ a b, f a = .ok b ↔ p a ∧ g a = b) {as : List α} {bs : List β} :
    as.mapM f = .ok bs ↔ (∀ a ∈ as, p a) ∧ as.map g = bs := by
  induction as generalizing bs with
  | nil => simp [pure, Except.pure]
  | cons a as ih =>
    simp only [List.mapM_cons, bind_eq_ok_iff, h, ih, pure, Except.pure, Except.ok.injEq,
      List.forall_mem_cons, List.map_cons]
    constructor
    · rintro ⟨_, ⟨ha, rfl⟩, _, ⟨has, rfl⟩, rfl⟩
      exact ⟨⟨ha, has⟩, rfl⟩
    · rintro ⟨⟨ha, has⟩, rfl⟩
      exact ⟨_, ⟨ha, rfl⟩, _, ⟨has, rfl⟩, rfl⟩

/-! ## Operations that log -/

namespace Log.Logged

/-- Operations that log can be grouped in a run as one likes. -/
instance : LawfulMonad (Logged ε) := by
  refine LawfulMonad.mk' (Logged ε) ?id_map ?pure_bind ?bind_assoc
  case id_map =>
    intro α ⟨records, outcome⟩
    cases outcome <;> simp [Functor.map, Logged.bind]
  case pure_bind =>
    intro α β a f
    rfl
  case bind_assoc =>
    intro α β γ ⟨records, outcome⟩ f g
    cases outcome with
    | error e => rfl
    | ok a =>
      simp only [bind, Logged.bind]
      cases (f a).outcome <;> simp

theorem outcome_bind (x : Logged ε α) (f : α → Logged ε β) :
    (x >>= f).outcome = x.outcome >>= fun a => (f a).outcome := by
  cases h : x.outcome with
  | error e => exact (bind_records_of_error h f).2
  | ok a => exact (bind_of_ok h f).2

theorem bind_eq_of_ok {x : Logged ε α} {a : α} (h : x.outcome = .ok a) (f : α → Logged ε β) :
    x >>= f = ⟨x.records ++ (f a).records, (f a).outcome⟩ := by
  obtain ⟨hrecords, houtcome⟩ := bind_of_ok h f
  rw [← hrecords, ← houtcome]

theorem outcome_mapError (f : ε → ε') (x : Logged ε α) :
    (x.mapError f).outcome = x.outcome.mapError f := rfl

theorem outcome_ofExcept (x : Except ε α) : (ofExcept x).outcome = x := rfl

theorem outcome_pure (a : α) : (pure a : Logged ε α).outcome = .ok a := rfl

end Log.Logged

end AuthKeyspace
