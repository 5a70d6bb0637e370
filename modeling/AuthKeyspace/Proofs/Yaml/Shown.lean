import AuthKeyspace.Proofs.Except
import AuthKeyspace.Yaml.Value

/-!
# Values that messages cannot show

Whole numbers are written in decimal only up to a limit of digits, and a number
in another base can be read without that limit. So a value can be read and not
be shown: exactly if somewhere in it, as a part or as a key, there is a number
beyond the limit (`Value.shown_eq_error_iff`).
-/

namespace AuthKeyspace.Yaml

/-- A whole number with more digits than are written. -/
def Scalar.IsLong (s : Scalar) : Prop :=
  ∃ n, s = .integer n ∧ Nat.pow 10 Text.maxDigits ≤ n.natAbs

theorem Scalar.shown_eq_error_iff {s : Scalar} : s.shown = .error ⟨⟩ ↔ s.IsLong := by
  cases s with
  | integer n =>
    have hlong : (Scalar.integer n).IsLong ↔ Nat.pow 10 Text.maxDigits ≤ n.natAbs := by
      constructor
      · intro h
        obtain ⟨m, hm, hlong⟩ := h
        cases hm
        exact hlong
      · intro h
        exact ⟨n, rfl, h⟩
    rw [hlong, Scalar.shown, Text.writeInteger]
    split
    · next h =>
      constructor
      · intro hok
        cases hok
      · intro hlong
        exact absurd h (Nat.not_lt.2 hlong)
    · next h => exact ⟨fun _ => Nat.not_lt.1 h, fun _ => rfl⟩
  | _ =>
    constructor
    · intro h
      cases h
    · intro h
      obtain ⟨n, hn, -⟩ := h
      cases hn

/-- Somewhere in a value there is a whole number with more digits than are
written. -/
inductive Value.HasLongNumber : Value → Prop
  | scalar {s : Scalar} (h : s.IsLong) : HasLongNumber (.scalar s)
  | item {v : Value} {items : List Value} (hv : v ∈ items) (h : HasLongNumber v) :
    HasLongNumber (.sequence items)
  | first {a b : Value} {ps : List (Value × Value)} (hab : (a, b) ∈ ps) (h : HasLongNumber a) :
    HasLongNumber (.pairs ps)
  | second {a b : Value} {ps : List (Value × Value)} (hab : (a, b) ∈ ps) (h : HasLongNumber b) :
    HasLongNumber (.pairs ps)
  | key {k : Scalar} {v : Value} {entries : List (Scalar × Value)} (hkv : (k, v) ∈ entries)
    (h : k.IsLong) : HasLongNumber (.mapping entries)
  | value {k : Scalar} {v : Value} {entries : List (Scalar × Value)} (hkv : (k, v) ∈ entries)
    (h : HasLongNumber v) : HasLongNumber (.mapping entries)
  | member {s : Scalar} {members : List Scalar} (hs : s ∈ members) (h : s.IsLong) :
    HasLongNumber (.set members)

/-- A text that is put together from shown parts cannot be shown if one of them
cannot; `P` says so of the parts behind the first. -/
theorem part_eq_error_iff {α β : Type} {part : Except Text.NumberTooLong α}
    {more : α → Except Text.NumberTooLong β} {P : Prop} (h : ∀ a, more a = .error ⟨⟩ ↔ P) :
    (part >>= more) = .error ⟨⟩ ↔ part = .error ⟨⟩ ∨ P := by
  cases part with
  | error e => exact ⟨fun _ => .inl rfl, fun _ => rfl⟩
  | ok a =>
    rw [ok_bind, h a]
    simp

/-- The last part of a text that is put together. -/
theorem lastPart_eq_error_iff {α β : Type} {part : Except Text.NumberTooLong α} {f : α → β} :
    (part >>= fun a => pure (f a)) = .error ⟨⟩ ↔ part = .error ⟨⟩ := by
  cases part with
  | error e => exact ⟨fun _ => rfl, fun _ => rfl⟩
  | ok a => simp [ok_bind, pure, Except.pure]

namespace Value

theorem mapM_shown_eq_error_iff {members : List Scalar} :
    members.mapM Scalar.shown = .error ⟨⟩ ↔ ∃ s ∈ members, s.IsLong := by
  induction members with
  | nil => simp [pure, Except.pure]
  | cons s members ih =>
    rw [List.mapM_cons, part_eq_error_iff fun _ => lastPart_eq_error_iff, ih,
      Scalar.shown_eq_error_iff]
    simp

mutual
/-- A value cannot be shown exactly if a number in it is too long. -/
theorem shown_eq_error_iff : (v : Value) → (v.shown = .error ⟨⟩ ↔ v.HasLongNumber)
  | .scalar s => by
    rw [shown, Scalar.shown_eq_error_iff]
    constructor
    · exact .scalar
    · intro h
      cases h with
      | scalar hs => exact hs
  | .sequence items => by
    rw [shown, functor_map_eq_error_iff, shownItems_eq_error_iff items]
    constructor
    · intro h
      obtain ⟨v, hv, hlong⟩ := h
      exact .item hv hlong
    · intro h
      cases h with
      | item hv hlong => exact ⟨_, hv, hlong⟩
  | .pairs ps => by
    rw [shown, functor_map_eq_error_iff, shownPairs_eq_error_iff ps]
    constructor
    · intro h
      obtain ⟨p, hp, hlong | hlong⟩ := h
      · exact .first hp hlong
      · exact .second hp hlong
    · intro h
      cases h with
      | first hab hlong => exact ⟨_, hab, .inl hlong⟩
      | second hab hlong => exact ⟨_, hab, .inr hlong⟩
  | .mapping entries => by
    rw [shown, functor_map_eq_error_iff, shownEntries_eq_error_iff entries]
    constructor
    · intro h
      obtain ⟨e, he, hlong | hlong⟩ := h
      · exact .key he hlong
      · exact .value he hlong
    · intro h
      cases h with
      | key hkv hlong => exact ⟨_, hkv, .inl hlong⟩
      | value hkv hlong => exact ⟨_, hkv, .inr hlong⟩
  | .set [] => by
    constructor
    · intro h
      cases h
    · intro h
      cases h with
      | member hs _ => cases hs
  | .set (s :: members) => by
    rw [shown, functor_map_eq_error_iff, mapM_shown_eq_error_iff]
    · constructor
      · intro h
        obtain ⟨t, ht, hlong⟩ := h
        exact .member ht hlong
      · intro h
        cases h with
        | member ht hlong => exact ⟨_, ht, hlong⟩
    · simp
  | .enclosingSequence => by
    constructor <;> intro h <;> cases h
  | .enclosingMapping => by
    constructor <;> intro h <;> cases h
theorem shownItems_eq_error_iff : (items : List Value) →
    (shownItems items = .error ⟨⟩ ↔ ∃ v ∈ items, v.HasLongNumber)
  | [] => by simp [shownItems]
  | v :: items => by
    rw [shownItems, part_eq_error_iff fun _ => lastPart_eq_error_iff, shown_eq_error_iff v,
      shownItems_eq_error_iff items]
    simp
theorem shownPairs_eq_error_iff : (ps : List (Value × Value)) →
    (shownPairs ps = .error ⟨⟩ ↔ ∃ p ∈ ps, p.1.HasLongNumber ∨ p.2.HasLongNumber)
  | [] => by simp [shownPairs]
  | (a, b) :: ps => by
    rw [shownPairs, part_eq_error_iff fun _ => part_eq_error_iff fun _ => lastPart_eq_error_iff,
      shown_eq_error_iff a, shown_eq_error_iff b, shownPairs_eq_error_iff ps]
    simp [or_assoc]
theorem shownEntries_eq_error_iff : (entries : List (Scalar × Value)) →
    (shownEntries entries = .error ⟨⟩ ↔ ∃ e ∈ entries, e.1.IsLong ∨ e.2.HasLongNumber)
  | [] => by simp [shownEntries]
  | (k, v) :: entries => by
    rw [shownEntries, part_eq_error_iff fun _ => part_eq_error_iff fun _ => lastPart_eq_error_iff,
      Scalar.shown_eq_error_iff, shown_eq_error_iff v, shownEntries_eq_error_iff entries]
    simp [or_assoc]
end

end Value

end AuthKeyspace.Yaml
