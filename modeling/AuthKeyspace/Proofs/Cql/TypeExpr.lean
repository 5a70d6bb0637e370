import AuthKeyspace.Cql.TypeExpr
import AuthKeyspace.Proofs.Cql.Printing
import AuthKeyspace.Proofs.Except

/-!
# Types are as different as their texts

Two types are the same if and only if they are written the same (`cql_inj`),
also where no statement can declare them: a type shows what it is made of and
where it ends (`isDelimited`), so nothing can be taken for something else.

A description says a little more than its type, for it tells `varchar` from
`text`. That is all it says more. A description without `varchar` can be had
back from the type (`DataType.expr`), and putting `text` for every `varchar`
makes of any description the one that its type gives back
(`collapsed_eq_expr`). So two descriptions have the same text exactly if they
are the same up to `varchar` (`cql_exact`).
-/

namespace AuthKeyspace.Cql

open AuthKeyspace.Text

namespace DataType

/-- Types are the same exactly if they are written the same. -/
theorem cql_inj {a b : DataType} : a.cql = b.cql ↔ a = b := by
  constructor
  · intro h
    have hdelimited : Delimited Stops fun t : DataType => t.cql.toList := isDelimited
    exact hdelimited.injective apart_nil (congrArg String.toList h)
  · intro h
    rw [h]

/-! ## The description that a type gives back -/

mutual
/-- A description of the type, in the words that it is written with. -/
def expr : DataType → TypeExpr
  | .scalar s => .scalar s.word
  | .set e => .set e.expr
  | .list e => .list e.expr
  | .map k v => .map k.expr v.expr
  | .tuple t ts => .tuple (t.expr :: exprs ts)
  | .frozen t => .frozen t.expr
/-- Descriptions of the types. -/
def exprs : List DataType → List TypeExpr
  | [] => []
  | t :: ts => t.expr :: exprs ts
end

end DataType

namespace TypeExpr

mutual
/-- The description that a type gives back is of that type. -/
theorem toDataType_expr : ∀ t : DataType, t.expr.toDataType = .ok t
  | .scalar s => by
    rw [DataType.expr, toDataType, ScalarType.ofWord?_word]
  | .set e | .list e | .frozen e => by
    rw [DataType.expr, toDataType, toDataType_expr e]
    rfl
  | .map k v => by
    rw [DataType.expr, toDataType, toDataType_expr k, toDataType_expr v]
    rfl
  | .tuple t ts => by
    rw [DataType.expr, toDataType, toDataTypes, toDataType_expr t, toDataTypes_exprs ts]
    rfl
theorem toDataTypes_exprs : ∀ ts : List DataType, toDataTypes (DataType.exprs ts) = .ok ts
  | [] => rfl
  | t :: ts => by
    rw [DataType.exprs, toDataTypes, toDataType_expr t, toDataTypes_exprs ts]
    rfl
end

theorem expr_inj {a b : DataType} : a.expr = b.expr ↔ a = b := by
  constructor
  · intro h
    have hsame : a.expr.toDataType = b.expr.toDataType := by rw [h]
    rw [toDataType_expr, toDataType_expr] at hsame
    exact Except.ok.inj hsame
  · intro h
    rw [h]

/-! ## Descriptions up to `varchar` -/

mutual
/-- The description with `text` in place of every `varchar`. -/
def collapsed : TypeExpr → TypeExpr
  | .scalar w => .scalar (if w = "varchar" then "text" else w)
  | .set e => .set e.collapsed
  | .list e => .list e.collapsed
  | .map k v => .map k.collapsed v.collapsed
  | .tuple es => .tuple (collapsedAll es)
  | .frozen e => .frozen e.collapsed
/-- The descriptions with `text` in place of every `varchar`. -/
def collapsedAll : List TypeExpr → List TypeExpr
  | [] => []
  | e :: es => e.collapsed :: collapsedAll es
end

/-- A word that names a scalar is the scalar's own word, once `text` stands in
place of `varchar`. -/
theorem collapsed_scalar {w : String} {s : ScalarType} (h : ScalarType.ofWord? w = some s) :
    collapsed (.scalar w) = .scalar s.word := by
  rw [collapsed]
  rcases ofWord?_iff.1 h with rfl | ⟨rfl, rfl⟩
  · have hword : s.word ≠ "varchar" := by cases s <;> decide
    rw [if_neg hword]
  · rfl

mutual
/-- Up to `varchar` a description is the one that its type gives back. -/
theorem collapsed_eq_expr : ∀ (x : TypeExpr) {a : DataType}, x.toDataType = .ok a →
    x.collapsed = a.expr
  | .scalar w, a, h => by
    rw [toDataType] at h
    split at h
    · next s hs =>
      cases h
      exact collapsed_scalar hs
    · cases h
  | .set e, a, h | .list e, a, h | .frozen e, a, h => by
    obtain ⟨t, ht, hret⟩ := bind_eq_ok_iff.1 h
    cases hret
    rw [collapsed, DataType.expr, collapsed_eq_expr e ht]
  | .map k v, a, h => by
    obtain ⟨key, hkey, h₁⟩ := bind_eq_ok_iff.1 h
    obtain ⟨value, hvalue, hret⟩ := bind_eq_ok_iff.1 h₁
    cases hret
    rw [collapsed, DataType.expr, collapsed_eq_expr k hkey, collapsed_eq_expr v hvalue]
  | .tuple es, a, h => by
    obtain ⟨ts, hts, hret⟩ := bind_eq_ok_iff.1 h
    have helements := collapsedAll_eq_exprs es hts
    cases ts with
    | nil => cases hret
    | cons t ts =>
      cases hret
      rw [collapsed, helements, DataType.expr, DataType.exprs]
theorem collapsedAll_eq_exprs : ∀ (es : List TypeExpr) {ts : List DataType},
    toDataTypes es = .ok ts → collapsedAll es = DataType.exprs ts
  | [], ts, h => by
    cases h
    rfl
  | e :: es, ts, h => by
    obtain ⟨t, ht, h₁⟩ := bind_eq_ok_iff.1 h
    obtain ⟨ts', hts, hret⟩ := bind_eq_ok_iff.1 h₁
    cases hret
    rw [collapsedAll, DataType.exprs, collapsed_eq_expr e ht, collapsedAll_eq_exprs es hts]
end

/-! ## Descriptions that are of a type -/

/-- Every leaf is the word of a scalar, and no tuple is empty. -/
inductive WellFormed : TypeExpr → Prop
  | scalar {w : String} (h : w ∈ ScalarType.words.map (·.1)) : WellFormed (.scalar w)
  | set {e : TypeExpr} (h : WellFormed e) : WellFormed (.set e)
  | list {e : TypeExpr} (h : WellFormed e) : WellFormed (.list e)
  | map {k v : TypeExpr} (hk : WellFormed k) (hv : WellFormed v) : WellFormed (.map k v)
  | tuple {e : TypeExpr} {es : List TypeExpr} (h : WellFormed e) (hes : ∀ x ∈ es, WellFormed x) :
      WellFormed (.tuple (e :: es))
  | frozen {e : TypeExpr} (h : WellFormed e) : WellFormed (.frozen e)

theorem exists_ofWord? {w : String} (h : w ∈ ScalarType.words.map (·.1)) :
    ∃ s, ScalarType.ofWord? w = some s := by
  cases hw : ScalarType.ofWord? w with
  | some s => exact ⟨s, rfl⟩
  | none =>
    obtain ⟨p, hp, rfl⟩ := List.mem_map.1 h
    exact absurd (List.lookup_eq_none_iff.1 hw p hp) (by simp)

theorem exists_toDataTypes {es : List TypeExpr} (h : ∀ e ∈ es, ∃ t, e.toDataType = .ok t) :
    ∃ ts, toDataTypes es = .ok ts := by
  induction es with
  | nil => exact ⟨[], rfl⟩
  | cons e es ih =>
    obtain ⟨⟨t, ht⟩, hmore⟩ := List.forall_mem_cons.1 h
    obtain ⟨ts, hts⟩ := ih hmore
    exact ⟨t :: ts, by rw [toDataTypes, ht, hts]; rfl⟩

/-- A description that is well formed is of a type. -/
theorem exists_toDataType {x : TypeExpr} (h : x.WellFormed) : ∃ a, x.toDataType = .ok a := by
  induction h with
  | scalar h =>
    obtain ⟨s, hs⟩ := exists_ofWord? h
    exact ⟨.scalar s, by rw [toDataType, hs]⟩
  | set _ ih | list _ ih | frozen _ ih =>
    obtain ⟨t, ht⟩ := ih
    simp only [toDataType, ht, ok_bind]
    exact ⟨_, rfl⟩
  | map _ _ ihKey ihValue =>
    obtain ⟨k, hk⟩ := ihKey
    obtain ⟨v, hv⟩ := ihValue
    exact ⟨.map k v, by rw [toDataType, hk, hv]; rfl⟩
  | tuple _ _ ih ihMore =>
    obtain ⟨t, ht⟩ := ih
    obtain ⟨ts, hts⟩ := exists_toDataTypes ihMore
    exact ⟨.tuple t ts, by rw [toDataType, toDataTypes, ht, hts]; rfl⟩

end TypeExpr

/-! ## The result -/

/-- Types are equal exactly if their texts are. Descriptions that are well formed
are of types, and these have the same text exactly if the descriptions are the
same with `text` in place of every `varchar`. -/
theorem cql_exact :
    (∀ a b : DataType, DataType.beq a b = true ↔ a.cql = b.cql) ∧
      ∀ x y : TypeExpr, x.WellFormed → y.WellFormed →
        ∃ a b, x.toDataType = .ok a ∧ y.toDataType = .ok b ∧
          (a.cql = b.cql ↔ x.collapsed = y.collapsed) := by
  refine ⟨fun a b => DataType.beq_eq_true_iff.trans DataType.cql_inj.symm, ?_⟩
  intro x y hx hy
  obtain ⟨a, ha⟩ := TypeExpr.exists_toDataType hx
  obtain ⟨b, hb⟩ := TypeExpr.exists_toDataType hy
  refine ⟨a, b, ha, hb, ?_⟩
  rw [TypeExpr.collapsed_eq_expr x ha, TypeExpr.collapsed_eq_expr y hb, TypeExpr.expr_inj,
    DataType.cql_inj]

/-- A tuple of `varchar` has the text of a tuple of `text`, but not that of a set. -/
theorem cql_exact_varchar :
    (∃ a b, TypeExpr.toDataType (.tuple [.scalar "varchar"]) = .ok a ∧
      TypeExpr.toDataType (.tuple [.scalar "text"]) = .ok b ∧ a.cql = b.cql) ∧
      ∃ a b, TypeExpr.toDataType (.tuple [.scalar "varchar"]) = .ok a ∧
        TypeExpr.toDataType (.set (.scalar "text")) = .ok b ∧ a.cql ≠ b.cql := by
  have htext : (TypeExpr.scalar "text").WellFormed := .scalar (by decide)
  have hvarchar : (TypeExpr.scalar "varchar").WellFormed := .scalar (by decide)
  obtain ⟨a, b, ha, hb, hsame⟩ := cql_exact.2 (.tuple [.scalar "varchar"]) (.tuple [.scalar "text"])
    (.tuple hvarchar nofun) (.tuple htext nofun)
  obtain ⟨a', c, ha', hc, hother⟩ := cql_exact.2 (.tuple [.scalar "varchar"])
    (.set (.scalar "text")) (.tuple hvarchar nofun) (.set htext)
  refine ⟨⟨a, b, ha, hb, hsame.2 rfl⟩, a', c, ha', hc, fun h => ?_⟩
  cases hother.1 h

end AuthKeyspace.Cql
