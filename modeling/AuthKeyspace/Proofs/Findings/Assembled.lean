import AuthKeyspace.Findings.Rule
import AuthKeyspace.Proofs.Keyspace.Assembly
import AuthKeyspace.Proofs.Table.Building

/-!
# What the standard rules find in an assembled keyspace

The rules compute again, from other fields, what building a table and
assembling a keyspace have already settled. The identifier is made from the
keyspace of the structure and the name of the table, the retention from the
option of the table, the copies are compared with the floor: all three agree
with what was built, for any declarations (`checkTable_of_build`,
`floor_le_effectiveFactor`).

So two things are left to find in an assembled keyspace: statements that are
not guarded, one finding for each in the order of the declarations, and a set of
tables that is not the declared one, which is the only error
(`report_of_madeFrom`).
-/

namespace AuthKeyspace.Findings

open AuthKeyspace.Table

/-! ## Rules for a table -/

/-- The finding that the statement of a table is not guarded. -/
def unguardedFinding (tableKey : String) : Finding where
  tableKey := tableKey
  level := .info
  code := RuleCode.idempotentCreation.text
  message := "Schema text is declared without IF NOT EXISTS"
  hint := "Rendered statements always use IF NOT EXISTS."

/-- The statement of a declaration is read, and it has no guard. -/
def isUnguarded (keyspace : String) (d : Declaration) : Bool :=
  match Cql.Structure.ofText keyspace (fill d.schemaText d.name) with
  | .ok s => !s.guarded
  | .error _ => false

theorem isUnguarded_of_build {keyspace : String} {d : Declaration} {t : Descriptor}
    (h : Descriptor.build keyspace d = .ok t) : isUnguarded keyspace d = !t.layout.guarded := by
  obtain ⟨-, -, s, hs, -, rfl⟩ := Descriptor.build_eq_ok_iff.1 h
  rw [isUnguarded, hs]
  rfl

theorem tableIdentity_of_build {keyspace : String} {d : Declaration} {t : Descriptor}
    (h : Descriptor.build keyspace d = .ok t) : tableIdentity.check t = .ok [] := by
  rw [tableIdentity_check_eq_nil_iff, Descriptor.build_id h, Descriptor.keyspace_of_build h,
    (Descriptor.build_name h).1]

theorem retentionWindow_of_build {keyspace : String} {d : Declaration} {t : Descriptor}
    (h : Descriptor.build keyspace d = .ok t) :
    (retentionWindow gracePeriod).check t = .ok [] := by
  simp only [retentionWindow, Descriptor.retention_of_build h, Except.mapError, ok_bind, if_true]
  rfl

theorem idempotentCreation_of_build {keyspace : String} {d : Declaration} {t : Descriptor}
    (h : Descriptor.build keyspace d = .ok t) :
    idempotentCreation.check t = .ok (if isUnguarded keyspace d then
      [unguardedFinding (keyspace ++ "." ++ d.name)] else []) := by
  rw [isUnguarded_of_build h, ← Descriptor.fullName_of_build h]
  cases hguarded : t.layout.guarded with
  | false => simp [idempotentCreation, hguarded, unguardedFinding]
  | true => simp [idempotentCreation, hguarded]

/-- All that the standard rules find in a built table is that its statement is
not guarded. -/
theorem checkTable_of_build {keyspace : String} {d : Declaration} {t : Descriptor}
    (h : Descriptor.build keyspace d = .ok t) :
    RuleSet.checkTable RuleSet.standard.tableRules t = .ok (if isUnguarded keyspace d then
      [unguardedFinding (keyspace ++ "." ++ d.name)] else []) := by
  simp only [RuleSet.standard, RuleSet.checkTable, findEach, tableIdentity_of_build h,
    retentionWindow_of_build h, idempotentCreation_of_build h, ok_bind]
  cases isUnguarded keyspace d with
  | false => rfl
  | true => rfl

/-- The findings about the statements of declarations, in their order. -/
def unguardedFindings (keyspace : String) (ds : List Declaration) : List Finding :=
  (ds.filter (isUnguarded keyspace)).map fun d => unguardedFinding (keyspace ++ "." ++ d.name)

theorem findEach_of_builtFrom {keyspace : String} {ds : List Declaration}
    {ts : List Descriptor} (h : BuiltFrom keyspace ds ts) :
    findEach (RuleSet.checkTable RuleSet.standard.tableRules) ts =
      .ok (unguardedFindings keyspace ds) := by
  induction h with
  | nil => rfl
  | @cons d t ds ts hbuild _ ih =>
    rw [findEach, checkTable_of_build hbuild, ok_bind, ih, ok_bind]
    cases hguard : isUnguarded keyspace d with
    | false => simp [unguardedFindings, hguard, pure, Except.pure]
    | true => simp [unguardedFindings, hguard, pure, Except.pure]

/-! ## Rules for a keyspace -/

theorem mem_namesBeyond {a b : List String} {n : String} :
    n ∈ namesBeyond a b ↔ n ∈ a ∧ n ∉ b := by
  simp [namesBeyond, sortNames, List.mem_mergeSort, List.mem_eraseDups]

theorem namesBeyond_eq_nil_iff {a b : List String} : namesBeyond a b = [] ↔ ∀ n ∈ a, n ∈ b := by
  rw [List.eq_nil_iff_forall_not_mem]
  simp only [mem_namesBeyond, not_and, not_not]

theorem nameFindings_eq_nil_iff {expected : List String} {k : Keyspace} :
    nameFindings expected k = [] ↔ k.tableNames.toFinset = expected.toFinset := by
  have hnil : nameFindings expected k = [] ↔
      namesBeyond expected k.tableNames = [] ∧ namesBeyond k.tableNames expected = [] := by
    simp [nameFindings]
  rw [hnil, namesBeyond_eq_nil_iff, namesBeyond_eq_nil_iff, Finset.ext_iff]
  simp only [List.mem_toFinset]
  constructor
  · intro h
    exact fun n => ⟨h.2 n, h.1 n⟩
  · intro h
    exact ⟨fun n => (h n).2, fun n => (h n).1⟩

/-- What is found about the set of tables is an error. -/
theorem nameFindings_of_mem {expected : List String} {k : Keyspace} {f : Finding}
    (h : f ∈ nameFindings expected k) : f.level = .error ∧ f.code = RuleCode.tableSet.text := by
  simp only [nameFindings, List.mem_append] at h
  rcases h with h | h
  · split at h
    · cases h
    · rw [List.mem_singleton.1 h]
      exact ⟨rfl, rfl⟩
  · split at h
    · cases h
    · rw [List.mem_singleton.1 h]
      exact ⟨rfl, rfl⟩

/-! ## The report -/

variable {name : String} {floor : Int} {configured? : Option Int} {ds : List Declaration}
  {k : Keyspace}

/-- The report of an assembled keyspace: what is not guarded, and what is wrong
with the set of tables. -/
theorem report_of_madeFrom (h : k.MadeFrom name floor configured? ds) :
    RuleSet.standard.report k floor = .ok
      ⟨unguardedFindings name ds ++ nameFindings Declared.tableNames k⟩ := by
  have hcopies : floor ≤ k.replication.factor := by
    rw [h.factor_eq]
    exact floor_le_effectiveFactor floor configured?
  rw [RuleSet.report, findEach_of_builtFrom h.built, ok_bind]
  simp [RuleSet.standard, findEach, tableSet, replicationFloor_check_of_le hcopies, bind,
    Except.bind, pure, Except.pure]

theorem unguardedFindings_of_mem {f : Finding} (h : f ∈ unguardedFindings name ds) :
    f.level = .info ∧ f.code = RuleCode.idempotentCreation.text := by
  obtain ⟨d, -, rfl⟩ := List.mem_map.1 h
  exact ⟨rfl, rfl⟩

/-- Only the set of tables stands in the way of starting. -/
theorem isOk_of_madeFrom (h : k.MadeFrom name floor configured? ds) :
    (Report.mk (unguardedFindings name ds ++
      nameFindings Declared.tableNames k)).isOk = true ↔
        (ds.map (·.name)).toFinset = Declared.tableNames.toFinset := by
  rw [← h.tableNames_eq, ← nameFindings_eq_nil_iff, Report.isOk_iff,
    List.eq_nil_iff_forall_not_mem]
  constructor
  · intro hlevels f hf
    exact hlevels f (List.mem_append_right _ hf) (nameFindings_of_mem hf).1
  · intro hnone f hf hlevel
    rcases List.mem_append.1 hf with hf | hf
    · rw [(unguardedFindings_of_mem hf).1] at hlevel
      cases hlevel
    · exact hnone f hf

/-- The standard rules agree with what assembles a keyspace, for any
declarations. They find nothing wrong with an identifier, a retention or the
copies; the report is fine exactly if the declared names are those of the auth
tables; and it tells, in the order of the declarations, of each statement that
was read without a guard. -/
theorem report_assembled (h : (Keyspace.assemble name floor configured? ds).outcome = .ok k) :
    ∃ r, RuleSet.standard.report k floor = .ok r ∧
      (∀ f ∈ r.findings, f.code ≠ RuleCode.tableIdentity.text ∧
        f.code ≠ RuleCode.retentionWindow.text ∧ f.code ≠ RuleCode.replicationFloor.text) ∧
      (r.isOk = true ↔ (ds.map (·.name)).toFinset = Declared.tableNames.toFinset) ∧
      r.atLevel .info = (ds.filter (isUnguarded name)).map fun d =>
        unguardedFinding (name ++ "." ++ d.name) := by
  obtain ⟨-, -, hmade⟩ := Keyspace.assemble_outcome_eq_ok_iff.1 h
  refine ⟨_, report_of_madeFrom hmade, ?_, isOk_of_madeFrom hmade, ?_⟩
  · intro f hf
    rcases List.mem_append.1 hf with hf | hf
    · rw [(unguardedFindings_of_mem hf).2]
      decide
    · rw [(nameFindings_of_mem hf).2]
      decide
  · have hguards : (unguardedFindings name ds).filter (·.level == .info) =
        unguardedFindings name ds := by
      rw [List.filter_eq_self]
      intro f hf
      rw [(unguardedFindings_of_mem hf).1]
      rfl
    have htables : (nameFindings Declared.tableNames k).filter (·.level == .info) = [] := by
      rw [List.filter_eq_nil_iff]
      intro f hf
      rw [(nameFindings_of_mem hf).1]
      decide
    rw [Report.atLevel, List.filter_append, hguards, htables, List.append_nil]
    rfl

theorem report_assembled_unguarded :
    ∃ k r, (Keyspace.assemble "ks" 3 none
        [⟨"t", "", "create table %s (k int primary key)"⟩]).outcome = .ok k ∧
      RuleSet.standard.report k 3 = .ok r ∧ r.isOk = false ∧
        r.atLevel .info = [unguardedFinding "ks.t"] := by
  have hbuild :
      ∃ t, Descriptor.build "ks" ⟨"t", "", "create table %s (k int primary key)"⟩ = .ok t :=
    exists_build_of_declaresItself String.toList_ofList String.toList_ofList (by decide +kernel)
  have hunguarded : isUnguarded "ks" ⟨"t", "", "create table %s (k int primary key)"⟩ = true := by
    decide +kernel
  obtain ⟨k, hk⟩ : ∃ k, (Keyspace.assemble "ks" 3 none
      [⟨"t", "", "create table %s (k int primary key)"⟩]).outcome = .ok k :=
    Keyspace.exists_assemble (by decide) (by simp) (by simpa using hbuild) (by simp)
  obtain ⟨r, hr, -, hok, hinfo⟩ := report_assembled hk
  refine ⟨k, r, hk, hr, ?_, ?_⟩
  · rw [Bool.eq_false_iff]
    exact fun h => absurd (hok.1 h) (by decide)
  · rw [hinfo]
    simp [hunguarded]

end AuthKeyspace.Findings
