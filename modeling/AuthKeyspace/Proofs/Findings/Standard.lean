import AuthKeyspace.Proofs.Findings.Assembled
import Mathlib.Tactic.Common

/-!
# What the standard rules find

The standard rules agree with one definition of a keyspace to start with: it is
`Sound` if every identifier is made from the names of its table, every table
remembers deleted data for the declared number of seconds, the names are the
declared ones, and there are no fewer copies than the floor. The report is fine
exactly then, however the tables came about (`report_exact`). There is no report
where too few copies would have to be told of and one of the two numbers is too
long for that (`CopiesTold`).

Each condition that fails is one error, and no more than one. What the error
says is computed here from the keyspace itself: the rule for retention compares
durations and tells the days of one, which is the same as to compare seconds and
to divide them (`retentionWindow_check`). So the whole list of errors is known,
table by table and then for the keyspace.

A statement without a guard is told of as well, but what is only told of never
stands in the way (`Report.isOk_congr`).
-/

namespace AuthKeyspace

/-! ## Durations in seconds -/

namespace Time.Duration

theorem micros_of_ofSeconds {n : Int} {d : Duration} (h : ofSeconds n = .ok d) :
    d.micros = n * microsPerSecond := ofMicros_eq_ok_iff.1 h

/-- The days of so many seconds. -/
theorem days_of_ofSeconds {n : Int} {d : Duration} (h : ofSeconds n = .ok d) :
    d.days = n / 86400 := by
  rw [days, micros_of_ofSeconds h]
  simp only [microsPerSecond, microsPerDay]
  omega

/-- Two durations are the same if they have the same number of seconds. -/
theorem ofSeconds_eq_iff {m n : Int} {d e : Duration} (hm : ofSeconds m = .ok d)
    (hn : ofSeconds n = .ok e) : d = e ↔ m = n := by
  constructor
  · intro h
    have hmicros : m * microsPerSecond = n * microsPerSecond := by
      rw [← micros_of_ofSeconds hm, ← micros_of_ofSeconds hn, h]
    simp only [microsPerSecond] at hmicros
    omega
  · intro h
    rw [h, hn] at hm
    exact (Except.ok.inj hm).symm

end Time.Duration

namespace Findings

open AuthKeyspace.Table

/-! ## Sound keyspaces -/

/-- A keyspace that a node can start with, if `floor` copies are asked for. -/
structure Sound (k : Keyspace) (floor : Int) : Prop where
  identity : ∀ t ∈ k.tables, t.id = .ofName t.keyspace t.name
  retention : ∀ t ∈ k.tables, t.options.graceSeconds = graceSeconds
  names : k.tableNames.toFinset = Declared.tableNames.toFinset
  copies : floor ≤ k.replication.factor

/-- The error that the identifier of a table is not made from its names. -/
def identityError? (t : Descriptor) : Option Finding :=
  if t.id = .ofName t.keyspace t.name then none
  else some {
    tableKey := t.fullName
    level := .error
    code := RuleCode.tableIdentity.text
    message := "Table id " ++ t.id.text ++ " does not match derived id " ++
      (Digest.Uuid.ofName t.keyspace t.name).text
    hint := "Build descriptors with build_table instead of constructing them by hand." }

/-- The error that a table remembers deleted data for another time. -/
def retentionError? (t : Descriptor) : Option Finding :=
  if t.options.graceSeconds = graceSeconds then none
  else some {
    tableKey := t.fullName
    level := .error
    code := RuleCode.retentionWindow.text
    message := "Retention is " ++ toString (t.options.graceSeconds / 86400) ++
      " days, expected " ++ toString (graceSeconds / 86400) ++ " days" }

/-- What stands in the way in one table. -/
def tableErrors (t : Descriptor) : List Finding :=
  (identityError? t).toList ++ (retentionError? t).toList

/-- The note that the statement of a table is not guarded. -/
def guardNote? (t : Descriptor) : Option Finding :=
  if t.layout.guarded then none else some (unguardedFinding t.fullName)

/-- The error that declared tables are missing. -/
def missingError? (k : Keyspace) : Option Finding :=
  if ∀ n ∈ Declared.tableNames, n ∈ k.tableNames then none
  else some {
    tableKey := ""
    level := .error
    code := RuleCode.tableSet.text
    message := "Keyspace " ++ k.name ++ " is missing tables: " ++
      Text.quotedList (namesBeyond Declared.tableNames k.tableNames) }

/-- The error that there are tables which are not declared. -/
def undeclaredError? (k : Keyspace) : Option Finding :=
  if ∀ n ∈ k.tableNames, n ∈ Declared.tableNames then none
  else some {
    tableKey := ""
    level := .error
    code := RuleCode.tableSet.text
    message := "Keyspace " ++ k.name ++ " has undeclared tables: " ++
      Text.quotedList (namesBeyond k.tableNames Declared.tableNames)
    hint := "Add the table to TABLE_NAMES and bump the schema generation." }

/-- The error that there are fewer copies than the floor asks for. -/
def floorError? (k : Keyspace) (floor : Int) : Option Finding :=
  if floor ≤ k.replication.factor then none
  else some {
    tableKey := ""
    level := .error
    code := RuleCode.replicationFloor.text
    message := "Replication factor " ++ toString k.replication.factor ++
      " is below the floor " ++ toString floor }

/-- What stands in the way in the keyspace as a whole. -/
def keyspaceErrors (k : Keyspace) (floor : Int) : List Finding :=
  (missingError? k).toList ++ (undeclaredError? k).toList ++ (floorError? k floor).toList

/-! ## What the rules find -/

theorem tableIdentity_check (t : Descriptor) :
    tableIdentity.check t = .ok (identityError? t).toList := by
  by_cases h : t.id = .ofName t.keyspace t.name
  · simp [tableIdentity, identityError?, h]
  · simp [tableIdentity, identityError?, h]

/-- Durations are compared, but it is the seconds that count. -/
theorem retentionWindow_check {t : Descriptor} {d : Time.Duration} (h : t.retention = .ok d) :
    (retentionWindow gracePeriod).check t = .ok (retentionError? t).toList := by
  have hgrace : Time.Duration.ofSeconds graceSeconds = .ok gracePeriod :=
    Options.retention_declared
  have hsame : d = gracePeriod ↔ t.options.graceSeconds = graceSeconds :=
    Time.Duration.ofSeconds_eq_iff h hgrace
  simp only [retentionWindow, h, Except.mapError, ok_bind]
  by_cases hseconds : t.options.graceSeconds = graceSeconds
  · rw [if_pos (hsame.2 hseconds), retentionError?, if_pos hseconds]
    rfl
  · rw [if_neg fun hd => hseconds (hsame.1 hd), retentionError?, if_neg hseconds,
      Time.Duration.days_of_ofSeconds h, Time.Duration.days_of_ofSeconds hgrace]
    rfl

theorem idempotentCreation_check (t : Descriptor) :
    idempotentCreation.check t = .ok (guardNote? t).toList := by
  cases hguarded : t.layout.guarded with
  | false => simp [idempotentCreation, guardNote?, hguarded, unguardedFinding]
  | true => simp [idempotentCreation, guardNote?, hguarded]

theorem nameFindings_declared (k : Keyspace) :
    nameFindings Declared.tableNames k =
      (missingError? k).toList ++ (undeclaredError? k).toList := by
  have hempty : ∀ a b : List String,
      (namesBeyond a b).isEmpty = true ↔ ∀ n ∈ a, n ∈ b := by
    intro a b
    rw [List.isEmpty_iff, namesBeyond_eq_nil_iff]
  simp only [nameFindings, hempty]
  congr 1
  · rw [missingError?]
    split <;> rfl
  · rw [undeclaredError?]
    split <;> rfl

/-- What there is to say of the copies of a keyspace can be written: either there
is nothing to say, or the two numbers are not too long. -/
def CopiesTold (k : Keyspace) (floor : Int) : Prop :=
  floor ≤ k.replication.factor ∨ Text.IsWritable k.replication.factor ∧ Text.IsWritable floor

theorem replicationFloor_check {k : Keyspace} {floor : Int} (h : CopiesTold k floor) :
    replicationFloor.check k floor = .ok (floorError? k floor).toList := by
  by_cases hcopies : floor ≤ k.replication.factor
  · rw [replicationFloor_check_of_le hcopies, floorError?, if_pos hcopies]
    rfl
  · obtain ⟨hfactor, hfloor⟩ := h.resolve_left hcopies
    simp only [replicationFloor, hcopies, if_false, belowFloorMessage,
      Text.writeInteger_of_isWritable hfactor, Text.writeInteger_of_isWritable hfloor, ok_bind,
      floorError?]
    rfl

/-- A number that is too long for the message ends the check. -/
theorem replicationFloor_check_of_not_told {k : Keyspace} {floor : Int}
    (h : ¬ CopiesTold k floor) : replicationFloor.check k floor = .error (.numberTooLong ⟨⟩) := by
  obtain ⟨hcopies, hlong⟩ := not_or.1 h
  simp only [replicationFloor, hcopies, if_false, belowFloorMessage]
  by_cases hfactor : Text.IsWritable k.replication.factor
  · have hfloor : ¬ Text.IsWritable floor := fun hfloor => hlong ⟨hfactor, hfloor⟩
    rw [Text.writeInteger_of_isWritable hfactor, Text.writeInteger_of_not_isWritable hfloor]
    rfl
  · rw [Text.writeInteger_of_not_isWritable hfactor]
    rfl

/-- All that is found in one table. -/
def tableFindings (t : Descriptor) : List Finding := tableErrors t ++ (guardNote? t).toList

theorem checkTable_standard {t : Descriptor} {d : Time.Duration} (h : t.retention = .ok d) :
    RuleSet.checkTable RuleSet.standard.tableRules t = .ok (tableFindings t) := by
  simp only [RuleSet.standard, RuleSet.checkTable, findEach, tableIdentity_check,
    retentionWindow_check h, idempotentCreation_check, ok_bind, pure, Except.pure,
    List.append_nil, tableFindings, tableErrors, List.append_assoc]

/-- All tables having retentions, the report depends on the rules for the
keyspace alone. -/
theorem report_eq_of_retentions {k : Keyspace} (h : ∀ t ∈ k.tables, ∃ d, t.retention = .ok d)
    (floor : Int) :
    RuleSet.standard.report k floor = (replicationFloor.check k floor).map fun below =>
      ⟨k.tables.flatMap tableFindings ++
        ((missingError? k).toList ++ (undeclaredError? k).toList ++ below)⟩ := by
  have htables : findEach (RuleSet.checkTable RuleSet.standard.tableRules) k.tables =
      .ok (k.tables.flatMap tableFindings) := by
    refine findEach_of_finds fun t ht => ?_
    obtain ⟨d, hd⟩ := h t ht
    exact checkTable_standard hd
  rw [RuleSet.report, htables, ok_bind]
  simp only [RuleSet.standard, findEach, tableSet, nameFindings_declared, ok_bind]
  cases replicationFloor.check k floor with
  | error e => rfl
  | ok below => simp [bind, Except.bind, pure, Except.pure, Except.map]

/-! ## Levels -/

/-- Only what is not merely told of decides whether a report is fine. -/
theorem Report.isOk_congr {r s : Report}
    (h : r.findings.filter (·.level != .info) = s.findings.filter (·.level != .info)) :
    r.isOk = s.isOk := by
  have herrors : ∀ q : Report,
      q.errors = (q.findings.filter (·.level != .info)).filter (·.level == .error) := by
    intro q
    rw [List.filter_filter]
    refine List.filter_congr fun f _ => ?_
    cases f.level <;> rfl
  rw [Report.isOk, Report.isOk, herrors r, herrors s, h]

/-- What is found unless a condition holds is the one finding that it can be. -/
theorem eq_of_mem_unless {p : Prop} [Decidable p] {f g : Finding}
    (h : g ∈ if p then none else some f) : g = f := by
  split at h
  · cases h
  · exact (Option.some.inj h).symm

theorem level_of_mem_tableErrors {t : Descriptor} : ∀ f ∈ tableErrors t, f.level = .error := by
  intro f hf
  rcases List.mem_append.1 hf with hf | hf
  · rw [eq_of_mem_unless (Option.mem_toList.1 hf)]
  · rw [eq_of_mem_unless (Option.mem_toList.1 hf)]

theorem level_of_mem_guardNote {t : Descriptor} : ∀ f ∈ guardNote? t, f.level = .info := by
  intro f hf
  rw [eq_of_mem_unless hf]
  rfl

theorem level_of_mem_keyspaceErrors {k : Keyspace} {floor : Int} :
    ∀ f ∈ keyspaceErrors k floor, f.level = .error := by
  intro f hf
  rw [keyspaceErrors, List.mem_append, List.mem_append] at hf
  rcases hf with (hf | hf) | hf
  · rw [eq_of_mem_unless (Option.mem_toList.1 hf)]
  · rw [eq_of_mem_unless (Option.mem_toList.1 hf)]
  · rw [eq_of_mem_unless (Option.mem_toList.1 hf)]

/-! ## The report -/

variable {k : Keyspace}

/-- The errors of the report are those of the tables, in their order, and then
those of the keyspace. -/
theorem errors_standard (floor : Int) :
    (Report.mk (k.tables.flatMap tableFindings ++ keyspaceErrors k floor)).errors =
      k.tables.flatMap tableErrors ++ keyspaceErrors k floor := by
  have htable : ∀ t : Descriptor,
      (tableFindings t).filter (·.level == .error) = tableErrors t := by
    intro t
    have herrors : (tableErrors t).filter (·.level == .error) = tableErrors t :=
      List.filter_eq_self.2 fun f hf => by rw [level_of_mem_tableErrors f hf]; rfl
    have hnote : (guardNote? t).toList.filter (·.level == .error) = [] :=
      List.filter_eq_nil_iff.2 fun f hf => by
        rw [level_of_mem_guardNote f (Option.mem_toList.1 hf)]
        decide
    rw [tableFindings, List.filter_append, herrors, hnote, List.append_nil]
  have hkeyspace : (keyspaceErrors k floor).filter (·.level == .error) = keyspaceErrors k floor :=
    List.filter_eq_self.2 fun f hf => by rw [level_of_mem_keyspaceErrors f hf]; rfl
  simp only [Report.errors, Report.atLevel, List.filter_append, List.filter_flatMap, htable,
    hkeyspace]

theorem tableErrors_eq_nil_iff {t : Descriptor} :
    tableErrors t = [] ↔
      t.id = .ofName t.keyspace t.name ∧ t.options.graceSeconds = graceSeconds := by
  simp [tableErrors, identityError?, retentionError?]

theorem keyspaceErrors_eq_nil_iff {floor : Int} :
    keyspaceErrors k floor = [] ↔
      k.tableNames.toFinset = Declared.tableNames.toFinset ∧ floor ≤ k.replication.factor := by
  rw [keyspaceErrors, ← nameFindings_declared, List.append_eq_nil_iff, nameFindings_eq_nil_iff,
    Option.toList_eq_nil_iff, floorError?]
  simp

/-- Nothing stands in the way exactly of a sound keyspace. -/
theorem errors_eq_nil_iff {floor : Int} :
    k.tables.flatMap tableErrors ++ keyspaceErrors k floor = [] ↔ Sound k floor := by
  rw [List.append_eq_nil_iff, List.flatMap_eq_nil_iff, keyspaceErrors_eq_nil_iff]
  simp only [tableErrors_eq_nil_iff]
  constructor
  · rintro ⟨htables, hnames, hcopies⟩
    exact ⟨fun t ht => (htables t ht).1, fun t ht => (htables t ht).2, hnames, hcopies⟩
  · intro h
    exact ⟨fun t ht => ⟨h.identity t ht, h.retention t ht⟩, h.names, h.copies⟩

/-- The report of the standard rules is fine exactly for a sound keyspace. There
is no report if there are too few copies and one of the numbers to tell of is too
long. Otherwise the errors of the report are, table by table, that the identifier
is wrong and that the retention is, and then that tables are missing, that there
are undeclared ones and that there are too few copies: each once if it is so, and
nothing else. What a report merely tells of does not change whether it is fine. -/
theorem report_exact (h : ∀ t ∈ k.tables, ∃ d, t.retention = .ok d) (floor : Int) :
    ((∃ r, RuleSet.standard.report k floor = .ok r ∧ r.isOk = true) ↔ Sound k floor) ∧
    (¬ CopiesTold k floor → RuleSet.standard.report k floor = .error (.numberTooLong ⟨⟩)) ∧
    (CopiesTold k floor → ∃ r, RuleSet.standard.report k floor = .ok r ∧
      (r.isOk = true ↔ Sound k floor) ∧
      r.errors = (k.tables.flatMap fun t =>
          (identityError? t).toList ++ (retentionError? t).toList) ++
        ((missingError? k).toList ++ (undeclaredError? k).toList ++
          (floorError? k floor).toList) ∧
      (∀ n, n ∈ namesBeyond Declared.tableNames k.tableNames ↔
        n ∈ Declared.tableNames ∧ n ∉ k.tableNames) ∧
      (∀ n, n ∈ namesBeyond k.tableNames Declared.tableNames ↔
        n ∈ k.tableNames ∧ n ∉ Declared.tableNames) ∧
      ∀ s : Report,
        s.findings.filter (·.level != .info) = r.findings.filter (·.level != .info) →
          s.isOk = r.isOk) := by
  have hreport := report_eq_of_retentions h floor
  have htold : CopiesTold k floor → RuleSet.standard.report k floor =
      .ok ⟨k.tables.flatMap tableFindings ++ keyspaceErrors k floor⟩ := by
    intro hcopies
    rw [hreport, replicationFloor_check hcopies]
    rfl
  have huntold : ¬ CopiesTold k floor →
      RuleSet.standard.report k floor = .error (.numberTooLong ⟨⟩) := by
    intro hcopies
    rw [hreport, replicationFloor_check_of_not_told hcopies]
    rfl
  have hok : (Report.mk (k.tables.flatMap tableFindings ++ keyspaceErrors k floor)).isOk = true ↔
      Sound k floor := by
    rw [Report.isOk, errors_standard, List.isEmpty_iff, errors_eq_nil_iff]
  refine ⟨⟨?_, ?_⟩, huntold, fun hcopies => ⟨_, htold hcopies, hok, errors_standard floor,
    fun n => mem_namesBeyond, fun n => mem_namesBeyond, fun s => Report.isOk_congr⟩⟩
  · rintro ⟨r, hr, hrok⟩
    by_cases hcopies : CopiesTold k floor
    · rw [htold hcopies] at hr
      cases hr
      exact hok.1 hrok
    · rw [huntold hcopies] at hr
      cases hr
  · intro hsound
    exact ⟨_, htold (.inl hsound.copies), hok.2 hsound⟩

/-- A table that forgets after a day, under a name that is not declared: its
identifier is right, everything else is not. -/
theorem report_exact_forgetful :
    ∃ r, RuleSet.standard.report
        ⟨"ks", ⟨1, by decide⟩, [⟨"t", "", ⟨"ks", "t", [], .single "a", true⟩, .ofName "ks" "t",
          { graceSeconds := 86400 }, ""⟩], true, by simp⟩ 3 = .ok r ∧
      r.isOk = false ∧
      r.errors.map (·.code) = ["RETENTION_WINDOW", "TABLE_SET_MATCHES_DECLARED",
        "TABLE_SET_MATCHES_DECLARED", "REPLICATION_FLOOR_RESPECTED"] ∧
      r.errors.head?.map (·.message) = some "Retention is 1 days, expected 90 days" := by
  obtain ⟨-, -, htold⟩ := report_exact (k := ⟨"ks", ⟨1, by decide⟩,
    [⟨"t", "", ⟨"ks", "t", [], .single "a", true⟩, .ofName "ks" "t",
      { graceSeconds := 86400 }, ""⟩], true, by simp⟩)
    (by simpa using ⟨⟨86400000000, by decide, by decide⟩, rfl⟩) 3
  obtain ⟨r, hr, hok, herrors, -⟩ := htold (.inr ⟨by decide +kernel, by decide +kernel⟩)
  refine ⟨r, hr, ?_, ?_, ?_⟩
  · rw [Bool.eq_false_iff]
    exact fun h => absurd (hok.1 h).copies (by decide)
  · rw [herrors]
    simp [identityError?, retentionError?, missingError?, undeclaredError?, floorError?,
      Descriptor.keyspace, Keyspace.tableNames, Declared.tableNames, graceSeconds, RuleCode.text]
  · have hmessage : "Retention is " ++ (1 : Int).repr ++ " days, expected " ++ (90 : Int).repr ++
        " days" = "Retention is 1 days, expected 90 days" := by decide
    rw [herrors]
    simpa [identityError?, retentionError?, Descriptor.keyspace, graceSeconds] using hmessage

end Findings

end AuthKeyspace
