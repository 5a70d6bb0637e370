import AuthKeyspace.Proofs.Startup.Starting

/-!
# A start tells everything that the rules find

A rule of whatever set says of each table, or of the keyspace, what it finds
there. All of it comes into the report, table by table and for each table rule by
rule, and then what is found in the keyspace (`RuleSet.report_of_finds`). A start
makes one record of each finding before it looks at whether there is an error
among them, so a start that fails has told as much as one that succeeds
(`start_reports`); only the record that the keyspace is ready is missing.

Of a rule nothing is asked but that it says something: `find` is what a table
rule says of a table of the keyspace, `findAll` what any other rule says of the
keyspace itself.
-/

namespace AuthKeyspace

open AuthKeyspace.Config AuthKeyspace.Findings AuthKeyspace.Log AuthKeyspace.Table

/-! ## Reports -/

namespace Findings

variable {rules : RuleSet} {k : Keyspace} {find : TableRule → Descriptor → List Finding}
  {findAll : KeyspaceRule → List Finding}

/-- All that the rules find: in each table in order, with each table rule in
order, and then in the keyspace with each of the others. -/
def RuleSet.findings (rules : RuleSet) (find : TableRule → Descriptor → List Finding)
    (findAll : KeyspaceRule → List Finding) (k : Keyspace) : List Finding :=
  (k.tables.flatMap fun t => rules.tableRules.flatMap fun r => find r t) ++
    rules.keyspaceRules.flatMap findAll

theorem RuleSet.report_of_finds {floor : Int}
    (hfind : ∀ t ∈ k.tables, ∀ r ∈ rules.tableRules, r.check t = .ok (find r t))
    (hfindAll : ∀ r ∈ rules.keyspaceRules, r.check k floor = .ok (findAll r)) :
    rules.report k floor = .ok ⟨rules.findings find findAll k⟩ := by
  have htables : findEach (RuleSet.checkTable rules.tableRules) k.tables =
      .ok (k.tables.flatMap fun t => rules.tableRules.flatMap fun r => find r t) :=
    findEach_of_finds fun t ht => findEach_of_finds (hfind t ht)
  rw [RuleSet.report, htables, ok_bind, findEach_of_finds hfindAll, ok_bind]
  rfl

/-- A finding is logged with the severity that its level is called after. -/
theorem Level.toList_name_severity (l : Level) :
    l.severity.name.toList = l.word.toList.map Char.toUpper := by
  cases l <;> decide

theorem Report.isOk_eq_false_iff {r : Report} :
    r.isOk = false ↔ ∃ f ∈ r.findings, f.level = .error := by
  rw [← Bool.not_eq_true, Report.isOk_iff]
  simp

end Findings

/-! ## Starts -/

namespace Startup

variable {b : Bootstrap} {rules : RuleSet} {k : Keyspace}
  {find : TableRule → Descriptor → List Finding} {findAll : KeyspaceRule → List Finding}

/-- What is made of the declared tables with the values of a bootstrap. -/
def assembled (b : Bootstrap) : Logged AssemblyError Keyspace :=
  Keyspace.assemble Declared.keyspaceName b.floor b.configuredFactor? Declared.declarations

/-- A start on an assembled keyspace tells what the assembly told, and then what
is told of the report. -/
theorem start_eq_of_report {report : Report} (hk : (assembled b).outcome = .ok k)
    (hreport : rules.report k b.floor = .ok report) :
    start b rules = ⟨(assembled b).records ++ (accept b k report).records,
      (accept b k report).outcome⟩ := by
  have hassembled : ((assembled b).mapError StartError.assembly).outcome = .ok k :=
    mapError_eq_ok_iff.2 hk
  have hreported : (Logged.ofExcept ((rules.report k b.floor).mapError
      StartError.check)).outcome = .ok report := mapError_eq_ok_iff.2 hreport
  have hstart : start b rules = (assembled b).mapError .assembly >>= fun k =>
      .ofExcept ((rules.report k b.floor).mapError .check) >>= accept b k := rfl
  rw [hstart, Logged.bind_eq_of_ok hassembled, Logged.bind_eq_of_ok hreported]
  rfl

/-- A start that finds an error has told all that was found. -/
theorem start_of_error {report : Report} (hk : (assembled b).outcome = .ok k)
    (hreport : rules.report k b.floor = .ok report) (h : ∃ f ∈ report.findings, f.level = .error) :
    start b rules = ⟨(assembled b).records ++ report.findings.map Finding.record,
      .error (.rejected report)⟩ := by
  have hok : report.isOk = false := Report.isOk_eq_false_iff.2 h
  rw [start_eq_of_report hk hreport]
  simp [accept, hok]

/-- A start that finds no error has told all that was found, and then that the
keyspace is ready. -/
theorem start_of_no_error {report : Report} (hk : (assembled b).outcome = .ok k)
    (hreport : rules.report k b.floor = .ok report) (h : ∀ f ∈ report.findings, f.level ≠ .error) :
    start b rules = ⟨(assembled b).records ++ report.findings.map Finding.record ++
      [readyRecord (registryOf b k)], .ok (registryOf b k)⟩ := by
  have hok : report.isOk = true := Report.isOk_iff.2 h
  rw [start_eq_of_report hk hreport]
  simp [accept, hok]

/-- What a start tells and how it ends, with rules of any kind. It tells all
findings, each at its level, behind the records of the assembly. It fails exactly
if there is an error among them, and then names all errors in order; otherwise
it tells one thing more, and gives the registry with the keyspace that was
assembled and the values that were given. -/
theorem start_reports (hk : (assembled b).outcome = .ok k)
    (hfind : ∀ t ∈ k.tables, ∀ r ∈ rules.tableRules, r.check t = .ok (find r t))
    (hfindAll : ∀ r ∈ rules.keyspaceRules, r.check k b.floor = .ok (findAll r)) :
    (∀ f ∈ rules.findings find findAll k, f.record.message = f.text ∧
        f.record.severity.name.toList = f.level.word.toList.map Char.toUpper) ∧
      ((∃ e, (start b rules).outcome = .error e) ↔
        ∃ f ∈ rules.findings find findAll k, f.level = .error) ∧
      ((∃ f ∈ rules.findings find findAll k, f.level = .error) →
        ∃ e, start b rules = ⟨(assembled b).records ++
            (rules.findings find findAll k).map Finding.record, .error e⟩ ∧
          e = .rejected ⟨rules.findings find findAll k⟩ ∧
          e.message = "Auth keyspace failed validation: " ++ "; ".intercalate
            (((rules.findings find findAll k).filter fun f => f.level = .error).map
              Finding.text)) ∧
      ((∀ f ∈ rules.findings find findAll k, f.level ≠ .error) →
        ∃ ready : Record, ready.severity = .info ∧ start b rules = ⟨(assembled b).records ++
            (rules.findings find findAll k).map Finding.record ++ [ready],
          .ok ⟨Declared.currentGeneration, k, b.floor, b.setupDelay⟩⟩) := by
  have hreport := RuleSet.report_of_finds hfind hfindAll
  generalize rules.findings find findAll k = found at hreport ⊢
  refine ⟨fun f _ => ⟨rfl, f.level.toList_name_severity⟩, ⟨?_, ?_⟩, ?_, ?_⟩
  · rintro ⟨e, he⟩
    by_contra hnone
    rw [start_of_no_error hk hreport fun f hf hlevel => hnone ⟨f, hf, hlevel⟩] at he
    cases he
  · intro herror
    rw [start_of_error hk hreport herror]
    exact ⟨_, rfl⟩
  · intro herror
    exact ⟨_, start_of_error hk hreport herror, rfl, rfl⟩
  · intro hnone
    exact ⟨_, rfl, start_of_no_error hk hreport hnone⟩

/-- Two rules for the keyspace have something to say, and a rule for tables has
not; the warning between the errors is told, but not named. -/
theorem start_reports_closed :
    let b : Bootstrap := ⟨some 3, 1, ⟨10000000, by decide, by decide⟩⟩
    let rules : RuleSet := ⟨[⟨"S", "", fun _ => .ok []⟩],
      [⟨"A", "", fun _ _ =>
          .ok [⟨"", .error, "A", "closed", ""⟩, ⟨"", .warning, "A", "old", ""⟩]⟩,
        ⟨"B", "", fun _ _ => .ok [⟨"ks.t", .error, "B", "lost", ""⟩]⟩]⟩
    (∃ k, (assembled b).outcome = .ok k) ∧
      (start b rules).records = (assembled b).records ++
        [⟨.error, "[A] closed", true⟩, ⟨.warning, "[A] old", true⟩,
          ⟨.error, "[B] ks.t: lost", true⟩] ∧
      ∃ e, (start b rules).outcome = .error e ∧
        e.message = "Auth keyspace failed validation: [A] closed; [B] ks.t: lost" := by
  intro b rules
  obtain ⟨k, hk⟩ : ∃ k, (assembled b).outcome = .ok k :=
    Keyspace.exists_assemble (by decide) (by decide) Declared.exists_build Declared.names_nodup
  have hfind : ∀ t ∈ k.tables, ∀ r ∈ rules.tableRules, r.check t = .ok [] := by
    intro t _ r hr
    rw [List.mem_singleton.1 hr]
  -- the first of the two rules is known by its code
  let findAll : KeyspaceRule → List Finding := fun r =>
    if r.code = "A" then [⟨"", .error, "A", "closed", ""⟩, ⟨"", .warning, "A", "old", ""⟩]
    else [⟨"ks.t", .error, "B", "lost", ""⟩]
  have hfindAll : ∀ r ∈ rules.keyspaceRules, r.check k b.floor = .ok (findAll r) := by
    intro r hr
    rcases List.mem_pair.1 hr with rfl | rfl
    · rfl
    · rfl
  obtain ⟨-, -, hfailed, -⟩ := start_reports hk hfind hfindAll
  have hfound : rules.findings (fun _ _ => []) findAll k =
      [⟨"", .error, "A", "closed", ""⟩, ⟨"", .warning, "A", "old", ""⟩,
        ⟨"ks.t", .error, "B", "lost", ""⟩] := by
    simp [RuleSet.findings, rules, findAll]
  rw [hfound] at hfailed
  obtain ⟨e, hstart, -, hmessage⟩ := hfailed ⟨_, List.mem_cons_self .., rfl⟩
  rw [hstart]
  exact ⟨⟨k, hk⟩, rfl, e, rfl, hmessage⟩

end Startup

end AuthKeyspace
