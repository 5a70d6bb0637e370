import AuthKeyspace.Proofs.Config.Loading
import AuthKeyspace.Proofs.Declared.Tables
import AuthKeyspace.Proofs.Findings.Assembled
import AuthKeyspace.Startup.Registry

/-!
# When a node starts

A start with the standard rules depends on the floor alone. The loader lets no
number of copies through that an assembly would refuse, every declared table
can be built, and the standard rules find no error in what is built of the
declared tables; so a start succeeds with a floor of one or more, and with a
lower floor it is refused before anything is built (`start_loaded`). What a
node config has under whatever key changes the number of copies at most, and
never to less than the floor.
-/

namespace AuthKeyspace.Startup

open AuthKeyspace.Config AuthKeyspace.Findings AuthKeyspace.Log

theorem outcome_start (b : Bootstrap) (rules : RuleSet) :
    (start b rules).outcome =
      (Keyspace.assemble Declared.keyspaceName b.floor b.configuredFactor?
        Declared.declarations).outcome.mapError .assembly >>= fun k =>
          (rules.report k b.floor).mapError .check >>= fun report =>
            (accept b k report).outcome := by
  simp only [start, Logged.outcome_bind, Logged.outcome_mapError, Logged.outcome_ofExcept]

/-- A floor below one is refused, whatever the rules. -/
theorem start_of_lt {b : Bootstrap} (h : b.floor < 1) (rules : RuleSet) :
    (start b rules).outcome = .error (.assembly (.factor (.lowFloor b.floor))) := by
  rw [outcome_start, Keyspace.assemble_of_factorFault (resolveFactor_of_lt h b.configuredFactor?)]
  rfl

theorem start_of_report {b : Bootstrap} {rules : RuleSet} {k : Keyspace} {report : Report}
    (hk : (Keyspace.assemble Declared.keyspaceName b.floor b.configuredFactor?
      Declared.declarations).outcome = .ok k)
    (hreport : rules.report k b.floor = .ok report) :
    (start b rules).outcome = (accept b k report).outcome := by
  rw [outcome_start, hk]
  show ((rules.report k b.floor).mapError StartError.check >>= fun report =>
    (accept b k report).outcome) = _
  rw [hreport]
  rfl

theorem accept_of_isOk {b : Bootstrap} {k : Keyspace} {report : Report}
    (h : report.isOk = true) : (accept b k report).outcome = .ok (registryOf b k) := by
  simp [accept, h]

/-- With a floor of one or more, and a configured number that is not negative,
the declared tables are assembled and nothing is found that stands in the
way. -/
theorem start_of_le {b : Bootstrap} (hfloor : 1 ≤ b.floor)
    (hconfigured : ∀ c ∈ b.configuredFactor?, 0 ≤ c) :
    ∃ k : Keyspace, (start b .standard).outcome = .ok (registryOf b k) ∧
      k.MadeFrom Declared.keyspaceName b.floor b.configuredFactor? Declared.declarations := by
  obtain ⟨k, hk⟩ := Keyspace.exists_assemble hfloor hconfigured Declared.exists_build
    Declared.names_nodup
  obtain ⟨-, -, hmade⟩ := Keyspace.assemble_outcome_eq_ok_iff.1 hk
  have hok := (isOk_of_madeFrom hmade).2 (congrArg List.toFinset Declared.declarations_names)
  refine ⟨k, ?_, hmade⟩
  rw [start_of_report hk (report_of_madeFrom hmade)]
  exact accept_of_isOk hok

/-- A start on a loaded node config. Whatever mapping the file holds, as long
as loading gives something, the start succeeds exactly with a floor of one or
more and is refused for its floor otherwise. A node that starts has the
current generation, the declared tables in their order, and the larger of the
floor and the configured number of copies, or the floor where none can be
used. -/
theorem start_loaded {s : Settings} {conf : Yaml.Entries} {b : Bootstrap}
    (h : (ofEntries s conf).outcome = .ok b) :
    (∀ source path? path, path?.or s.configPath? = some path → Finds source path conf →
      (load s source path?).outcome = .ok b) ∧
    ((∃ r, (start b .standard).outcome = .ok r) ↔ 1 ≤ s.replicationFloor) ∧
    (s.replicationFloor < 1 → (start b .standard).outcome =
      .error (.assembly (.factor (.lowFloor s.replicationFloor)))) ∧
    ∀ r, (start b .standard).outcome = .ok r →
      r.generation = Declared.currentGeneration ∧
      r.keyspace.tableNames = Declared.tableNames ∧
      r.keyspace.replication.factor =
        effectiveFactor s.replicationFloor (usable? conf factorKey) ∧
      s.replicationFloor ≤ r.keyspace.replication.factor := by
  obtain ⟨d, hd⟩ := exists_defaultDelay h
  have hsettled := settled_of_ofEntries hd h
  have hconfigured : ∀ c ∈ b.configuredFactor?, 0 ≤ c := by
    rw [hsettled.factor_eq]
    exact fun c hc => (usable?_eq_some_iff.1 hc).2
  rw [← hsettled.factor_eq, ← hsettled.floor_eq]
  have hrefused : b.floor < 1 → (start b .standard).outcome =
      .error (.assembly (.factor (.lowFloor b.floor))) := fun hlow => start_of_lt hlow .standard
  have hfloor : ∀ r, (start b .standard).outcome = .ok r → 1 ≤ b.floor := by
    intro r hr
    refine Int.not_lt.1 fun hlow => ?_
    rw [hrefused hlow] at hr
    cases hr
  refine ⟨?_, ⟨?_, ?_⟩, hrefused, ?_⟩
  · intro source path? path hpath hfinds
    rw [load_of_path hpath, loadFrom_of_read (read_of_finds hfinds), h]
  · intro hstart
    obtain ⟨r, hr⟩ := hstart
    exact hfloor r hr
  · intro hle
    obtain ⟨k, hk, -⟩ := start_of_le hle hconfigured
    exact ⟨_, hk⟩
  · intro r hr
    obtain ⟨k, hk, hmade⟩ := start_of_le (hfloor r hr) hconfigured
    rw [hk] at hr
    cases hr
    refine ⟨rfl, hmade.tableNames_eq.trans Declared.declarations_names, hmade.factor_eq, ?_⟩
    show b.floor ≤ k.replication.factor
    rw [hmade.factor_eq]
    exact floor_le_effectiveFactor b.floor b.configuredFactor?

theorem start_loaded_three :
    (ofEntries {} [(.text (Text.points factorKey), Thunk.pure (.scalar (.integer 3)))]).outcome =
        .ok ⟨some 3, 1, ⟨10000000, by decide, by decide⟩⟩ ∧
      ∃ r, (start ⟨some 3, 1, ⟨10000000, by decide, by decide⟩⟩ .standard).outcome = .ok r ∧
        r.keyspace.tableNames = Declared.tableNames ∧ r.keyspace.replication.factor = 3 := by
  have h : (ofEntries {} [(.text (Text.points factorKey),
      Thunk.pure (.scalar (.integer 3)))]).outcome =
        .ok ⟨some 3, 1, ⟨10000000, by decide, by decide⟩⟩ := rfl
  obtain ⟨-, hiff, -, hregistry⟩ := start_loaded h
  obtain ⟨r, hr⟩ := hiff.2 (by decide)
  obtain ⟨-, hnames, hfactor, -⟩ := hregistry r hr
  exact ⟨h, r, hr, hnames, hfactor⟩

end AuthKeyspace.Startup
