import AuthKeyspace.Proofs.Keyspace.Printing
import AuthKeyspace.Proofs.Startup.Starting
import AuthKeyspace.Startup.Command

/-!
# What a description tells

A description is made of settings, a config source and perhaps a number of
copies that is given with the command. All that goes into its text is one
number, the copies that a row has in the end (`describedFactor`), and that
number can be told from it: two descriptions are the same text exactly if it is
the same number (`describe_exact`). So neither the delay nor anything else in a
node config shows, and not where the number comes from. What the reader of a
document makes of it is open; what counts of a node config is the one entry.

The number is the only thing that a run leaves open of the keyspace it writes
(`describe_outcome_eq_ok`): the name, the durability and the tables are those of
the declarations, and a table can be built in one way only.
-/

namespace AuthKeyspace

open AuthKeyspace.Config AuthKeyspace.Findings AuthKeyspace.Log AuthKeyspace.Table

/-! ## What a load leaves open -/

namespace Config

/-- The number of copies in the node config, if there is one that can be
used. -/
def configuredFactor? (s : Settings) (source : Source) (path? : Option String) : Option Int :=
  (path?.or s.configPath?).bind fun path =>
    (NodeConfig.read source path).toOption.bind fun conf => usable? conf factorKey

theorem withoutConfig_outcome_eq_ok {s : Settings} {b : Bootstrap}
    (h : (withoutConfig s).outcome = .ok b) :
    b.floor = s.replicationFloor ∧ b.configuredFactor? = none := by
  rw [withoutConfig, Logged.outcome_ofExcept, mapError_eq_ok_iff] at h
  exact Bootstrap.ofSettings_floor h

theorem configuredFactor?_of_read {s : Settings} {source : Source} {path? : Option String}
    {path : String} (hpath : path?.or s.configPath? = some path) :
    configuredFactor? s source path? =
      (NodeConfig.read source path).toOption.bind fun conf => usable? conf factorKey := by
  rw [configuredFactor?, hpath]
  rfl

theorem load_outcome_eq_ok {s : Settings} {source : Source} {path? : Option String}
    {b : Bootstrap} (h : (load s source path?).outcome = .ok b) :
    b.floor = s.replicationFloor ∧ b.configuredFactor? = configuredFactor? s source path? := by
  cases hpath : path?.or s.configPath? with
  | none =>
    simp only [load, hpath, Logged.outcome_bind] at h
    rw [configuredFactor?, hpath]
    exact withoutConfig_outcome_eq_ok h
  | some path =>
    rw [load_of_path hpath] at h
    rw [configuredFactor?_of_read hpath]
    cases hread : NodeConfig.read source path with
    | ok conf =>
      rw [loadFrom_of_read hread] at h
      obtain ⟨d, hd⟩ := exists_defaultDelay h
      have hsettled := settled_of_ofEntries hd h
      exact ⟨hsettled.floor_eq, hsettled.factor_eq⟩
    | error e =>
      cases e with
      | breakdown => simp [loadFrom, hread, Logged.ofExcept] at h
      | defect =>
        simp only [loadFrom, hread, Logged.outcome_bind] at h
        exact withoutConfig_outcome_eq_ok h

end Config

/-! ## What a keyspace leaves open -/

/-- A table can be built in one way only. -/
theorem Table.BuiltFrom.unique {keyspace : String} {ds : List Declaration}
    {ts us : List Descriptor} (ht : BuiltFrom keyspace ds ts) (hu : BuiltFrom keyspace ds us) :
    ts = us := by
  induction ht generalizing us with
  | nil =>
    cases hu
    rfl
  | cons hfirst _ ih =>
    cases hu with
    | cons hfirst' hmore' =>
      rw [hfirst] at hfirst'
      rw [Except.ok.inj hfirst', ih hmore']

/-- A built table has the numbers of the options that are declared. -/
theorem Table.BuiltFrom.forall_isWritable {keyspace : String} {ds : List Declaration}
    {ts : List Descriptor} (h : BuiltFrom keyspace ds ts) :
    ∀ t ∈ ts, t.options.IsWritable := by
  induction h with
  | nil => exact nofun
  | cons hfirst _ ih =>
    obtain ⟨-, -, s, -, -, rfl⟩ := Descriptor.build_eq_ok_iff.1 hfirst
    refine List.forall_mem_cons.2 ⟨⟨?_, ?_, ?_⟩, ih⟩
    · show Text.IsWritable graceSeconds
      decide +kernel
    · show Text.IsWritable chunkKilobytes
      decide +kernel
    · show Text.IsWritable flushMillis
      decide +kernel

/-- Keyspaces that are made from the same declarations have the same text in full
exactly if they have the same number of copies. -/
theorem Keyspace.MadeFrom.fullCql_eq_iff {name : String} {floor floor' : Int}
    {configured? configured?' : Option Int} {ds : List Declaration} {k l : Keyspace}
    (hk : k.MadeFrom name floor configured? ds) (hl : l.MadeFrom name floor' configured?' ds) :
    k.fullCql = l.fullCql ↔
      effectiveFactor floor configured? = effectiveFactor floor' configured?' := by
  rw [← hk.factor_eq, ← hl.factor_eq]
  constructor
  · intro heq
    exact (fullCql_eq_fullCql_iff.1 heq).2.1
  · intro hfactor
    have hkl : k = l := by
      obtain ⟨kname, ⟨kfactor, _⟩, ktables, kdurable, _⟩ := k
      obtain ⟨lname, ⟨lfactor, _⟩, ltables, ldurable, _⟩ := l
      obtain ⟨rfl, -, rfl, hkbuilt⟩ := hk
      obtain ⟨rfl, -, rfl, hlbuilt⟩ := hl
      obtain rfl : kfactor = lfactor := hfactor
      obtain rfl : ktables = ltables := hkbuilt.unique hlbuilt
      rfl
    rw [hkl]

/-! ## One description -/

namespace Startup

variable {s s' : Settings} {source source' : Source} {path? path?' : Option String}
  {factor? factor?' : Option Int}

/-- The number of copies in the end: the larger of the floor and the number that
is given, or that is configured where none is given. -/
def describedFactor (s : Settings) (source : Source) (path? : Option String)
    (factor? : Option Int) : Int :=
  effectiveFactor s.replicationFloor (factor?.or (configuredFactor? s source path?))

theorem accept_outcome_eq_ok {b : Bootstrap} {k : Keyspace} {report : Report} {r : Registry}
    (h : (accept b k report).outcome = .ok r) : r = registryOf b k := by
  unfold accept at h
  dsimp only at h
  split at h
  · cases h
    rfl
  · cases h

theorem start_outcome_eq_ok {b : Bootstrap} {rules : RuleSet} {r : Registry}
    (h : (start b rules).outcome = .ok r) :
    ∃ k, r = registryOf b k ∧
      k.MadeFrom Declared.keyspaceName b.floor b.configuredFactor? Declared.declarations := by
  rw [outcome_start] at h
  obtain ⟨k, hk, h₁⟩ := bind_eq_ok_iff.1 h
  obtain ⟨report, -, h₂⟩ := bind_eq_ok_iff.1 h₁
  rw [mapError_eq_ok_iff] at hk
  obtain ⟨-, -, hmade⟩ := Keyspace.assemble_outcome_eq_ok_iff.1 hk
  exact ⟨k, accept_outcome_eq_ok h₂, hmade⟩

theorem withFactor_fields (factor? : Option Int) (b : Bootstrap) :
    (withFactor factor? b).floor = b.floor ∧
      (withFactor factor? b).configuredFactor? = factor?.or b.configuredFactor? := by
  cases factor? with
  | none => exact ⟨rfl, rfl⟩
  | some factor => exact ⟨rfl, rfl⟩

/-- What stands before the statements of a description. -/
def heading : String :=
  "-- " ++ Declared.keyspaceName ++ " generation " ++ toString Declared.currentGeneration ++ "\n\n"

theorem outcome_describe (s : Settings) (source : Source) (path? : Option String)
    (factor? : Option Int) :
    (describe s source path? factor?).outcome =
      (load s source path?).outcome.mapError .load >>= fun b =>
        (start (withFactor factor? b) .standard).outcome >>= fun r =>
          r.description.mapError .numberTooLong := by
  simp only [describe, Logged.outcome_bind, Logged.outcome_mapError, Logged.outcome_ofExcept]

theorem Registry.description_eq_ok_iff {r : Registry} {text : String} :
    r.description = .ok text ↔ (Text.IsWritable r.generation ∧ r.keyspace.IsWritable) ∧
      "-- " ++ r.keyspace.name ++ " generation " ++ toString r.generation ++ "\n\n" ++
        r.keyspace.fullCql = text := by
  simp only [description, bind_eq_ok_iff, Text.writeInteger_eq_ok_iff, Keyspace.cql_eq_ok_iff,
    pure, Except.pure, Except.ok.injEq]
  constructor
  · rintro ⟨_, ⟨hgeneration, rfl⟩, _, ⟨hkeyspace, rfl⟩, rfl⟩
    exact ⟨⟨hgeneration, hkeyspace⟩, rfl⟩
  · rintro ⟨⟨hgeneration, hkeyspace⟩, rfl⟩
    exact ⟨_, ⟨hgeneration, rfl⟩, _, ⟨hkeyspace, rfl⟩, rfl⟩

/-- A description that is given writes a keyspace of the declared tables. -/
theorem describe_outcome_eq_ok {text : String}
    (h : (describe s source path? factor?).outcome = .ok text) :
    ∃ k : Keyspace, text = heading ++ k.fullCql ∧
      k.MadeFrom Declared.keyspaceName s.replicationFloor
        (factor?.or (configuredFactor? s source path?)) Declared.declarations := by
  rw [outcome_describe] at h
  obtain ⟨b, hb, h₁⟩ := bind_eq_ok_iff.1 h
  obtain ⟨r, hr, h₂⟩ := bind_eq_ok_iff.1 h₁
  rw [mapError_eq_ok_iff] at hb h₂
  obtain ⟨hfloor, hconfigured⟩ := load_outcome_eq_ok hb
  obtain ⟨hfloor', hconfigured'⟩ := withFactor_fields factor? b
  obtain ⟨k, rfl, hmade⟩ := start_outcome_eq_ok hr
  rw [hfloor', hfloor, hconfigured', hconfigured] at hmade
  refine ⟨k, ?_, hmade⟩
  obtain ⟨-, htext⟩ := Registry.description_eq_ok_iff.1 h₂
  have hname : (registryOf (withFactor factor? b) k).keyspace.name = Declared.keyspaceName :=
    hmade.name_eq
  rw [hname] at htext
  exact htext.symm

/-- A description is given if loading gives something, the floor is one or more,
no number of copies is negative and the one in the end can be written. -/
theorem exists_describe {b : Bootstrap} (hb : (load s source path?).outcome = .ok b)
    (hfloor : 1 ≤ s.replicationFloor) (hfactor : ∀ c ∈ factor?.or b.configuredFactor?, 0 ≤ c)
    (hshort : Text.IsWritable (describedFactor s source path? factor?)) :
    ∃ text, (describe s source path? factor?).outcome = .ok text := by
  obtain ⟨hloaded, hconfigured⟩ := load_outcome_eq_ok hb
  obtain ⟨hfloor', hconfigured'⟩ := withFactor_fields factor? b
  rw [← hloaded, ← hfloor'] at hfloor
  rw [← hconfigured'] at hfactor
  obtain ⟨k, hk, hmade⟩ := start_of_le hfloor hfactor
  rw [describedFactor, ← hconfigured, ← hconfigured', ← hloaded, ← hfloor', ← hmade.factor_eq]
    at hshort
  rw [outcome_describe, hb]
  show ∃ text, ((start (withFactor factor? b) .standard).outcome >>= fun r =>
    r.description.mapError .numberTooLong) = .ok text
  have hgeneration : Text.IsWritable Declared.currentGeneration := by decide +kernel
  rw [hk, ok_bind, Registry.description_eq_ok_iff.2
    ⟨⟨hgeneration, hshort, hmade.built.forall_isWritable⟩, rfl⟩]
  exact ⟨_, rfl⟩

theorem configuredFactor?_of_absent (h : path?.or s.configPath? = none) :
    configuredFactor? s source path? = none := by
  rw [configuredFactor?, h]
  rfl

theorem configuredFactor?_of_useless {path : String} (hpath : path?.or s.configPath? = some path)
    (h : Useless source path) : configuredFactor? s source path? = none := by
  obtain ⟨defect, hread⟩ := read_of_useless h
  rw [configuredFactor?_of_read hpath, hread]
  rfl

theorem configuredFactor?_of_finds {conf : Yaml.Entries} {path : String}
    (hpath : path?.or s.configPath? = some path) (h : Finds source path conf) :
    configuredFactor? s source path? = usable? conf factorKey := by
  rw [configuredFactor?_of_read hpath, read_of_finds h]
  rfl

/-! ## Two descriptions -/

/-- A description tells the number of copies in the end and nothing else. That is
the larger of the floor and the number that is given or, where none is given, of
the floor and the number in the node config that can be used; where there is none
of either, it is the floor. In particular no entry of a node config shows but the
number of copies, so not the delay. -/
theorem describe_exact {text text' : String}
    (h : (describe s source path? factor?).outcome = .ok text)
    (h' : (describe s' source' path?' factor?').outcome = .ok text') :
    (text = text' ↔
      describedFactor s source path? factor? = describedFactor s' source' path?' factor?') ∧
    (path?.or s.configPath? = none → describedFactor s source path? factor? =
      effectiveFactor s.replicationFloor factor?) ∧
    (∀ path, path?.or s.configPath? = some path → Useless source path →
      describedFactor s source path? factor? = effectiveFactor s.replicationFloor factor?) ∧
    (∀ path conf, path?.or s.configPath? = some path → Finds source path conf →
      describedFactor s source path? factor? =
        effectiveFactor s.replicationFloor (factor?.or (usable? conf factorKey))) ∧
    ∀ path path' conf conf', path?.or s.configPath? = some path →
      path?'.or s'.configPath? = some path' → Finds source path conf → Finds source' path' conf' →
        (conf.lookup factorKey).map Thunk.get = (conf'.lookup factorKey).map Thunk.get →
          s.replicationFloor = s'.replicationFloor → factor? = factor?' → text = text' := by
  obtain ⟨k, rfl, hk⟩ := describe_outcome_eq_ok h
  obtain ⟨l, rfl, hl⟩ := describe_outcome_eq_ok h'
  have hiff : heading ++ k.fullCql = heading ++ l.fullCql ↔
      describedFactor s source path? factor? = describedFactor s' source' path?' factor?' := by
    rw [describedFactor, describedFactor, ← hk.fullCql_eq_iff hl, ← String.toList_inj,
      String.toList_append, String.toList_append, List.append_cancel_left_eq, String.toList_inj]
  refine ⟨hiff, ?_, ?_, ?_, ?_⟩
  · intro hpath
    rw [describedFactor, configuredFactor?_of_absent hpath, Option.or_none]
  · intro path hpath huseless
    rw [describedFactor, configuredFactor?_of_useless hpath huseless, Option.or_none]
  · intro path conf hpath hfinds
    rw [describedFactor, configuredFactor?_of_finds hpath hfinds]
  · intro path path' conf conf' hpath hpath' hfinds hfinds' hentry hfloor hfactor
    have hconfigured : configuredFactor? s source path? = configuredFactor? s' source' path?' := by
      rw [configuredFactor?_of_finds hpath hfinds, configuredFactor?_of_finds hpath' hfinds',
        usable?, usable?, hentry]
    rw [hiff, describedFactor, describedFactor, hconfigured, hfloor, hfactor]

/-- Three copies are described the same, whether they are read from a node config
or given. -/
theorem describe_exact_threeCopies :
    describedFactor {} threeCopiesSource (some "node.yaml") none = 3 ∧
      ∃ text, (describe {} threeCopiesSource (some "node.yaml") none).outcome = .ok text ∧
        (describe {} threeCopiesSource none (some 3)).outcome = .ok text := by
  have hd : Bootstrap.defaultDelay {} = .ok ⟨10000000, by decide, by decide⟩ := rfl
  have hload : (load {} threeCopiesSource (some "node.yaml")).outcome =
      .ok ⟨some 3, 1, ⟨10000000, by decide, by decide⟩⟩ := by
    rw [load_of_path rfl, loadFrom_of_read (read_of_finds finds_threeCopies)]
    rfl
  have hread : describedFactor {} threeCopiesSource (some "node.yaml") none = 3 := by
    rw [describedFactor, configuredFactor?_of_finds rfl finds_threeCopies]
    decide
  have hshort : Text.IsWritable 3 := by decide +kernel
  obtain ⟨text, htext⟩ :
      ∃ text, (describe {} threeCopiesSource (some "node.yaml") none).outcome = .ok text :=
    exists_describe hload (by decide) (by decide) (by rw [hread]; exact hshort)
  obtain ⟨text', htext'⟩ :
      ∃ text, (describe {} threeCopiesSource none (some 3)).outcome = .ok text :=
    exists_describe (load_of_absent hd rfl).1 (by decide) (by decide) hshort
  obtain ⟨hiff, -, -, hfinds, -⟩ := describe_exact htext htext'
  have hsame : text = text' := hiff.2 ((hfinds "node.yaml" threeCopies rfl finds_threeCopies).trans
    (by decide))
  exact ⟨hread, text, htext, by rw [hsame, htext']⟩

end Startup

end AuthKeyspace
