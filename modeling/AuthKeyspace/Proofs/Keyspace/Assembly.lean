import AuthKeyspace.Keyspace.Assembly
import AuthKeyspace.Proofs.Except
import Mathlib.Data.Finset.Card
import Mathlib.Data.List.Forall2

/-!
# Assembly is exact and ordered

Three things can stop an assembly, and they are looked at one after the other:
the number of copies, the declarations in their order, and last whether two
tables share a name. So what comes first decides (`assemble_exact`): a floor
below one or a configured number below zero stops it before any table is built,
the first declaration that cannot be built stops it with its own failure
whatever stands behind it, and only tables that all were built can be found to
share a name.

An assembly that is not stopped makes a keyspace that is `MadeFrom` the
declarations: one table for each of them in their order, no more and no fewer.
The tables keep the names of their declarations, so a look-up finds the table
of a declaration by the name that was declared.
-/

namespace AuthKeyspace

open AuthKeyspace.Table AuthKeyspace.Log

/-! ## The number of copies -/

/-- The number of copies that a floor and a configured number make. -/
def effectiveFactor (floor : Int) (configured? : Option Int) : Int :=
  configured?.elim floor (max floor)

/-- There are never fewer copies than the floor asks for. -/
theorem floor_le_effectiveFactor (floor : Int) (configured? : Option Int) :
    floor ≤ effectiveFactor floor configured? := by
  cases configured? with
  | none => exact Int.le_refl floor
  | some c => exact Int.le_max_left floor c

theorem resolveFactor_of_lt {floor : Int} (h : floor < 1) (configured? : Option Int) :
    resolveFactor floor configured? = ⟨[], .error (.lowFloor floor)⟩ := by
  rw [resolveFactor, dif_neg (Int.not_le.2 h)]

theorem resolveFactor_of_negative {floor configured : Int} (h : 1 ≤ floor)
    (hneg : configured < 0) :
    resolveFactor floor (some configured) = ⟨[], .error (.negative configured)⟩ := by
  rw [resolveFactor, dif_pos h]
  exact if_pos hneg

theorem resolveFactor_outcome_eq_ok_iff {floor : Int} {configured? : Option Int}
    {r : Replication} :
    (resolveFactor floor configured?).outcome = .ok r ↔
      1 ≤ floor ∧ (∀ c ∈ configured?, 0 ≤ c) ∧ r.factor = effectiveFactor floor configured? := by
  obtain ⟨factor, hfactor⟩ := r
  by_cases h : 1 ≤ floor
  · cases configured? with
    | none => simp [resolveFactor, h, effectiveFactor, eq_comm]
    | some c =>
      by_cases hc : c < 0
      · simp [resolveFactor_of_negative h hc, hc]
      · rw [resolveFactor_outcome_of_le h (Int.not_lt.1 hc)]
        simp [h, Int.not_lt.1 hc, effectiveFactor, eq_comm]
  · simp [resolveFactor_of_lt (Int.not_le.1 h), h]

theorem exists_resolveFactor {floor : Int} {configured? : Option Int} (hfloor : 1 ≤ floor)
    (hconfigured : ∀ c ∈ configured?, 0 ≤ c) :
    ∃ r, (resolveFactor floor configured?).outcome = .ok r := by
  have hfactor : 1 ≤ effectiveFactor floor configured? :=
    Int.le_trans hfloor (floor_le_effectiveFactor floor configured?)
  exact ⟨⟨_, hfactor⟩, resolveFactor_outcome_eq_ok_iff.2 ⟨hfloor, hconfigured, rfl⟩⟩

/-! ## The tables -/

namespace Table

theorem Descriptor.outcome_buildLogged (keyspace : String) (d : Declaration) :
    (Descriptor.buildLogged keyspace d).outcome = Descriptor.build keyspace d := by
  unfold Descriptor.buildLogged
  split
  · next e h => rw [h]
  · next t h => rw [h]

/-- Tables are the ones that the declarations make, one for each in their order. -/
def BuiltFrom (keyspace : String) (ds : List Declaration) (ts : List Descriptor) : Prop :=
  List.Forall₂ (fun d t => Descriptor.build keyspace d = .ok t) ds ts

theorem BuiltFrom.names_eq {keyspace : String} {ds : List Declaration} {ts : List Descriptor}
    (h : BuiltFrom keyspace ds ts) : ts.map (·.name) = ds.map (·.name) := by
  induction h with
  | nil => rfl
  | cons hbuild _ ih => rw [List.map_cons, List.map_cons, ih, (Descriptor.build_name hbuild).1]

theorem BuiltFrom.exists_of_mem {keyspace : String} {ds : List Declaration}
    {ts : List Descriptor} (h : BuiltFrom keyspace ds ts) {d : Declaration} (hd : d ∈ ds) :
    ∃ t ∈ ts, Descriptor.build keyspace d = .ok t := by
  induction h with
  | nil => cases hd
  | @cons e u es us hbuild _ ih =>
    rcases List.mem_cons.1 hd with rfl | hd
    · exact ⟨u, List.mem_cons_self .., hbuild⟩
    · obtain ⟨t, ht, htd⟩ := ih hd
      exact ⟨t, List.mem_cons_of_mem _ ht, htd⟩

theorem exists_builtFrom {keyspace : String} {ds : List Declaration}
    (h : ∀ d ∈ ds, ∃ t, Descriptor.build keyspace d = .ok t) : ∃ ts, BuiltFrom keyspace ds ts := by
  induction ds with
  | nil => exact ⟨[], .nil⟩
  | cons d ds ih =>
    obtain ⟨t, ht⟩ := h d (List.mem_cons_self ..)
    obtain ⟨ts, hts⟩ := ih fun e he => h e (List.mem_cons_of_mem _ he)
    exact ⟨t :: ts, .cons ht hts⟩

end Table

theorem outcome_buildTables_cons (keyspace : String) (d : Declaration) (ds : List Declaration) :
    (buildTables keyspace (d :: ds)).outcome =
      Descriptor.build keyspace d >>= fun t =>
        (buildTables keyspace ds).outcome >>= fun ts => .ok (t :: ts) := by
  simp only [buildTables, Logged.outcome_bind, Descriptor.outcome_buildLogged,
    Logged.outcome_pure]

theorem buildTables_outcome_eq_ok_iff {keyspace : String} {ds : List Declaration}
    {ts : List Descriptor} :
    (buildTables keyspace ds).outcome = .ok ts ↔ BuiltFrom keyspace ds ts := by
  induction ds generalizing ts with
  | nil =>
    rw [BuiltFrom, List.forall₂_nil_left_iff]
    exact ⟨fun h => (Except.ok.inj h).symm, fun h => congrArg Except.ok h.symm⟩
  | cons d ds ih =>
    rw [outcome_buildTables_cons, bind_eq_ok_iff, BuiltFrom, List.forall₂_cons_left_iff]
    constructor
    · intro h
      obtain ⟨t, ht, h⟩ := h
      obtain ⟨us, hus, h⟩ := bind_eq_ok_iff.1 h
      exact ⟨t, us, ht, ih.1 hus, (Except.ok.inj h).symm⟩
    · intro h
      obtain ⟨t, us, ht, hus, rfl⟩ := h
      exact ⟨t, ht, bind_eq_ok_iff.2 ⟨us, ih.2 hus, rfl⟩⟩

/-- The first declaration that cannot be built is what stops the building. -/
theorem buildTables_outcome_of_first {keyspace : String} {before after : List Declaration}
    {d : Declaration} {e : BuildError}
    (hbefore : ∀ b ∈ before, ∃ t, Descriptor.build keyspace b = .ok t)
    (hd : Descriptor.build keyspace d = .error e) :
    (buildTables keyspace (before ++ d :: after)).outcome = .error e := by
  induction before with
  | nil =>
    rw [List.nil_append, outcome_buildTables_cons, hd]
    rfl
  | cons b before ih =>
    obtain ⟨t, ht⟩ := hbefore b (List.mem_cons_self ..)
    rw [List.cons_append, outcome_buildTables_cons, ht, ok_bind,
      ih fun c hc => hbefore c (List.mem_cons_of_mem _ hc)]
    rfl

/-! ## The keyspace -/

namespace Keyspace

/-- The keyspace is what an assembly makes of the declarations: it has the name
and the copies that were asked for, and one table for each declaration. -/
structure MadeFrom (name : String) (floor : Int) (configured? : Option Int)
    (ds : List Declaration) (k : Keyspace) : Prop where
  name_eq : k.name = name
  factor_eq : k.replication.factor = effectiveFactor floor configured?
  durable : k.durableWrites = true
  built : BuiltFrom name ds k.tables

variable {name : String} {floor : Int} {configured? : Option Int} {ds : List Declaration}
  {k : Keyspace}

theorem MadeFrom.tableNames_eq (h : MadeFrom name floor configured? ds k) :
    k.tableNames = ds.map (·.name) := h.built.names_eq

/-- No table is lost: the set of names has as many members as there are
declarations. -/
theorem MadeFrom.card_tableNames (h : MadeFrom name floor configured? ds k) :
    k.tableNames.toFinset.card = ds.length := by
  have hnodup : k.tableNames.Nodup := k.names_nodup
  rw [List.toFinset_card_of_nodup hnodup, h.tableNames_eq, List.length_map]

/-- No table is shadowed: each declaration's table is found by its name. -/
theorem MadeFrom.table?_of_mem (h : MadeFrom name floor configured? ds k) {d : Declaration}
    (hd : d ∈ ds) : ∃ t, Descriptor.build name d = .ok t ∧ k.table? d.name = some t := by
  obtain ⟨t, ht, hbuild⟩ := h.built.exists_of_mem hd
  exact ⟨t, hbuild, table?_eq_some_iff.2 ⟨ht, (Descriptor.build_name hbuild).1⟩⟩

theorem MadeFrom.table?_eq_none_iff (h : MadeFrom name floor configured? ds k) {n : String} :
    k.table? n = none ↔ ∀ d ∈ ds, d.name ≠ n := by
  have hnames : (∀ t ∈ k.tables, t.name ≠ n) ↔ n ∉ k.tableNames := by
    simp [tableNames]
  rw [table?, List.find?_eq_none]
  simp only [beq_iff_eq]
  rw [hnames, h.tableNames_eq]
  simp

theorem ofTables_of_not_nodup {replication : Replication} {ts : List Descriptor} {durable : Bool}
    (h : ¬ (ts.map (·.name)).Nodup) :
    ofTables name replication ts durable = .error ⟨name, repeatedNames (ts.map (·.name))⟩ :=
  dif_neg h

/-- With the number of copies settled, an assembly builds the tables and puts
them together. -/
theorem outcome_assemble {r : Replication}
    (hr : (resolveFactor floor configured?).outcome = .ok r) :
    (assemble name floor configured? ds).outcome =
      (buildTables name ds).outcome.mapError .table >>= fun ts =>
        (ofTables name r ts true).mapError .duplicateNames := by
  simp only [assemble, Logged.outcome_bind, Logged.outcome_mapError, Logged.outcome_ofExcept, hr]
  rfl

theorem assemble_of_factorFault {fault : FactorFault}
    (h : resolveFactor floor configured? = ⟨[], .error fault⟩) :
    assemble name floor configured? ds = ⟨[], .error (.factor fault)⟩ := by
  rw [assemble, h]
  rfl

theorem assemble_outcome_eq_ok_iff :
    (assemble name floor configured? ds).outcome = .ok k ↔
      1 ≤ floor ∧ (∀ c ∈ configured?, 0 ≤ c) ∧ MadeFrom name floor configured? ds k := by
  constructor
  · intro h
    rw [assemble, Logged.outcome_bind, bind_eq_ok_iff] at h
    obtain ⟨r, hr, h⟩ := h
    rw [Logged.outcome_mapError, mapError_eq_ok_iff] at hr
    rw [Logged.outcome_bind, bind_eq_ok_iff] at h
    obtain ⟨ts, hts, h⟩ := h
    rw [Logged.outcome_mapError, mapError_eq_ok_iff, buildTables_outcome_eq_ok_iff] at hts
    rw [Logged.outcome_ofExcept, mapError_eq_ok_iff, ofTables_eq_ok_iff] at h
    obtain ⟨hfloor, hconfigured, hfactor⟩ := resolveFactor_outcome_eq_ok_iff.1 hr
    obtain ⟨hname, hreplication, htables, hdurable⟩ := h
    refine ⟨hfloor, hconfigured, hname, ?_, hdurable, ?_⟩
    · rw [hreplication, hfactor]
    · rw [htables]
      exact hts
  · intro h
    obtain ⟨hfloor, hconfigured, hname, hfactor, hdurable, hbuilt⟩ := h
    have hr := resolveFactor_outcome_eq_ok_iff.2 ⟨hfloor, hconfigured, hfactor⟩
    rw [outcome_assemble hr, buildTables_outcome_eq_ok_iff.2 hbuilt]
    exact mapError_eq_ok_iff.2 (ofTables_eq_ok_iff.2 ⟨hname, rfl, rfl, hdurable⟩)

/-- A keyspace is made from declarations of distinct names that can all be
built. -/
theorem exists_assemble (hfloor : 1 ≤ floor) (hconfigured : ∀ c ∈ configured?, 0 ≤ c)
    (hbuild : ∀ d ∈ ds, ∃ t, Descriptor.build name d = .ok t)
    (hnodup : (ds.map (·.name)).Nodup) :
    ∃ k, (assemble name floor configured? ds).outcome = .ok k := by
  obtain ⟨ts, hts⟩ := exists_builtFrom hbuild
  obtain ⟨r, hr⟩ := exists_resolveFactor hfloor hconfigured
  obtain ⟨-, -, hfactor⟩ := resolveFactor_outcome_eq_ok_iff.1 hr
  have hnames : (ts.map (·.name)).Nodup := by
    rw [hts.names_eq]
    exact hnodup
  exact ⟨⟨name, r, ts, true, hnames⟩,
    assemble_outcome_eq_ok_iff.2 ⟨hfloor, hconfigured, rfl, hfactor, rfl, hts⟩⟩

end Keyspace

/-- What an assembly gives, whatever it is asked for. The copies come first,
then the declarations one by one, then the names; what is made of declarations
that all pass has a table for each of them, which is found by its name. -/
theorem assemble_exact (name : String) (floor : Int) (configured? : Option Int)
    (ds : List Declaration) :
    (floor < 1 →
      Keyspace.assemble name floor configured? ds = ⟨[], .error (.factor (.lowFloor floor))⟩) ∧
    (∀ c, 1 ≤ floor → configured? = some c → c < 0 →
      Keyspace.assemble name floor configured? ds = ⟨[], .error (.factor (.negative c))⟩) ∧
    (1 ≤ floor → (∀ c ∈ configured?, 0 ≤ c) →
      (∀ before d after e, ds = before ++ d :: after →
        (∀ b ∈ before, ∃ t, Descriptor.build name b = .ok t) →
          Descriptor.build name d = .error e →
            (Keyspace.assemble name floor configured? ds).outcome = .error (.table e)) ∧
      ((∀ d ∈ ds, ∃ t, Descriptor.build name d = .ok t) → ¬ (ds.map (·.name)).Nodup →
        (Keyspace.assemble name floor configured? ds).outcome =
          .error (.duplicateNames ⟨name, repeatedNames (ds.map (·.name))⟩)) ∧
      ((∀ d ∈ ds, ∃ t, Descriptor.build name d = .ok t) → (ds.map (·.name)).Nodup →
        ∃ k, (Keyspace.assemble name floor configured? ds).outcome = .ok k ∧
          k.MadeFrom name floor configured? ds ∧
          k.tableNames.toFinset.card = ds.length ∧
          (∀ d ∈ ds, ∃ t, Descriptor.build name d = .ok t ∧ k.table? d.name = some t) ∧
          ∀ n, k.table? n = none ↔ ∀ d ∈ ds, d.name ≠ n)) := by
  refine ⟨?_, ?_, ?_⟩
  · intro hfloor
    exact Keyspace.assemble_of_factorFault (resolveFactor_of_lt hfloor configured?)
  · intro c hfloor hsome hneg
    subst hsome
    exact Keyspace.assemble_of_factorFault (resolveFactor_of_negative hfloor hneg)
  · intro hfloor hconfigured
    obtain ⟨r, hr⟩ := exists_resolveFactor hfloor hconfigured
    refine ⟨?_, ?_, ?_⟩
    · intro before d after e hsplit hbefore hfails
      rw [Keyspace.outcome_assemble hr, hsplit, buildTables_outcome_of_first hbefore hfails]
      rfl
    · intro hbuild hrepeated
      obtain ⟨ts, hts⟩ := exists_builtFrom hbuild
      rw [← hts.names_eq] at hrepeated ⊢
      rw [Keyspace.outcome_assemble hr, buildTables_outcome_eq_ok_iff.2 hts]
      show (Keyspace.ofTables name r ts true).mapError AssemblyError.duplicateNames = _
      rw [Keyspace.ofTables_of_not_nodup hrepeated]
      rfl
    · intro hbuild hnodup
      obtain ⟨k, hk⟩ := Keyspace.exists_assemble hfloor hconfigured hbuild hnodup
      obtain ⟨-, -, hmade⟩ := Keyspace.assemble_outcome_eq_ok_iff.1 hk
      exact ⟨k, hk, hmade, hmade.card_tableNames, fun d hd => hmade.table?_of_mem hd,
        fun n => hmade.table?_eq_none_iff⟩

end AuthKeyspace
