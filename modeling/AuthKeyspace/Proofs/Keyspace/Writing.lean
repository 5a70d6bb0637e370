import AuthKeyspace.Keyspace.Basic
import AuthKeyspace.Proofs.Except

/-!
# When a keyspace can be written

A number that is too long is not written, and neither is anything that shows it.
A keyspace shows four numbers: its copies, and for each table the seconds, the
kilobytes and the milliseconds of the options. Unless one of them is too long
the keyspace is written, and then in one way only (`Keyspace.cql_eq_ok_iff`).

That way is `Keyspace.fullCql`, which writes every number, however long it is.
Every keyspace has it, so what can be told from a text of a keyspace, and where
the text can be cut, is proved of it.
-/

namespace AuthKeyspace

open AuthKeyspace.Cql AuthKeyspace.Table

/-! ## Tables -/

namespace Table.Options

/-- None of the numbers among the options is too long. -/
structure IsWritable (o : Options) : Prop where
  seconds : Text.IsWritable o.graceSeconds
  kilobytes : Text.IsWritable o.chunkKilobytes
  millis : Text.IsWritable o.flushMillis

/-- The options of the compressor, the number being written in full. -/
def fullCompression (o : Options) : List (String × String) :=
  [("class", "LZ4Compressor"), ("chunk_length_in_kb", toString o.chunkKilobytes)]

/-- The clause that sets the options, the numbers being written in full. -/
def fullCql (o : Options) : String :=
  "WITH comment = " ++ literal o.comment ++
    "\n    AND gc_grace_seconds = " ++ toString o.graceSeconds ++
    "\n    AND compression = " ++ mapLiteral o.fullCompression ++
    "\n    AND memtable_flush_period_in_ms = " ++ toString o.flushMillis

theorem compression_eq_ok_iff {o : Options} {entries : List (String × String)} :
    o.compression = .ok entries ↔
      Text.IsWritable o.chunkKilobytes ∧ o.fullCompression = entries :=
  bind_pure_eq_ok_iff fun _ => Text.writeInteger_eq_ok_iff

theorem cql_eq_ok_iff {o : Options} {text : String} :
    o.cql = .ok text ↔ o.IsWritable ∧ o.fullCql = text := by
  simp only [cql, bind_eq_ok_iff, Text.writeInteger_eq_ok_iff, compression_eq_ok_iff, pure,
    Except.pure, Except.ok.injEq]
  constructor
  · rintro ⟨_, ⟨hseconds, rfl⟩, _, ⟨hkilobytes, rfl⟩, _, ⟨hmillis, rfl⟩, rfl⟩
    exact ⟨⟨hseconds, hkilobytes, hmillis⟩, rfl⟩
  · rintro ⟨⟨hseconds, hkilobytes, hmillis⟩, rfl⟩
    exact ⟨_, ⟨hseconds, rfl⟩, _, ⟨hkilobytes, rfl⟩, _, ⟨hmillis, rfl⟩, rfl⟩

end Table.Options

namespace Table.Descriptor

/-- The statement of a table, the numbers being written in full. -/
def fullCql (d : Descriptor) (guarded : Bool) : String :=
  d.layout.cql guarded ++ "\n    " ++ d.options.fullCql ++ ";"

theorem cql_eq_ok_iff {d : Descriptor} {guarded : Bool} {text : String} :
    d.cql guarded = .ok text ↔ d.options.IsWritable ∧ d.fullCql guarded = text :=
  bind_pure_eq_ok_iff fun _ => Options.cql_eq_ok_iff

end Table.Descriptor

/-! ## Keyspaces -/

namespace Replication

/-- Replication as options of a keyspace, the number being written in full. -/
def fullOptions (r : Replication) : List (String × String) :=
  [("class", strategy), ("replication_factor", toString r.factor)]

theorem options_eq_ok_iff {r : Replication} {entries : List (String × String)} :
    r.options = .ok entries ↔ Text.IsWritable r.factor ∧ r.fullOptions = entries :=
  bind_pure_eq_ok_iff fun _ => Text.writeInteger_eq_ok_iff

end Replication

namespace Keyspace

/-- None of the numbers in a keyspace is too long. -/
structure IsWritable (k : Keyspace) : Prop where
  copies : Text.IsWritable k.replication.factor
  options : ∀ t ∈ k.tables, t.options.IsWritable

/-- The statement that creates the keyspace, the number being written in full. -/
def createFullCql (k : Keyspace) (guarded : Bool) : String :=
  "CREATE KEYSPACE " ++ guardCql guarded ++ quoteName k.name ++ " WITH replication = " ++
    mapLiteral k.replication.fullOptions ++ " AND durable_writes = " ++
    (if k.durableWrites then "true" else "false") ++ ";"

/-- The statements of a keyspace and its tables, the numbers being written in
full. -/
def fullCql (k : Keyspace) : String :=
  "\n\n".intercalate (k.createFullCql true :: k.tables.map fun t => t.fullCql true)

theorem createCql_eq_ok_iff {k : Keyspace} {guarded : Bool} {text : String} :
    k.createCql guarded = .ok text ↔
      Text.IsWritable k.replication.factor ∧ k.createFullCql guarded = text :=
  bind_pure_eq_ok_iff fun _ => Replication.options_eq_ok_iff

theorem tables_eq_ok_iff {k : Keyspace} {texts : List String} :
    k.tables.mapM (fun t => t.cql true) = .ok texts ↔
      (∀ t ∈ k.tables, t.options.IsWritable) ∧ k.tables.map (fun t => t.fullCql true) = texts :=
  mapM_eq_ok_iff fun _ _ => Descriptor.cql_eq_ok_iff

/-- A keyspace is written exactly if no number in it is too long, and then as
its text in full. -/
theorem cql_eq_ok_iff {k : Keyspace} {text : String} :
    k.cql = .ok text ↔ k.IsWritable ∧ k.fullCql = text := by
  simp only [cql, bind_eq_ok_iff, createCql_eq_ok_iff, tables_eq_ok_iff, pure, Except.pure,
    Except.ok.injEq]
  constructor
  · rintro ⟨_, ⟨hcopies, rfl⟩, _, ⟨hoptions, rfl⟩, rfl⟩
    exact ⟨⟨hcopies, hoptions⟩, rfl⟩
  · rintro ⟨⟨hcopies, hoptions⟩, rfl⟩
    exact ⟨_, ⟨hcopies, rfl⟩, _, ⟨hoptions, rfl⟩, rfl⟩

/-- A keyspace with a number that is too long is not written. -/
theorem cql_of_not_isWritable {k : Keyspace} (h : ¬ k.IsWritable) : k.cql = .error ⟨⟩ := by
  cases hcql : k.cql with
  | error e => rfl
  | ok text => exact absurd (cql_eq_ok_iff.1 hcql).1 h

end Keyspace

end AuthKeyspace
