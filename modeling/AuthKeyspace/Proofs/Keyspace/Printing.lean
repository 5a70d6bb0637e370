import AuthKeyspace.Proofs.Cql.Printing
import AuthKeyspace.Proofs.Keyspace.Writing
import Mathlib.Data.List.Forall2

/-!
# What a keyspace is written from can be told from it

The statements of a keyspace, where it can be written, determine what they create
(`Keyspace.cql_eq_cql_iff`): the keyspace, its copies and its durability, and
for each table in order the names, the columns, the key and the options. A
table's description and identifier are not written, and neither is the name it
is known by. Nothing that is written, a comment least of all, can pass for the
end of a statement and the beginning of another.

Each option ends by itself: a literal at its closing quote, a number where its
digits end.
-/

namespace AuthKeyspace

open AuthKeyspace.Cql AuthKeyspace.Table AuthKeyspace.Text

/-! ## Options -/

/-- A map of a class and one other entry is written in that order. -/
theorem toList_mapLiteral_pair (v key w : String) (rest : List Char) :
    (mapLiteral [("class", v), (key, w)]).toList ++ rest =
      "\x7b'class': ".toList ++ ((literal v).toList ++ (", ".toList ++ ((literal key).toList ++
        (": ".toList ++ ((literal w).toList ++ ("\x7d".toList ++ rest)))))) := by
  -- the class comes before any other key
  have hsorted : [("class", v), (key, w)].mergeSort (fun a b => mapOrder a.1 b.1) =
      [("class", v), (key, w)] := List.mergeSort_of_pairwise (by simp [mapOrder])
  have hclass : (literal "class").toList = "'class'".toList := by decide
  unfold mapLiteral
  rw [hsorted]
  simp [mapEntry, hclass, String.intercalate_cons_cons]

/-- The values of such a map can be told from it. -/
theorem mapLiteral_pair_append {v w v' w' key : String} {r s : List Char}
    (heq : (mapLiteral [("class", v), (key, w)]).toList ++ r =
      (mapLiteral [("class", v'), (key, w')]).toList ++ s) : v = v' ∧ w = w' ∧ r = s := by
  rw [toList_mapLiteral_pair, toList_mapLiteral_pair] at heq
  obtain ⟨rfl, hkey⟩ := delimited_literal (apart_append _)
    (apart_append _) (List.append_cancel_left heq)
  have hvalue := List.append_cancel_left (List.append_cancel_left (List.append_cancel_left hkey))
  obtain ⟨rfl, hclose⟩ := delimited_literal (apart_append _) (apart_append _) hvalue
  exact ⟨rfl, rfl, List.append_cancel_left hclose⟩

theorem toString_int_injective {a b : Int} (h : toString a = toString b) : a = b :=
  delimited_int.injective apart_nil (congrArg String.toList h)

theorem toList_options (o : Options) (rest : List Char) :
    o.fullCql.toList ++ rest = "WITH comment = ".toList ++ ((literal o.comment).toList ++
      ("\n    AND gc_grace_seconds = ".toList ++ ((toString o.graceSeconds).toList ++
        ("\n    AND compression = ".toList ++ ((mapLiteral o.fullCompression).toList ++
          ("\n    AND memtable_flush_period_in_ms = ".toList ++
            ((toString o.flushMillis).toList ++ rest))))))) := by
  show ("WITH comment = " ++ literal o.comment ++
    "\n    AND gc_grace_seconds = " ++ toString o.graceSeconds ++
    "\n    AND compression = " ++ mapLiteral o.fullCompression ++
    "\n    AND memtable_flush_period_in_ms = " ++ toString o.flushMillis).toList ++ rest = _
  simp only [String.toList_append, List.append_assoc]

/-- The options of a table end where the last number does. -/
theorem delimited_options :
    Delimited (Apart (·.isDigit)) (fun o : Options => o.fullCql.toList) := by
  intro o p r s hr hs heq
  simp only [toList_options] at heq
  obtain ⟨hcomment, hrest₁⟩ := delimited_literal (apart_append _)
    (apart_append _) (List.append_cancel_left heq)
  obtain ⟨hgrace, hrest₂⟩ := delimited_int (apart_append _)
    (apart_append _) (List.append_cancel_left hrest₁)
  obtain ⟨-, hchunk, hrest₃⟩ := mapLiteral_pair_append (List.append_cancel_left hrest₂)
  obtain ⟨hflush, rfl⟩ := delimited_int hr hs (List.append_cancel_left hrest₃)
  obtain ⟨comment, grace, chunk, flush⟩ := o
  obtain ⟨comment', grace', chunk', flush'⟩ := p
  obtain rfl : comment = comment' := hcomment
  obtain rfl : grace = grace' := hgrace
  obtain rfl : chunk = chunk' := toString_int_injective hchunk
  obtain rfl : flush = flush' := hflush
  exact ⟨rfl, rfl⟩

/-! ## Tables -/

/-- The same is written of both tables: their names, their columns and key, and
their options. -/
structure SameStatement (d e : Descriptor) : Prop where
  qualifiedName_eq : d.layout.qualifiedName = e.layout.qualifiedName
  columns_eq : d.layout.columns = e.layout.columns
  primaryKey_eq : d.layout.primaryKey = e.layout.primaryKey
  options_eq : d.options = e.options

theorem toList_descriptor (d : Descriptor) (guarded : Bool) (rest : List Char) :
    (d.fullCql guarded).toList ++ rest = (d.layout.cql guarded).toList ++ ("\n    ".toList ++
      (d.options.fullCql.toList ++ (";".toList ++ rest))) := by
  show (d.layout.cql guarded ++ "\n    " ++ d.options.fullCql ++ ";").toList ++ rest = _
  simp only [String.toList_append, List.append_assoc]

/-- The statement of a table ends at its semicolon, which is the first outside
of quotes. -/
theorem descriptor_fullCql_append {d e : Descriptor} {guarded : Bool} {r s : List Char}
    (heq : (d.fullCql guarded).toList ++ r = (e.fullCql guarded).toList ++ s) :
    SameStatement d e ∧ r = s := by
  rw [toList_descriptor, toList_descriptor] at heq
  obtain ⟨hname, hcolumns, hkey, hrest⟩ := structure_cql_append heq
  obtain ⟨hoptions, hend⟩ := delimited_options (apart_append _)
    (apart_append _) (List.append_cancel_left hrest)
  exact ⟨⟨hname, hcolumns, hkey, hoptions⟩, List.append_cancel_left hend⟩

theorem SameStatement.fullCql_eq {d e : Descriptor} (h : SameStatement d e) (guarded : Bool) :
    d.fullCql guarded = e.fullCql guarded := by
  have hlayout : d.layout.cql guarded = e.layout.cql guarded := by
    rw [← String.toList_inj, Structure.toList_cql, Structure.toList_cql, h.qualifiedName_eq,
      h.columns_eq, h.primaryKey_eq]
  show d.layout.cql guarded ++ "\n    " ++ d.options.fullCql ++ ";" = _
  rw [hlayout, h.options_eq]
  rfl

/-- The statements of tables, each behind a blank line. -/
def tablesCql (tables : List Descriptor) : List Char :=
  tables.flatMap fun t => "\n\n".toList ++ (t.fullCql true).toList

theorem tablesCql_eq_iff {ds es : List Descriptor} :
    tablesCql ds = tablesCql es ↔ List.Forall₂ SameStatement ds es := by
  constructor
  · intro heq
    induction ds generalizing es with
    | nil =>
      cases es with
      | nil => exact .nil
      | cons e es => simp [tablesCql] at heq
    | cons d ds ih =>
      cases es with
      | nil => simp [tablesCql] at heq
      | cons e es =>
        simp only [tablesCql, List.flatMap_cons, List.append_assoc,
          List.append_cancel_left_eq] at heq
        obtain ⟨hfirst, hmore⟩ := descriptor_fullCql_append heq
        exact .cons hfirst (ih hmore)
  · intro h
    induction h with
    | nil => rfl
    | cons hfirst hmore ih =>
      simp only [tablesCql, List.flatMap_cons, hfirst.fullCql_eq] at ih ⊢
      rw [ih]

/-- Tables of which the same is written have the same numbers. -/
theorem forall_isWritable_congr {ds es : List Descriptor} (h : List.Forall₂ SameStatement ds es) :
    (∀ d ∈ ds, d.options.IsWritable) ↔ ∀ e ∈ es, e.options.IsWritable := by
  induction h with
  | nil => exact Iff.rfl
  | cons hfirst _ ih => rw [List.forall_mem_cons, List.forall_mem_cons, hfirst.options_eq, ih]

/-! ## Keyspaces -/

namespace Keyspace

theorem toList_createFullCql (k : Keyspace) (rest : List Char) :
    (k.createFullCql true).toList ++ rest = "CREATE KEYSPACE IF NOT EXISTS ".toList ++
      ((quoteName k.name).toList ++ (" WITH replication = ".toList ++
        ((mapLiteral k.replication.fullOptions).toList ++ (" AND durable_writes = ".toList ++
          ((if k.durableWrites then "true" else "false").toList ++ (";".toList ++ rest)))))) := by
  show ("CREATE KEYSPACE " ++ "IF NOT EXISTS " ++ quoteName k.name ++ " WITH replication = " ++
    mapLiteral k.replication.fullOptions ++ " AND durable_writes = " ++
    (if k.durableWrites then "true" else "false") ++ ";").toList ++ rest = _
  simp only [String.toList_append, List.append_assoc]
  rfl

theorem flag_append {a b : Bool} {r s : List Char}
    (heq : (if a then "true" else "false").toList ++ (";".toList ++ r) =
      (if b then "true" else "false").toList ++ (";".toList ++ s)) : a = b ∧ r = s := by
  cases a <;> cases b <;> simp at heq ⊢ <;> exact heq

/-- The statement of a keyspace tells its name, its copies and its
durability. -/
theorem createFullCql_append {k l : Keyspace} {r s : List Char}
    (heq : (k.createFullCql true).toList ++ r = (l.createFullCql true).toList ++ s) :
    k.name = l.name ∧ k.replication.factor = l.replication.factor ∧
      k.durableWrites = l.durableWrites ∧ r = s := by
  rw [toList_createFullCql, toList_createFullCql] at heq
  obtain ⟨hname, hrest₁⟩ := delimited_quoteName (apart_append _)
    (apart_append _) (List.append_cancel_left heq)
  obtain ⟨-, hfactor, hrest₂⟩ := mapLiteral_pair_append (List.append_cancel_left hrest₁)
  obtain ⟨hdurable, hend⟩ := flag_append (List.append_cancel_left hrest₂)
  exact ⟨hname, toString_int_injective hfactor, hdurable, hend⟩

theorem toList_fullCql (k : Keyspace) :
    k.fullCql.toList = (k.createFullCql true).toList ++ tablesCql k.tables := by
  show ("\n\n".intercalate
    (k.createFullCql true :: k.tables.map fun t => t.fullCql true)).toList = _
  rw [String.toList_intercalate, List.map_cons, intercalate_cons_eq_flatMap, List.map_map,
    List.flatMap_map]
  rfl

/-- Two keyspaces have the same text in full exactly if they have the same name,
copies and durability, and their tables have pairwise the same names, columns,
keys and options. -/
theorem fullCql_eq_fullCql_iff {k l : Keyspace} :
    k.fullCql = l.fullCql ↔ k.name = l.name ∧ k.replication.factor = l.replication.factor ∧
      k.durableWrites = l.durableWrites ∧ List.Forall₂ SameStatement k.tables l.tables := by
  rw [← String.toList_inj, toList_fullCql, toList_fullCql, ← tablesCql_eq_iff]
  constructor
  · exact createFullCql_append
  · intro h
    obtain ⟨hname, hfactor, hdurable, htables⟩ := h
    rw [toList_createFullCql, toList_createFullCql, Replication.fullOptions,
      Replication.fullOptions, hname, hfactor, hdurable, htables]

theorem isWritable_congr {k l : Keyspace} (hfactor : k.replication.factor = l.replication.factor)
    (htables : List.Forall₂ SameStatement k.tables l.tables) : k.IsWritable ↔ l.IsWritable := by
  have hoptions := forall_isWritable_congr htables
  exact ⟨fun h => ⟨hfactor ▸ h.copies, hoptions.1 h.options⟩,
    fun h => ⟨hfactor ▸ h.copies, hoptions.2 h.options⟩⟩

/-- Keyspaces of which the same is written are written alike, or neither is. -/
theorem cql_congr {k l : Keyspace} (hname : k.name = l.name)
    (hfactor : k.replication.factor = l.replication.factor)
    (hdurable : k.durableWrites = l.durableWrites)
    (htables : List.Forall₂ SameStatement k.tables l.tables) : k.cql = l.cql := by
  have htext : k.fullCql = l.fullCql :=
    fullCql_eq_fullCql_iff.2 ⟨hname, hfactor, hdurable, htables⟩
  have hwritable := isWritable_congr hfactor htables
  by_cases hk : k.IsWritable
  · rw [cql_eq_ok_iff.2 ⟨hk, htext⟩, cql_eq_ok_iff.2 ⟨hwritable.1 hk, rfl⟩]
  · rw [cql_of_not_isWritable hk, cql_of_not_isWritable fun hl => hk (hwritable.2 hl)]

/-- Two keyspaces have one text exactly if one of them can be written and they have
the same name, copies and durability, and their tables have pairwise the same
names, columns, keys and options. Whether or not they can be written, keyspaces
that are the same in all this are written alike. -/
theorem cql_eq_cql_iff (k l : Keyspace) :
    ((∃ text, k.cql = .ok text ∧ l.cql = .ok text) ↔
      k.IsWritable ∧ k.name = l.name ∧ k.replication.factor = l.replication.factor ∧
        k.durableWrites = l.durableWrites ∧ List.Forall₂ SameStatement k.tables l.tables) ∧
    (k.name = l.name → k.replication.factor = l.replication.factor →
      k.durableWrites = l.durableWrites → List.Forall₂ SameStatement k.tables l.tables →
        k.cql = l.cql) := by
  refine ⟨⟨?_, ?_⟩, cql_congr⟩
  · rintro ⟨text, hk, hl⟩
    obtain ⟨hwritable, hktext⟩ := cql_eq_ok_iff.1 hk
    obtain ⟨-, hltext⟩ := cql_eq_ok_iff.1 hl
    exact ⟨hwritable, fullCql_eq_fullCql_iff.1 (hktext.trans hltext.symm)⟩
  · rintro ⟨hwritable, hname, hfactor, hdurable, htables⟩
    have hk : k.cql = .ok k.fullCql := cql_eq_ok_iff.2 ⟨hwritable, rfl⟩
    exact ⟨k.fullCql, hk, cql_congr hname hfactor hdurable htables ▸ hk⟩

end Keyspace

end AuthKeyspace
