import AuthKeyspace.Cql.Literal
import AuthKeyspace.Text.Integer
import AuthKeyspace.Time.Duration

/-!
# Options of a table

Every table has a comment, a time for which deleted data is remembered, a compressor that works on
chunks of some kilobytes, and a period after which memory is flushed. The numbers are whatever they
are set to; only a `retention` has to be a duration, and only a number that is not too long can be
written.

Main statement: `Options.retention_declared`, by default deleted data is remembered for 90 days.
-/

namespace AuthKeyspace.Table

open AuthKeyspace.Cql

/-- The seconds for which deleted data is remembered, unless something else is said. It must outlive
the repair of a node, or revoked grants come back. -/
def graceSeconds : Int := 7776000

/-- The same time as a duration. -/
def gracePeriod : Time.Duration := ⟨7776000000000, by decide, by decide⟩

/-- The kilobytes of a chunk, unless something else is said. -/
def chunkKilobytes : Int := 16

/-- The flush period in milliseconds, unless something else is said; zero is never. -/
def flushMillis : Int := 0

/-- The options of a table. -/
structure Options where
  comment : String := ""
  graceSeconds : Int := graceSeconds
  chunkKilobytes : Int := chunkKilobytes
  flushMillis : Int := flushMillis
deriving DecidableEq, Repr

namespace Options

/-- The options of the compressor. -/
def compression (o : Options) : Except Text.NumberTooLong (List (String × String)) := do
  let kilobytes ← Text.writeInteger o.chunkKilobytes
  return [("class", "LZ4Compressor"), ("chunk_length_in_kb", kilobytes)]

/-- How long deleted data is remembered. -/
def retention (o : Options) : Except Time.Overflow Time.Duration :=
  Time.Duration.ofSeconds o.graceSeconds

/-- The clause that sets the options. -/
def cql (o : Options) : Except Text.NumberTooLong String := do
  let seconds ← Text.writeInteger o.graceSeconds
  let compression ← o.compression
  let millis ← Text.writeInteger o.flushMillis
  return "WITH comment = " ++ literal o.comment ++
    "\n    AND gc_grace_seconds = " ++ seconds ++
    "\n    AND compression = " ++ mapLiteral compression ++
    "\n    AND memtable_flush_period_in_ms = " ++ millis

theorem retention_declared : Options.retention {} = .ok gracePeriod := by
  simp [retention, Time.Duration.ofSeconds, Time.Duration.ofMicros_eq_ok_iff, gracePeriod,
    Table.graceSeconds, Time.microsPerSecond]

end Options

end AuthKeyspace.Table
