import AuthKeyspace.Cql.Literal
import AuthKeyspace.Cql.TypeExpr
import AuthKeyspace.Keyspace.Edit
import AuthKeyspace.Log.Format
import AuthKeyspace.Main
import AuthKeyspace.Proofs.Config.Loading
import AuthKeyspace.Proofs.Cql.Folding
import AuthKeyspace.Proofs.Cql.Legality
import AuthKeyspace.Proofs.Cql.Maps
import AuthKeyspace.Proofs.Cql.Naming
import AuthKeyspace.Proofs.Cql.Places
import AuthKeyspace.Proofs.Cql.Progress
import AuthKeyspace.Proofs.Cql.RoundTrip
import AuthKeyspace.Proofs.Cql.TypeExpr
import AuthKeyspace.Proofs.Cql.Unexpected
import AuthKeyspace.Proofs.Declared.Reconciling
import AuthKeyspace.Proofs.Declared.Tables
import AuthKeyspace.Proofs.Digest.Identifiers
import AuthKeyspace.Proofs.Findings.Standard
import AuthKeyspace.Proofs.Keyspace.Printing
import AuthKeyspace.Proofs.Keyspace.Separation
import AuthKeyspace.Proofs.Log.Configuring
import AuthKeyspace.Proofs.Startup.Describing
import AuthKeyspace.Proofs.Startup.Reporting
import AuthKeyspace.Proofs.Table.Outcomes
import AuthKeyspace.Proofs.Table.Stored
import AuthKeyspace.Proofs.Yaml.Shown
