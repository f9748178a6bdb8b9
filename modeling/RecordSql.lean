import RecordSql.Declaration.Mapping
import RecordSql.Declaration.TypeReader
import RecordSql.FieldPath
import RecordSql.Session
import RecordSql.Proofs.Template.Utf8
import RecordSql.Proofs.Template.Cut
import RecordSql.Proofs.Template.Markers
import RecordSql.Proofs.Template.Spans
import RecordSql.Proofs.Binder.Filling
import RecordSql.Proofs.Binder.Indexed
import RecordSql.Proofs.Binder.Saturation
import RecordSql.Proofs.Binder.Policy
import RecordSql.Proofs.Binder.Unindexed
import RecordSql.Proofs.Binder.Comment
import RecordSql.Proofs.Literal.Quoted
import RecordSql.Proofs.Literal.Inert
import RecordSql.Proofs.Literal.Refusal
import RecordSql.Proofs.Literal.Buffer
import RecordSql.Proofs.Literal.Masked
import RecordSql.Proofs.Literal.Signed
import RecordSql.Proofs.Binder.Containment
import RecordSql.Proofs.Statement.Insert
import RecordSql.Proofs.KeyRegistry.Attempt
import RecordSql.Proofs.KeyRegistry.Run
import RecordSql.Proofs.KeyRegistry.Order
import RecordSql.Proofs.Binder.Framing
import RecordSql.Proofs.Statement.Upsert
import RecordSql.Proofs.Binder.Numbered
import RecordSql.Proofs.ColumnCache.Sharing
import RecordSql.Proofs.Literal.Reading
import RecordSql.Proofs.Literal.RoundTrip
import RecordSql.Proofs.Statement.Tracing
import RecordSql.Proofs.Text.Occurrence
import RecordSql.Proofs.Statement.Query
import RecordSql.Proofs.Statement.Unquoted
import RecordSql.Proofs.Declaration.Options
import RecordSql.Proofs.Declaration.Fields
import RecordSql.Proofs.KeyRegistry.Single
import RecordSql.Proofs.Declaration.Acceptance
import RecordSql.Proofs.Statement.Arguments
import RecordSql.Proofs.Statement.Selection
import RecordSql.Proofs.Statement.Conflict
import RecordSql.Proofs.Statement.Columns
import RecordSql.Proofs.Declaration.Spreading
import RecordSql.Proofs.Declaration.Faults
import RecordSql.Proofs.Declaration.Constants
import RecordSql.Proofs.Text.Parts
import RecordSql.Proofs.Declaration.PlainName
import RecordSql.Proofs.Declaration.NameList
import RecordSql.Proofs.FieldPath.Qualified
