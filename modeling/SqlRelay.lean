import SqlRelay.Access.Listed
import SqlRelay.Digest
import SqlRelay.Main
import SqlRelay.Proofs.Access.Overlap
import SqlRelay.Proofs.Access.Freshness
import SqlRelay.Proofs.Script.Reading
import SqlRelay.Proofs.Script.Slots
import SqlRelay.Proofs.Script.Splicing
import SqlRelay.Proofs.Text.Trim
import SqlRelay.Proofs.Script.Matter
import SqlRelay.Proofs.Script.Lines
import SqlRelay.Proofs.Script.Stripping
import SqlRelay.Proofs.Database.Visits
import SqlRelay.Proofs.Script.Transaction
import SqlRelay.Proofs.Access.Decision
import SqlRelay.Proofs.Access.Transparency
import SqlRelay.Proofs.Table.Sending
import SqlRelay.Proofs.Gateway.Effects
import SqlRelay.Proofs.Http.Effects
import SqlRelay.Proofs.Script.Supplies
import SqlRelay.Proofs.Script.Dialects
import SqlRelay.Proofs.Http.Headers
import SqlRelay.Proofs.Table.Writing
import SqlRelay.Proofs.Gateway.FailedWrites
import SqlRelay.Proofs.Text.ByteOrder
import SqlRelay.Proofs.Parameter.Order
import SqlRelay.Proofs.Table.Binding
import SqlRelay.Proofs.Parameter.Controls
import SqlRelay.Proofs.Http.Concealment
import SqlRelay.Proofs.Http.Facts
import SqlRelay.Proofs.Script.Cutting
import SqlRelay.Proofs.Script.Composition
import SqlRelay.Proofs.Script.CommentLines
import SqlRelay.Proofs.Script.Comments
import SqlRelay.Proofs.Script.Segments
import SqlRelay.Proofs.Script.Rewriting
import SqlRelay.Proofs.Script.Substitution
import SqlRelay.Proofs.Script.Output
import SqlRelay.Proofs.Sql.Escaped
import SqlRelay.Proofs.Table.RowOrder
import SqlRelay.Proofs.Sql.Characters
import SqlRelay.Proofs.Sql.Sealed
import SqlRelay.Proofs.Table.Sealed
import SqlRelay.Proofs.Sql.Placeholders
import SqlRelay.Proofs.Table.Placeholders
import SqlRelay.Proofs.Double.Rounding
import SqlRelay.Proofs.Json.Integers
import SqlRelay.Proofs.Parameter.Counts
import SqlRelay.Proofs.Table.PageNumbers
import SqlRelay.Proofs.Gateway.Outcomes
import SqlRelay.Proofs.Database.Decoding
import SqlRelay.Proofs.Script.Arguments
import SqlRelay.Proofs.Access.GrantQuery
import SqlRelay.Proofs.Access.GrantForms
import SqlRelay.Proofs.Sql.Literals
import SqlRelay.Proofs.Access.Credentials
import SqlRelay.Proofs.Double.Order
import SqlRelay.Proofs.Double.Notation
import SqlRelay.Proofs.Sampling
import SqlRelay.Proofs.Text.Percent
import SqlRelay.Proofs.Http.Paths
import SqlRelay.Proofs.Http.RowKeys
