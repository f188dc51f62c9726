import EntitySql.Json.Expr
import EntitySql.Main
import EntitySql.Proofs.Entity.ReadBack
import EntitySql.Proofs.Filter.Capture
import EntitySql.Proofs.Filter.Position
import EntitySql.Proofs.Filter.ReadBack
import EntitySql.Proofs.Filter.ReadExact
import EntitySql.Proofs.Filter.Unknown
import EntitySql.Proofs.Json.ReadBack
import EntitySql.Proofs.Schema.Column
import EntitySql.Proofs.Schema.Lookup
import EntitySql.Proofs.Schema.Memo
import EntitySql.Proofs.Schema.Role
import EntitySql.Proofs.Session.Discipline
import EntitySql.Proofs.Session.GeneratedKey
import EntitySql.Proofs.Session.Tracking
import EntitySql.Proofs.Session.WriteBack
import EntitySql.Proofs.Sql.Bindable
import EntitySql.Proofs.Sql.Calculation
import EntitySql.Proofs.Sql.FieldCase
import EntitySql.Proofs.Sql.FiniteMap
import EntitySql.Proofs.Sql.Fold
import EntitySql.Proofs.Sql.FreshParam
import EntitySql.Proofs.Sql.MarkerName
import EntitySql.Proofs.Sql.Noninterference
import EntitySql.Proofs.Sql.OrderClause
import EntitySql.Proofs.Sql.PagedRead
import EntitySql.Proofs.Sql.PropertyName
import EntitySql.Proofs.Sql.QuotedName
import EntitySql.Proofs.Sql.Read
import EntitySql.Proofs.Sql.Region
import EntitySql.Proofs.Sql.Role
import EntitySql.Proofs.Sql.Write
import EntitySql.Proofs.Text.Blank
import EntitySql.Proofs.Value.NumberOrder
import EntitySql.Proofs.Value.ReadBack
