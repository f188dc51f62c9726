import EntitySql.Error
import EntitySql.Sql.Dialect

/-!
# Connections

A connection is asked for by a URL. There is no driver for any database, so what a URL leads to is
one of three refusals: its scheme belongs to no dialect, it is not well formed, or it has no driver.
-/

namespace EntitySql

def ConnectionError.ofUrl (url : String) : ConnectionError :=
  match Dialect.ofUrl? url, Url.check url with
  | none, _ => .unrecognizedUrl url
  | some _, .error fault => .malformedUrl fault
  | some _, .ok () => .noDriver (Url.scheme url)

end EntitySql
