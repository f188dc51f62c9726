import EntitySql.Filter.Text
import EntitySql.Url

/-!
# What can go wrong

Errors are causes. Each class of failure has its own type of causes, and the wording of all of
them is in `Error.message`. A failure that someone else reports is `stated` in their own words.
-/

namespace EntitySql

/-- The type that a value is read as. -/
inductive BaseType
  | int64
  | int32
  | float
  | bool
  | string
  | date
  | dateTime
  deriving DecidableEq, Repr

/-- Entity metadata is missing or does not fit. -/
inductive SchemaError
  | stated (text : String)
  | noProperties (entity : String)
  | duplicateProperty (property entity : String)
  | computedKey (property : String)
  | bothKeys (property : String)
  | noKey
  | noProperty (entity property : String)
  /-- A property that a row does not have. -/
  | unknownProperty (property : String)
  /-- A field that an entity type does not have. -/
  | noField (entity property : String)
  | unreadable (kind : Kind) (type : BaseType)
  | beyondInt32 (n : Int64)

/-- A filter holds something that has no value or no SQL. -/
inductive UnsupportedError
  | stated (text : String)
  | rowAsValue
  | outsideRow (property : String)
  | condition (kind : Kind)
  | predicate (kind : Kind)
  | oneArgument (method : String) (count : Nat)
  | noArguments (method : String)
  | receiver (method : String) (kind : Kind)
  | unknownMethod (name : String)
  | operands (left : Kind) (op : ArithOp) (right : Kind)
  | noMember (name : String)
  | memberOfNull (name : String)
  | memberOf (name : String) (kind : Kind)
  | expression (e : Expr)
  | withoutColumn (left : Expr) (op : CompareOp) (right : Expr)
  | recordCompared (column : String)
  | receiverNotColumn (method : String) (target : Expr)
  | argumentCount (method : String) (count : Nat)
  | argumentOfRow (method : String) (arg : Expr)
  | operand (e : Expr)

/-- An argument is out of range. -/
inductive ValidationError
  | stated (text : String)
  | divisionByZero
  | overflow (left : Int64) (op : ArithOp) (right : Int64)
  | pageSize
  | page
  | pageOffset
  | singleKey (entity : String) (keys : Nat)
  | nothingToUpdate (entity : String)
  | missingKey (property : String)
  | missingParameter (name : String)

/-- Why a filter text cannot be read. -/
inductive ParseError
  | stated (text : String)
  | unexpectedWord (word : String)
  | unexpectedEnd
  | invalidNumber (text : String)
  | unterminatedString
  | unboundVariable (name : String)

inductive ConfigError
  | stated (text : String)
  | unknownDialect (name : String)
  | negativePageSize
  /-- The text is not a configuration or schema file. -/
  | malformed

inductive ConnectionError
  | stated (text : String)
  | unrecognizedUrl (url : String)
  | malformedUrl (fault : Url.Fault)
  | noDriver (scheme : String)

inductive Error
  | schema (cause : SchemaError)
  | unsupported (cause : UnsupportedError)
  | validation (cause : ValidationError)
  /-- The position counts the bytes of the text before the fault. -/
  | parse (position : Nat) (cause : ParseError)
  | database (text : String)
  | connection (cause : ConnectionError)
  | execution (text : String)
  | timeout (millis : Nat)
  | config (cause : ConfigError)
  | io (text : String)

def BaseType.name : BaseType → String
  | .int64 => "i64"
  | .int32 => "i32"
  | .float => "f64"
  | .bool => "bool"
  | .string => "string"
  | .date => "date"
  | .dateTime => "datetime"

def SchemaError.message : SchemaError → String
  | .stated text => text
  | .noProperties entity => "entity '" ++ entity ++ "' has no properties"
  | .duplicateProperty property entity =>
    "duplicate property '" ++ property ++ "' on '" ++ entity ++ "'"
  | .computedKey property => "key property '" ++ property ++ "' cannot be computed"
  | .bothKeys property =>
    "property '" ++ property ++ "' cannot be both a generated and an explicit key"
  | .noKey => "no key defined"
  | .noProperty entity property => "'" ++ entity ++ "' has no property '" ++ property ++ "'"
  | .unknownProperty property => "unknown property '" ++ property ++ "'"
  | .noField entity property => entity ++ " has no property '" ++ property ++ "'"
  | .unreadable kind type => "cannot read " ++ kind.name ++ " value as " ++ type.name
  | .beyondInt32 n => toString n.toInt ++ " does not fit in i32"

def UnsupportedError.message : UnsupportedError → String
  | .stated text => text
  | .rowAsValue => "the row itself used as a value"
  | .outsideRow property => "x." ++ property ++ " cannot be evaluated outside a row"
  | .condition kind => kind.name ++ " value used as a condition"
  | .predicate kind => "predicate evaluated to a " ++ kind.name ++ " value"
  | .oneArgument method count => method ++ " expects 1 argument, got " ++ toString count
  | .noArguments method => method ++ " takes no arguments"
  | .receiver method kind => method ++ " on a " ++ kind.name ++ " value"
  | .unknownMethod name => name
  | .operands left op right => left.name ++ " " ++ op.symbol ++ " " ++ right.name
  | .noMember name => "captured value has no member '" ++ name ++ "'"
  | .memberOfNull name => "member access '" ++ name ++ "' on a null receiver"
  | .memberOf name kind => "member access '" ++ name ++ "' on a " ++ kind.name ++ " value"
  | .expression e => "condition '" ++ e.text ++ "'"
  | .withoutColumn left op right =>
    "comparison without a column: " ++ left.text ++ " " ++ op.filterSymbol ++ " " ++ right.text
  | .recordCompared column => "record value compared with " ++ column
  | .receiverNotColumn method target =>
    method ++ " on '" ++ target.text ++ "', expected a column of the row"
  | .argumentCount method count => method ++ " with " ++ toString count ++ " arguments"
  | .argumentOfRow method arg => method ++ " argument '" ++ arg.text ++ "' depends on the row"
  | .operand e => "'" ++ e.text ++ "' is neither a column nor a closed value"

def ValidationError.message : ValidationError → String
  | .stated text => text
  | .divisionByZero => "division by zero"
  | .overflow left op right =>
    "integer overflow in " ++ toString left.toInt ++ " " ++ op.symbol ++ " " ++
      toString right.toInt
  | .pageSize => "pageSize must be a number >= 0"
  | .page => "page must be a number >= 1"
  | .pageOffset => "page offset out of range"
  | .singleKey entity keys =>
    entity ++ " has " ++ toString keys ++ " key properties, got a single key value"
  | .nothingToUpdate entity => entity ++ " has no updatable properties"
  | .missingKey property => "missing value for key '" ++ property ++ "'"
  | .missingParameter name => "no value for parameter @" ++ name

def ParseError.message : ParseError → String
  | .stated text => text
  | .unexpectedWord word => "unexpected '" ++ word ++ "'"
  | .unexpectedEnd => "unexpected end of input"
  | .invalidNumber text => "invalid number '" ++ text ++ "'"
  | .unterminatedString => "unterminated string"
  | .unboundVariable name => "unbound variable '$" ++ name ++ "'"

def ConfigError.message : ConfigError → String
  | .stated text => text
  | .unknownDialect name => "unknown dialect '" ++ name ++ "'"
  | .negativePageSize => "default_page_size must be >= 0"
  | .malformed => "TOML parse error"

def ConnectionError.message : ConnectionError → String
  | .stated text => text
  | .unrecognizedUrl url => "unrecognized database url '" ++ url ++ "'"
  | .malformedUrl fault => "error with configuration: " ++ fault.message
  | .noDriver scheme =>
    "error with configuration: no driver found for URL scheme \"" ++ scheme ++ "\""

/-- A span of time: in seconds with a fraction as short as it can be, in whole milliseconds below
a second, and in nanoseconds where it is nothing. -/
def durationText (millis : Nat) : String :=
  if millis = 0 then "0ns"
  else if millis < 1000 then toString millis ++ "ms"
  else
    let fraction := padded 3 (millis % 1000)
    let kept := (fraction.reverse.dropWhile (· == '0')).reverse
    toString (millis / 1000) ++ String.ofList (if kept.isEmpty then [] else '.' :: kept) ++ "s"

def Error.message : Error → String
  | .schema cause => "Schema error: " ++ cause.message
  | .unsupported cause => "Unsupported predicate: " ++ cause.message
  | .validation cause => "Validation error: " ++ cause.message
  | .parse position cause =>
    "Parse error at position " ++ toString position ++ ": " ++ cause.message
  | .database text => "Database error: " ++ text
  | .connection cause => "Connection error: " ++ cause.message
  | .execution text => "Execution error: " ++ text
  | .timeout millis => "Command timed out after " ++ durationText millis
  | .config cause => "Configuration error: " ++ cause.message
  | .io text => "IO error: " ++ text

end EntitySql
