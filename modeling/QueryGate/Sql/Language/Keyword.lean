set_option relaxedAutoImplicit false
set_option autoImplicit false

/-!
# Words of the query language

The words that have a meaning in the language, and those of them that end an item or a table. All
are in upper case.

## Main definitions

* `QueryGate.Sql.Language.keywords` — the words with a meaning.
* `QueryGate.Sql.Language.itemEnds`, `QueryGate.Sql.Language.sourceEnds`,
  `QueryGate.Sql.Language.viewEnds` — the words that are no names without `AS`.
-/

namespace QueryGate.Sql

namespace Language

/-! ## Words that end something -/

/-- The words that end an item or a table. -/
def endingWords : List String := [
  "WITH", "EXPLAIN", "ANALYZE", "SELECT", "WHERE", "GROUP", "SORT", "HAVING", "ORDER", "TOP",
  "LATERAL", "VIEW", "LIMIT", "OFFSET", "FETCH", "UNION", "EXCEPT", "INTERSECT", "CLUSTER",
  "DISTRIBUTE", "END"]

/-- The words that name no item, unless `AS` stands before them. -/
def itemEnds : List String := endingWords ++ ["FROM", "INTO"]

/-- The words that name no table, unless `AS` stands before them. -/
def sourceEnds : List String := endingWords ++ [
  "PIVOT", "UNPIVOT", "ON", "JOIN", "INNER", "CROSS", "FULL", "LEFT", "RIGHT", "NATURAL", "USING",
  "OUTER", "SET", "QUALIFY", "WINDOW", "PARTITION"]

/-- The words that name no column of a lateral view, unless `AS` stands before them. -/
def viewEnds : List String := ["WHERE", "GROUP", "CLUSTER", "HAVING", "LATERAL"]

/-! ## All words -/

/-- The parts of a point in time by which a span of time is measured. -/
def spanParts : List String := [
  "YEAR", "MONTH", "WEEK", "DAY", "HOUR", "MINUTE", "SECOND", "CENTURY", "DECADE", "DOW", "DOY",
  "EPOCH", "ISODOW", "ISOYEAR", "JULIAN", "MICROSECOND", "MICROSECONDS", "MILLENIUM",
  "MILLENNIUM", "MILLISECOND", "MILLISECONDS", "NANOSECOND", "NANOSECONDS", "QUARTER", "TIMEZONE",
  "TIMEZONE_HOUR", "TIMEZONE_MINUTE"]

/-- The parts of a point in time. -/
def timeParts : List String := "DATE" :: spanParts

/-- The words with a meaning. Where a text is asked for, any other bare word can stand for it. -/
def keywords : List String := [
  "ABORT", "ABS", "ABSOLUTE", "ACTION", "ADD", "ADMIN", "ALL", "ALLOCATE", "ALTER", "ALWAYS",
  "ANALYZE", "AND", "ANTI", "ANY", "APPLY", "ARCHIVE", "ARE", "ARRAY", "ARRAY_AGG",
  "ARRAY_MAX_CARDINALITY", "AS", "ASC", "ASENSITIVE", "ASSERT", "ASYMMETRIC", "AT", "ATOMIC",
  "ATTACH", "AUTHORIZATION", "AUTOINCREMENT", "AUTO_INCREMENT", "AVG", "AVRO", "BACKWARD", "BASE64",
  "BEGIN", "BEGIN_FRAME", "BEGIN_PARTITION", "BETWEEN", "BIGDECIMAL", "BIGINT", "BIGNUMERIC",
  "BINARY", "BLOB", "BOOLEAN", "BOTH", "BTREE", "BY", "BYPASSRLS", "BYTEA", "BYTES", "CACHE",
  "CALL", "CALLED", "CARDINALITY", "CASCADE", "CASCADED", "CASE", "CAST", "CEIL", "CEILING",
  "CENTURY", "CHAIN", "CHANGE", "CHAR", "CHARACTER", "CHARACTERS", "CHARACTER_LENGTH", "CHARSET",
  "CHAR_LENGTH", "CHECK", "CLOB", "CLONE", "CLOSE", "CLUSTER", "COALESCE", "COLLATE", "COLLATION",
  "COLLECT", "COLUMN", "COLUMNS", "COMMENT", "COMMIT", "COMMITTED", "COMPRESSION", "COMPUTE",
  "CONCURRENTLY", "CONDITION", "CONFLICT", "CONNECT", "CONNECTION", "CONSTRAINT", "CONTAINS",
  "CONVERT", "COPY", "COPY_OPTIONS", "CORR", "CORRESPONDING", "COUNT", "COVAR_POP", "COVAR_SAMP",
  "CREATE", "CREATEDB", "CREATEROLE", "CREDENTIALS", "CROSS", "CSV", "CUBE", "CUME_DIST", "CURRENT",
  "CURRENT_CATALOG", "CURRENT_DATE", "CURRENT_DEFAULT_TRANSFORM_GROUP", "CURRENT_PATH",
  "CURRENT_ROLE", "CURRENT_ROW", "CURRENT_SCHEMA", "CURRENT_TIME", "CURRENT_TIMESTAMP",
  "CURRENT_TRANSFORM_GROUP_FOR_TYPE", "CURRENT_USER", "CURSOR", "CYCLE", "DATA", "DATABASE",
  "DATA_RETENTION_TIME_IN_DAYS", "DATE", "DATETIME", "DAY", "DEALLOCATE", "DEC", "DECADE",
  "DECIMAL", "DECLARE", "DEDUPLICATE", "DEFAULT", "DEFAULT_DDL_COLLATION", "DEFERRABLE", "DEFERRED",
  "DELAYED", "DELETE", "DELIMITED", "DELIMITER", "DELTA", "DENSE_RANK", "DEREF", "DESC", "DESCRIBE",
  "DETERMINISTIC", "DIRECTORY", "DISABLE", "DISCARD", "DISCONNECT", "DISTINCT", "DISTRIBUTE", "DIV",
  "DO", "DOUBLE", "DOW", "DOY", "DROP", "DUPLICATE", "DYNAMIC", "EACH", "ELEMENT", "ELEMENTS",
  "ELSE", "ENABLE", "ENCODING", "ENCRYPTION", "END", "ENDPOINT", "END_FRAME", "END_PARTITION",
  "ENFORCED", "ENGINE", "ENUM", "EPOCH", "EQUALS", "ERROR", "ESCAPE", "ESCAPED", "EVENT", "EVERY",
  "EXCEPT", "EXCLUDE", "EXCLUSIVE", "EXEC", "EXECUTE", "EXISTS", "EXP", "EXPANSION", "EXPLAIN",
  "EXTENDED", "EXTENSION", "EXTERNAL", "EXTRACT", "FAIL", "FALSE", "FETCH", "FIELDS", "FILE",
  "FILES", "FILE_FORMAT", "FILTER", "FIRST", "FIRST_VALUE", "FLOAT", "FLOAT4", "FLOAT64", "FLOAT8",
  "FLOOR", "FOLLOWING", "FOR", "FORCE", "FORCE_NOT_NULL", "FORCE_NULL", "FORCE_QUOTE", "FOREIGN",
  "FORMAT", "FORWARD", "FRAME_ROW", "FREE", "FREEZE", "FROM", "FULL", "FULLTEXT", "FUNCTION",
  "FUNCTIONS", "FUSION", "GENERATE", "GENERATED", "GET", "GLOBAL", "GRANT", "GRANTED", "GRAPHVIZ",
  "GROUP", "GROUPING", "GROUPS", "HASH", "HAVING", "HEADER", "HIGH_PRIORITY", "HIVEVAR", "HOLD",
  "HOUR", "IDENTITY", "IF", "IGNORE", "ILIKE", "IMMUTABLE", "IN", "INCLUDE", "INCREMENT", "INDEX",
  "INDICATOR", "INHERIT", "INNER", "INOUT", "INPUTFORMAT", "INSENSITIVE", "INSERT", "INT", "INT2",
  "INT4", "INT64", "INT8", "INTEGER", "INTERSECT", "INTERSECTION", "INTERVAL", "INTO", "IS",
  "ISODOW", "ISOLATION", "ISOYEAR", "JAR", "JOIN", "JSON", "JSONFILE", "JULIAN", "KEY", "KILL",
  "LAG", "LANGUAGE", "LARGE", "LAST", "LAST_VALUE", "LATERAL", "LEAD", "LEADING", "LEFT", "LEVEL",
  "LIKE", "LIKE_REGEX", "LIMIT", "LISTAGG", "LN", "LOCAL", "LOCALTIME", "LOCALTIMESTAMP",
  "LOCATION", "LOCKED", "LOGIN", "LOWER", "LOW_PRIORITY", "MACRO", "MANAGEDLOCATION", "MATCH",
  "MATCHED", "MATERIALIZED", "MAX", "MAXVALUE", "MAX_DATA_EXTENSION_TIME_IN_DAYS", "MEDIUMINT",
  "MEMBER", "MERGE", "METADATA", "METHOD", "MICROSECOND", "MICROSECONDS", "MILLENIUM", "MILLENNIUM",
  "MILLISECOND", "MILLISECONDS", "MIN", "MINUTE", "MINVALUE", "MOD", "MODIFIES", "MODULE", "MONTH",
  "MSCK", "MULTISET", "MUTATION", "NAME", "NANOSECOND", "NANOSECONDS", "NATIONAL", "NATURAL",
  "NCHAR", "NCLOB", "NEW", "NEXT", "NO", "NOBYPASSRLS", "NOCREATEDB", "NOCREATEROLE", "NOINHERIT",
  "NOLOGIN", "NONE", "NOREPLICATION", "NORMALIZE", "NOSCAN", "NOSUPERUSER", "NOT", "NOTHING",
  "NOWAIT", "NTH_VALUE", "NTILE", "NULL", "NULLIF", "NULLS", "NUMERIC", "NVARCHAR", "OBJECT",
  "OCCURRENCES_REGEX", "OCTETS", "OCTET_LENGTH", "OF", "OFFSET", "OLD", "ON", "ONLY", "OPEN",
  "OPERATOR", "OPTION", "OPTIONS", "OR", "ORC", "ORDER", "OUT", "OUTER", "OUTPUTFORMAT", "OVER",
  "OVERFLOW", "OVERLAPS", "OVERLAY", "OVERWRITE", "OWNED", "PARAMETER", "PARQUET", "PARTITION",
  "PARTITIONED", "PARTITIONS", "PASSWORD", "PATTERN", "PERCENT", "PERCENTILE_CONT",
  "PERCENTILE_DISC", "PERCENT_RANK", "PERIOD", "PIVOT", "PLACING", "PLANS", "PORTION", "POSITION",
  "POSITION_REGEX", "POWER", "PRAGMA", "PRECEDES", "PRECEDING", "PRECISION", "PREPARE", "PRESERVE",
  "PRIMARY", "PRIOR", "PRIVILEGES", "PROCEDURE", "PROGRAM", "PURGE", "QUALIFY", "QUARTER", "QUERY",
  "QUOTE", "RANGE", "RANK", "RCFILE", "READ", "READS", "REAL", "RECURSIVE", "REF", "REFERENCES",
  "REFERENCING", "REGCLASS", "REGEXP", "REGR_AVGX", "REGR_AVGY", "REGR_COUNT", "REGR_INTERCEPT",
  "REGR_R2", "REGR_SLOPE", "REGR_SXX", "REGR_SXY", "REGR_SYY", "RELATIVE", "RELEASE", "RENAME",
  "REPAIR", "REPEATABLE", "REPLACE", "REPLICA", "REPLICATION", "RESET", "RESPECT", "RESTRICT",
  "RESULT", "RETURN", "RETURNING", "RETURNS", "REVOKE", "RIGHT", "RLIKE", "ROLE", "ROLLBACK",
  "ROLLUP", "ROOT", "ROW", "ROWID", "ROWS", "ROW_NUMBER", "RULE", "SAFE_CAST", "SAVEPOINT",
  "SCHEMA", "SCROLL", "SEARCH", "SECOND", "SECURITY", "SELECT", "SEMI", "SENSITIVE", "SEQUENCE",
  "SEQUENCEFILE", "SEQUENCES", "SERDE", "SERIALIZABLE", "SESSION", "SESSION_USER", "SET", "SETS",
  "SHARE", "SHOW", "SIMILAR", "SKIP", "SMALLINT", "SNAPSHOT", "SOME", "SORT", "SPATIAL", "SPECIFIC",
  "SPECIFICTYPE", "SQL", "SQLEXCEPTION", "SQLSTATE", "SQLWARNING", "SQRT", "STABLE", "STAGE",
  "START", "STATIC", "STATISTICS", "STDDEV_POP", "STDDEV_SAMP", "STDIN", "STDOUT",
  "STORAGE_INTEGRATION", "STORED", "STRICT", "STRING", "STRUCT", "SUBMULTISET", "SUBSTRING",
  "SUBSTRING_REGEX", "SUCCEEDS", "SUM", "SUPER", "SUPERUSER", "SWAP", "SYMMETRIC", "SYNC", "SYSTEM",
  "SYSTEM_TIME", "SYSTEM_USER", "TABLE", "TABLES", "TABLESAMPLE", "TBLPROPERTIES", "TEMP",
  "TEMPORARY", "TEXT", "TEXTFILE", "THEN", "TIES", "TIME", "TIMESTAMP", "TIMESTAMPTZ", "TIMETZ",
  "TIMEZONE", "TIMEZONE_HOUR", "TIMEZONE_MINUTE", "TINYINT", "TO", "TOP", "TRAILING", "TRANSACTION",
  "TRANSIENT", "TRANSLATE", "TRANSLATE_REGEX", "TRANSLATION", "TREAT", "TRIGGER", "TRIM",
  "TRIM_ARRAY", "TRUE", "TRUNCATE", "TRY_CAST", "TYPE", "UESCAPE", "UNBOUNDED", "UNCACHE",
  "UNCOMMITTED", "UNION", "UNIQUE", "UNKNOWN", "UNLOGGED", "UNNEST", "UNPIVOT", "UNSIGNED", "UNTIL",
  "UPDATE", "UPPER", "URL", "USAGE", "USE", "USER", "USING", "UUID", "VALID", "VALIDATION_MODE",
  "VALUE", "VALUES", "VALUE_OF", "VARBINARY", "VARCHAR", "VARIABLES", "VARYING", "VAR_POP",
  "VAR_SAMP", "VERBOSE", "VERSIONING", "VIEW", "VIRTUAL", "VOLATILE", "WEEK", "WHEN", "WHENEVER",
  "WHERE", "WIDTH_BUCKET", "WINDOW", "WITH", "WITHIN", "WITHOUT", "WORK", "WRITE", "XOR", "YEAR",
  "ZONE"]

end Language

end QueryGate.Sql
