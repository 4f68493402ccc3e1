import ScalarSql.Syntax.Token

/-!
# Keywords

Any word can name a column or a table where the grammar asks for a name, so keywords
matter in three places only: a word of `columnReserved` or `tableReserved` is no name for
what stands in front of it unless `AS` announces it, and a word of `all` is never taken
for the text of a typed literal.
-/

set_option autoImplicit false

namespace ScalarSql.Syntax.Keyword

/-- The words that end an item of a select list. -/
def columnReserved : List String :=
  ["WITH", "EXPLAIN", "ANALYZE", "SELECT", "WHERE", "GROUP", "SORT", "HAVING", "ORDER", "TOP",
    "LATERAL", "VIEW", "LIMIT", "OFFSET", "FETCH", "UNION", "EXCEPT", "INTERSECT", "CLUSTER",
    "DISTRIBUTE", "RETURNING", "FROM", "INTO", "END"]

/-- The words that end a table of a from clause. -/
def tableReserved : List String :=
  ["WITH", "EXPLAIN", "ANALYZE", "SELECT", "WHERE", "GROUP", "SORT", "HAVING", "ORDER", "PIVOT",
    "UNPIVOT", "TOP", "LATERAL", "VIEW", "LIMIT", "OFFSET", "FETCH", "UNION", "EXCEPT",
    "INTERSECT", "ON", "JOIN", "INNER", "CROSS", "FULL", "LEFT", "RIGHT", "NATURAL", "USING",
    "CLUSTER", "DISTRIBUTE", "GLOBAL", "OUTER", "SET", "QUALIFY", "WINDOW", "END", "FOR",
    "PARTITION", "PREWHERE", "SETTINGS", "FORMAT", "START", "CONNECT", "MATCH_RECOGNIZE"]

/-- The words for what an interval of time is counted in. -/
def temporalUnits : List String :=
  ["YEAR", "MONTH", "WEEK", "DAY", "HOUR", "MINUTE", "SECOND", "CENTURY", "DECADE", "DOW",
    "DOY", "EPOCH", "ISODOW", "ISOYEAR", "JULIAN", "MICROSECOND", "MICROSECONDS", "MILLENIUM",
    "MILLENNIUM", "MILLISECOND", "MILLISECONDS", "NANOSECOND", "NANOSECONDS", "QUARTER",
    "TIMEZONE", "TIMEZONE_HOUR", "TIMEZONE_MINUTE"]

/-- The words for further parts of a date or a time. -/
def temporalFields : List String :=
  ["DAYOFWEEK", "DAYOFYEAR", "DATE", "DATETIME", "ISOWEEK", "TIME", "TIMEZONE_ABBR",
    "TIMEZONE_REGION"]

/-- The words for types. -/
def typeWords : List String :=
  ["ARRAY", "BIGDECIMAL", "BIGINT", "BIGNUMERIC", "BINARY", "BLOB", "BOOL", "BOOLEAN", "BYTEA",
    "BYTES", "CHAR", "CHARACTER", "CLOB", "DATE32", "DATETIME64", "DEC", "DECIMAL", "DOUBLE",
    "ENUM", "FIXEDSTRING", "FLOAT", "FLOAT32", "FLOAT4", "FLOAT64", "FLOAT8", "INT", "INT128",
    "INT16", "INT2", "INT256", "INT32", "INT4", "INT64", "INT8", "INTEGER", "INTERVAL", "JSON",
    "JSONB", "LARGE", "LOWCARDINALITY", "MAP", "MEDIUMINT", "NESTED", "NULLABLE", "NUMERIC",
    "NVARCHAR", "OBJECT", "PRECISION", "REAL", "REGCLASS", "SMALLINT", "STRING", "STRUCT", "TEXT",
    "TIMESTAMP", "TIMESTAMPTZ", "TIMETZ", "TINYINT", "TRIGGER", "TUPLE", "UINT128", "UINT16",
    "UINT256", "UINT32", "UINT64", "UINT8", "UNSIGNED", "UUID", "VARBINARY", "VARCHAR", "VARYING",
    "ZONE"]

/-- The words of statements, clauses, functions and operators. -/
def grammarWords : List String :=
  ["ABORT", "ABS", "ABSOLUTE", "ACCESS", "ACTION", "ADD", "ADMIN", "AFTER", "AGAINST",
    "AGGREGATION", "ALIAS", "ALL", "ALLOCATE", "ALTER", "ALWAYS", "AND", "ANTI", "ANY", "APPLY",
    "ARCHIVE", "ARE", "ARRAY_MAX_CARDINALITY", "AS", "ASC", "ASENSITIVE", "ASOF", "ASSERT",
    "ASYMMETRIC", "AT", "ATOMIC", "ATTACH", "AUTHORIZATION", "AUTO", "AUTOINCREMENT",
    "AUTO_INCREMENT", "AVG", "AVRO", "BACKWARD", "BASE64", "BEFORE", "BEGIN", "BEGIN_FRAME",
    "BEGIN_PARTITION", "BETWEEN", "BINDING", "BLOOMFILTER", "BOTH", "BROWSE", "BTREE", "BUCKETS",
    "BY", "BYPASSRLS", "CACHE", "CALL", "CALLED", "CARDINALITY", "CASCADE", "CASCADED", "CASE",
    "CAST", "CATALOG", "CEIL", "CEILING", "CHAIN", "CHANGE", "CHANGE_TRACKING", "CHANNEL",
    "CHARACTERS", "CHARACTER_LENGTH", "CHARSET", "CHAR_LENGTH", "CHECK", "CLEAR", "CLONE",
    "CLOSE", "CLUSTERED", "COALESCE", "COLLATE", "COLLATION", "COLLECT", "COLLECTION", "COLUMN",
    "COLUMNS", "COLUMNSTORE", "COMMENT", "COMMIT", "COMMITTED", "COMPRESSION", "COMPUTE",
    "CONCURRENTLY", "CONDITION", "CONFLICT", "CONNECTION", "CONSTRAINT", "CONTAINS", "CONTINUE",
    "CONVERT", "COPY", "COPY_OPTIONS", "CORR", "CORRESPONDING", "COUNT", "COVAR_POP",
    "COVAR_SAMP", "CREATE", "CREATEDB", "CREATEROLE", "CREDENTIALS", "CSV", "CUBE", "CUME_DIST",
    "CURRENT", "CURRENT_CATALOG", "CURRENT_DATE", "CURRENT_DEFAULT_TRANSFORM_GROUP",
    "CURRENT_PATH", "CURRENT_ROLE", "CURRENT_ROW", "CURRENT_SCHEMA", "CURRENT_TIME",
    "CURRENT_TIMESTAMP", "CURRENT_TRANSFORM_GROUP_FOR_TYPE", "CURRENT_USER", "CURSOR", "CYCLE",
    "DATA", "DATABASE", "DATA_RETENTION_TIME_IN_DAYS", "DEALLOCATE", "DECLARE", "DEDUPLICATE",
    "DEFAULT", "DEFAULT_DDL_COLLATION", "DEFERRABLE", "DEFERRED", "DEFINE", "DEFINED", "DELAYED",
    "DELETE", "DELIMITED", "DELIMITER", "DELTA", "DENSE_RANK", "DEREF", "DESC", "DESCRIBE",
    "DETACH", "DETAIL", "DETERMINISTIC", "DIRECTORY", "DISABLE", "DISCARD", "DISCONNECT",
    "DISTINCT", "DIV", "DO", "DOMAIN", "DROP", "DRY", "DUPLICATE", "DYNAMIC", "EACH", "ELEMENT",
    "ELEMENTS", "ELSE", "EMPTY", "ENABLE", "ENABLE_SCHEMA_EVOLUTION", "ENCODING", "ENCRYPTION",
    "END-EXEC", "ENDPOINT", "END_FRAME", "END_PARTITION", "ENFORCED", "ENGINE", "EPHEMERAL",
    "EQUALS", "ERROR", "ESCAPE", "ESCAPED", "EVENT", "EVERY", "EXCEPTION", "EXCLUDE", "EXCLUSIVE",
    "EXEC", "EXECUTE", "EXISTS", "EXP", "EXPANSION", "EXPLICIT", "EXPORT", "EXTENDED",
    "EXTENSION", "EXTERNAL", "EXTRACT", "FAIL", "FALSE", "FIELDS", "FILE", "FILES", "FILE_FORMAT",
    "FILL", "FILTER", "FINAL", "FIRST", "FIRST_VALUE", "FLOOR", "FLUSH", "FOLLOWING", "FORCE",
    "FORCE_NOT_NULL", "FORCE_NULL", "FORCE_QUOTE", "FOREIGN", "FORMATTED", "FORWARD", "FRAME_ROW",
    "FREE", "FREEZE", "FSCK", "FULLTEXT", "FUNCTION", "FUNCTIONS", "FUSION", "GENERAL",
    "GENERATE", "GENERATED", "GEOGRAPHY", "GET", "GRANT", "GRANTED", "GRAPHVIZ", "GROUPING",
    "GROUPS", "HASH", "HEADER", "HEAP", "HIGH_PRIORITY", "HISTORY", "HIVEVAR", "HOLD", "HOSTS",
    "HOURS", "ID", "IDENTITY", "IDENTITY_INSERT", "IF", "IGNORE", "ILIKE", "IMMEDIATE",
    "IMMUTABLE", "IN", "INCLUDE", "INCLUDE_NULL_VALUES", "INCREMENT", "INDEX", "INDICATOR",
    "INHERIT", "INITIALLY", "INOUT", "INPUT", "INPUTFORMAT", "INSENSITIVE", "INSERT", "INSTALL",
    "INSTEAD", "INTERPOLATE", "INTERSECTION", "IO", "IS", "ISOLATION", "ITEMS", "JAR", "JSONFILE",
    "JSON_TABLE", "KEY", "KEYS", "KILL", "LAG", "LANGUAGE", "LAST", "LAST_VALUE", "LEAD",
    "LEADING", "LEVEL", "LIKE", "LIKE_REGEX", "LINES", "LIST", "LN", "LOAD", "LOCAL", "LOCALTIME",
    "LOCALTIMESTAMP", "LOCATION", "LOCK", "LOCKED", "LOGIN", "LOGS", "LOWER", "LOW_PRIORITY",
    "MACRO", "MANAGEDLOCATION", "MASKING", "MATCH", "MATCHED", "MATCHES", "MATCH_CONDITION",
    "MATERIALIZE", "MATERIALIZED", "MAX", "MAXVALUE", "MAX_DATA_EXTENSION_TIME_IN_DAYS",
    "MEASURES", "MEMBER", "MERGE", "METADATA", "METHOD", "MIN", "MINVALUE", "MOD", "MODE",
    "MODIFIES", "MODIFY", "MODULE", "MSCK", "MULTISET", "MUTATION", "NAME", "NATIONAL", "NCHAR",
    "NCLOB", "NEW", "NEXT", "NO", "NOBYPASSRLS", "NOCREATEDB", "NOCREATEROLE", "NOINHERIT",
    "NOLOGIN", "NONE", "NOORDER", "NOREPLICATION", "NORMALIZE", "NOSCAN", "NOSUPERUSER", "NOT",
    "NOTHING", "NOWAIT", "NO_WRITE_TO_BINLOG", "NTH_VALUE", "NTILE", "NULL", "NULLIF", "NULLS",
    "OCCURRENCES_REGEX", "OCTETS", "OCTET_LENGTH", "OF", "OFF", "OFFSETS", "OLD", "OMIT", "ONE",
    "ONLY", "OPEN", "OPERATOR", "OPTIMIZE", "OPTIMIZER_COSTS", "OPTION", "OPTIONS", "OR", "ORC",
    "ORDINALITY", "OUT", "OUTPUTFORMAT", "OVER", "OVERFLOW", "OVERLAPS", "OVERLAY", "OVERWRITE",
    "OWNED", "OWNER", "PARALLEL", "PARAMETER", "PARQUET", "PART", "PARTITIONED", "PARTITIONS",
    "PASSWORD", "PAST", "PATH", "PATTERN", "PER", "PERCENT", "PERCENTILE_CONT", "PERCENTILE_DISC",
    "PERCENT_RANK", "PERIOD", "PERMISSIVE", "PERSISTENT", "PLACING", "PLAN", "PLANS", "POLICY",
    "PORTION", "POSITION", "POSITION_REGEX", "POWER", "PRAGMA", "PRECEDES", "PRECEDING",
    "PREPARE", "PRESERVE", "PRIMARY", "PRIOR", "PRIVILEGES", "PROCEDURE", "PROGRAM", "PROJECTION",
    "PURGE", "QUERY", "QUOTE", "RANGE", "RANK", "RAW", "RCFILE", "READ", "READS", "READ_ONLY",
    "RECURSIVE", "REF", "REFERENCES", "REFERENCING", "REGEXP", "REGR_AVGX", "REGR_AVGY",
    "REGR_COUNT", "REGR_INTERCEPT", "REGR_R2", "REGR_SLOPE", "REGR_SXX", "REGR_SXY", "REGR_SYY",
    "RELATIVE", "RELAY", "RELEASE", "REMOTE", "RENAME", "REORG", "REPAIR", "REPEATABLE",
    "REPLACE", "REPLICA", "REPLICATION", "RESET", "RESPECT", "RESTART", "RESTRICT", "RESTRICTED",
    "RESTRICTIVE", "RESULT", "RESULTSET", "RETAIN", "RETURN", "RETURNS", "REVOKE", "RLIKE",
    "ROLE", "ROLES", "ROLLBACK", "ROLLUP", "ROOT", "ROW", "ROWID", "ROWS", "ROW_NUMBER", "RULE",
    "RUN", "SAFE", "SAFE_CAST", "SAMPLE", "SAVEPOINT", "SCHEMA", "SCHEMAS", "SCOPE", "SCROLL",
    "SEARCH", "SECONDARY", "SECRET", "SECURITY", "SEED", "SELECTIVE", "SEMI", "SENSITIVE",
    "SEPARATOR", "SEQUENCE", "SEQUENCEFILE", "SEQUENCES", "SERDE", "SERDEPROPERTIES",
    "SERIALIZABLE", "SESSION", "SESSION_USER", "SETS", "SHARE", "SHOW", "SIMILAR", "SKIP", "SLOW",
    "SNAPSHOT", "SOME", "SORTED", "SOURCE", "SPATIAL", "SPECIFIC", "SPECIFICTYPE", "SQL",
    "SQLEXCEPTION", "SQLSTATE", "SQLWARNING", "SQRT", "STABLE", "STAGE", "STATEMENT", "STATIC",
    "STATISTICS", "STATUS", "STDDEV_POP", "STDDEV_SAMP", "STDIN", "STDOUT", "STEP",
    "STORAGE_INTEGRATION", "STORED", "STRICT", "SUBMULTISET", "SUBSTRING", "SUBSTRING_REGEX",
    "SUCCEEDS", "SUM", "SUPER", "SUPERUSER", "SWAP", "SYMMETRIC", "SYNC", "SYSTEM", "SYSTEM_TIME",
    "SYSTEM_USER", "TABLE", "TABLES", "TABLESAMPLE", "TAG", "TARGET", "TASK", "TBLPROPERTIES",
    "TEMP", "TEMPORARY", "TERMINATED", "TEXTFILE", "THEN", "TIES", "TO", "TOTALS", "TRACE",
    "TRAILING", "TRANSACTION", "TRANSIENT", "TRANSLATE", "TRANSLATE_REGEX", "TRANSLATION",
    "TREAT", "TRIM", "TRIM_ARRAY", "TRUE", "TRUNCATE", "TRY", "TRY_CAST", "TRY_CONVERT", "TYPE",
    "UESCAPE", "UNBOUNDED", "UNCACHE", "UNCOMMITTED", "UNFREEZE", "UNIQUE", "UNKNOWN", "UNLOAD",
    "UNLOCK", "UNLOGGED", "UNMATCHED", "UNNEST", "UNSAFE", "UNTIL", "UPDATE", "UPPER", "URL",
    "USAGE", "USE", "USER", "USER_RESOURCES", "VACUUM", "VALID", "VALIDATION_MODE", "VALUE",
    "VALUES", "VALUE_OF", "VARIABLES", "VAR_POP", "VAR_SAMP", "VERBOSE", "VERSION", "VERSIONING",
    "VERSIONS", "VIEWS", "VIRTUAL", "VOLATILE", "WAREHOUSE", "WHEN", "WHENEVER", "WIDTH_BUCKET",
    "WITHIN", "WITHOUT", "WITHOUT_ARRAY_WRAPPER", "WORK", "WRITE", "XML", "XOR", "ZORDER"]

/-- All keywords. -/
def all : List String :=
  columnReserved ++ tableReserved ++ temporalUnits ++ temporalFields ++ typeWords ++ grammarWords

/-- Whether a token is a word that is no keyword. -/
def isPlainWord (token : Token) : Bool :=
  match token with
  | .word _ _ =>
      match token.keyword? with
      | some keyword => !all.contains keyword
      | none => true
  | _ => false

end ScalarSql.Syntax.Keyword
