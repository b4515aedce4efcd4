/-! The words with a meaning of their own in SQL, in upper case, and those of them that cannot be an
alias without AS in front. -/
namespace DialectConversion.Sql.Keyword
set_option autoImplicit false
set_option maxRecDepth 8000

/-- The words that are keywords somewhere in SQL: their first three letters, or all there are, with
what may follow these letters. -/
def endings : List (String × List String) := [
  ("ABO", ["RT"]), ("ABS", ["", "ENT", "OLUTE"]),
  ("ACC", ["EPTANYDATE", "EPTINVCHARS", "ESS", "OUNT"]), ("ACT", ["ION"]), ("ADD", ["", "QUOTES"]),
  ("ADM", ["IN"]), ("AFT", ["ER"]), ("AGA", ["INST"]), ("AGG", ["REGATE", "REGATION"]),
  ("ALE", ["RT"]), ("ALG", ["ORITHM"]), ("ALI", ["AS"]), ("ALL", ["", "OCATE", "OWOVERWRITE"]),
  ("ALT", ["ER"]), ("ALW", ["AYS"]), ("ANA", ["LYZE"]), ("AND", [""]), ("ANT", ["I"]),
  ("ANY", [""]), ("APP", ["LICATION", "LY", "LYBUDGET"]), ("ARC", ["HIVE"]), ("ARE", [""]),
  ("ARR", ["AY", "AY_MAX_CARDINALITY"]), ("AS", [""]), ("ASC", [""]), ("ASE", ["NSITIVE"]),
  ("ASO", ["F"]), ("ASS", ["ERT"]), ("ASY", ["MMETRIC"]), ("AT", [""]), ("ATO", ["MIC"]),
  ("ATT", ["ACH"]), ("AUD", ["IT"]),
  ("AUT", ["HENTICATION", "HORIZATION", "HORIZATIONS", "O", "OEXTEND_SIZE", "OINCREMENT",
    "O_INCREMENT"]), ("AVG", ["", "_ROW_LENGTH"]), ("AVR", ["O"]), ("BAC", ["KWARD"]),
  ("BAS", ["E64", "E_LOCATION"]), ("BEF", ["ORE"]), ("BEG", ["IN", "IN_FRAME", "IN_PARTITION"]),
  ("BER", ["NOULLI"]), ("BET", ["WEEN"]), ("BIG", ["DECIMAL", "INT", "NUMERIC"]),
  ("BIN", ["ARY", "D", "DING"]), ("BIT", [""]), ("BLA", ["NKSASNULL"]),
  ("BLO", ["B", "CK", "OM", "OMFILTER"]), ("BOO", ["L", "LEAN", "ST"]), ("BOT", ["H"]),
  ("BOX", [""]), ("BRI", ["N"]), ("BRO", ["WSE"]), ("BTR", ["EE"]), ("BUC", ["KET", "KETS"]),
  ("BY", [""]), ("BYP", ["ASSRLS"]), ("BYT", ["EA", "ES"]), ("BZI", ["P2"]), ("CAC", ["HE"]),
  ("CAL", ["L", "LED"]), ("CAR", ["DINALITY"]), ("CAS", ["CADE", "CADED", "E", "ES", "T"]),
  ("CAT", ["ALOG", "ALOG_SYNC", "CH"]), ("CEI", ["L", "LING"]), ("CEN", ["TURY"]),
  ("CHA", ["IN", "NGE", "NGE_TRACKING", "NNEL", "R", "RACTER", "RACTERISTICS", "RACTERS",
    "RACTER_LENGTH", "RSET", "R_LENGTH"]), ("CHE", ["CK", "CKSUM"]), ("CIR", ["CLE"]),
  ("CLE", ["ANPATH", "AR"]), ("CLO", ["B", "NE", "SE"]), ("CLU", ["STER", "STERED", "STERING"]),
  ("COA", ["LESCE"]),
  ("COL", ["LATE", "LATION", "LECT", "LECTION", "LECTIONS", "UMN", "UMNS", "UMNSTORE"]),
  ("COM", ["MENT", "MIT", "MITTED", "PATIBLE", "PRESSION", "PUPDATE", "PUTE"]),
  ("CON", ["CURRENTLY", "DITION", "FLICT", "NECT", "NECTION", "NECTOR", "NECT_BY_ROOT", "STRAINT",
    "TACT", "TAINS", "TINUE", "VERT"]), ("COP", ["Y", "Y_OPTIONS"]), ("COR", ["R", "RESPONDING"]),
  ("COU", ["NT"]), ("COV", ["AR_POP", "AR_SAMP"]), ("CRE", ["ATE", "ATEDB", "ATEROLE", "DENTIALS"]),
  ("CRO", ["SS"]), ("CSV", [""]), ("CUB", ["E"]), ("CUM", ["E_DIST"]),
  ("CUR", ["RENT", "RENT_CATALOG", "RENT_DATE", "RENT_DEFAULT_TRANSFORM_GROUP", "RENT_PATH",
    "RENT_ROLE", "RENT_ROW", "RENT_SCHEMA", "RENT_TIME", "RENT_TIMESTAMP",
    "RENT_TRANSFORM_GROUP_FOR_TYPE", "RENT_USER", "SOR"]), ("CYC", ["LE"]),
  ("DAT", ["A", "ABASE", "ABASES", "A_RETENTION_TIME_IN_DAYS", "E", "E32", "EFORMAT", "ETIME",
    "ETIME64"]), ("DAY", ["", "OFWEEK", "OFYEAR", "S"]), ("DCP", ["ROPERTIES"]),
  ("DEA", ["LLOCATE"]), ("DEC", ["", "ADE", "IMAL", "LARE"]), ("DED", ["UPLICATE"]),
  ("DEF", ["AULT", "AULTS", "AULT_DDL_COLLATION", "AULT_MFA_METHOD", "AULT_SECONDARY_ROLES",
    "ERRABLE", "ERRED", "INE", "INED", "INER"]),
  ("DEL", ["AYED", "AY_KEY_WRITE", "EGATED", "ETE", "IMITED", "IMITER", "TA"]),
  ("DEN", ["SE_RANK", "Y"]), ("DER", ["EF"]), ("DES", ["C", "CRIBE"]),
  ("DET", ["ACH", "AIL", "ERMINISTIC"]), ("DIM", ["ENSIONS"]), ("DIR", ["ECTORY"]),
  ("DIS", ["ABLE", "CARD", "CONNECT", "TINCT", "TRIBUTE"]), ("DIV", [""]), ("DO", [""]),
  ("DOM", ["AIN"]), ("DOU", ["BLE"]), ("DOW", [""]), ("DOY", [""]), ("DRO", ["P"]), ("DRY", [""]),
  ("DUO", [""]), ("DUP", ["LICATE"]), ("DYN", ["AMIC"]), ("EAC", ["H"]), ("ELE", ["MENT", "MENTS"]),
  ("ELS", ["E", "EIF"]), ("EMP", ["TY", "TYASNULL"]), ("ENA", ["BLE", "BLE_SCHEMA_EVOLUTION"]),
  ("ENC", ["ODING", "RYPTED", "RYPTION"]), ("END", ["", "-EXEC", "POINT", "_FRAME", "_PARTITION"]),
  ("ENF", ["ORCED"]), ("ENG", ["INE", "INE_ATTRIBUTE"]), ("ENR", ["OLL"]),
  ("ENU", ["M", "M16", "M8"]), ("EPH", ["EMERAL"]), ("EPO", ["CH"]), ("EQU", ["ALS"]),
  ("ERR", ["OR"]), ("ESC", ["APE", "APED"]), ("EST", ["IMATE"]), ("EVE", ["NT", "RY"]),
  ("EVO", ["LVE"]), ("EXC", ["EPT", "EPTION", "HANGE", "LUDE", "LUDING", "LUSIVE"]),
  ("EXE", ["C", "CUTE", "CUTION"]), ("EXI", ["STS"]),
  ("EXP", ["", "ANSION", "LAIN", "LICIT", "ORT"]),
  ("EXT", ["END", "ENDED", "ENSION", "ERNAL", "ERNAL_VOLUME", "RACT"]), ("FAC", ["TS"]),
  ("FAI", ["L", "LOVER"]), ("FAL", ["SE"]), ("FET", ["CH"]), ("FIE", ["LDS"]),
  ("FIL", ["E", "ES", "E_FORMAT", "L", "TER"]), ("FIN", ["AL"]), ("FIR", ["ST", "ST_VALUE"]),
  ("FIX", ["EDSTRING", "EDWIDTH"]), ("FLA", ["TTEN"]),
  ("FLO", ["AT", "AT32", "AT4", "AT64", "AT8", "OR"]), ("FLU", ["SH"]), ("FN", [""]),
  ("FOL", ["LOWING"]),
  ("FOR", ["", "CE", "CE_NOT_NULL", "CE_NULL", "CE_QUOTE", "EIGN", "MAT", "MATTED", "WARD"]),
  ("FRA", ["ME_ROW"]), ("FRE", ["E", "EZE"]), ("FRO", ["M"]), ("FSC", ["K"]),
  ("FUL", ["FILLMENT", "L", "LTEXT"]), ("FUN", ["CTION", "CTIONS"]), ("FUS", ["ION"]),
  ("FUT", ["URE"]), ("GB", [""]), ("GEN", ["ERAL", "ERATE", "ERATED"]), ("GEO", ["GRAPHY"]),
  ("GET", [""]), ("GIN", [""]), ("GIS", ["T"]), ("GLO", ["BAL"]),
  ("GRA", ["NT", "NTED", "NTS", "PHVIZ"]), ("GRO", ["UP", "UPING", "UPS"]), ("GZI", ["P"]),
  ("HAS", ["H"]), ("HAV", ["ING"]), ("HEA", ["DER", "P"]), ("HIG", ["H_PRIORITY"]),
  ("HIS", ["TORY"]), ("HIV", ["EVAR"]), ("HOL", ["D"]), ("HOS", ["TS"]), ("HOU", ["R", "RS"]),
  ("HUG", ["EINT"]), ("IAM", ["_ROLE"]), ("ICE", ["BERG"]), ("ID", [""]),
  ("IDE", ["NTIFIED", "NTITY", "NTITY_INSERT"]), ("IF", [""]), ("IGN", ["ORE", "OREHEADER"]),
  ("ILI", ["KE"]), ("IMM", ["EDIATE", "UTABLE"]), ("IMP", ["ORT", "ORTED"]), ("IN", [""]),
  ("INC", ["LUDE", "LUDE_NULL_VALUES", "LUDING", "REMENT", "REMENTAL"]), ("IND", ["EX", "ICATOR"]),
  ("INH", ["ERIT", "ERITS"]), ("INI", ["TIALIZE", "TIALLY"]), ("INN", ["ER"]), ("INO", ["UT"]),
  ("INP", ["ATH", "LACE", "UTFORMAT"]),
  ("INS", ["ENSITIVE", "ERT", "ERT_METHOD", "TALL", "TANT", "TEAD"]),
  ("INT", ["", "128", "16", "2", "256", "32", "4", "64", "8", "EGER", "EGRATION", "ERPOLATE",
    "ERSECT", "ERSECTION", "ERVAL", "O"]), ("INV", ["OKER"]), ("IO", [""]), ("IS", [""]),
  ("ISO", ["DOW", "LATION", "WEEK", "YEAR"]), ("ITE", ["MS"]), ("JAR", [""]), ("JOI", ["N"]),
  ("JSO", ["N", "NB", "N_TABLE"]), ("JUL", ["IAN"]), ("KEY", ["", "S", "_BLOCK_SIZE"]),
  ("KIL", ["L"]), ("LAG", [""]), ("LAN", ["GUAGE"]), ("LAR", ["GE"]), ("LAS", ["T", "T_VALUE"]),
  ("LAT", ["ERAL"]), ("LEA", ["D", "DING"]), ("LEF", ["T"]), ("LEV", ["EL"]),
  ("LIK", ["E", "E_REGEX"]), ("LIM", ["IT"]), ("LIN", ["E", "ES"]), ("LIS", ["T", "TEN", "TING"]),
  ("LN", [""]), ("LOA", ["D"]), ("LOC", ["AL", "ALTIME", "ALTIMESTAMP", "ATION", "K", "KED"]),
  ("LOG", ["", "IN", "S"]), ("LON", ["GBLOB", "GTEXT"]),
  ("LOW", ["CARDINALITY", "ER", "_PRIORITY"]), ("LS", [""]), ("LSE", ["G"]), ("MAC", ["RO"]),
  ("MAN", ["AGE", "AGED", "AGEDLOCATION", "IFEST"]), ("MAP", [""]), ("MAS", ["KING"]),
  ("MAT", ["CH", "CHED", "CHES", "CH_CONDITION", "CH_RECOGNIZE", "ERIALIZE", "ERIALIZED"]),
  ("MAX", ["", "FILESIZE", "VALUE", "_DATA_EXTENSION_TIME_IN_DAYS", "_ROWS"]), ("MB", [""]),
  ("MEA", ["SURES"]), ("MED", ["IUMBLOB", "IUMINT", "IUMTEXT"]), ("MEM", ["BER"]), ("MER", ["GE"]),
  ("MES", ["SAGE"]), ("MET", ["ADATA", "HOD", "RIC", "RICS"]), ("MIC", ["ROSECOND", "ROSECONDS"]),
  ("MIL", ["LENIUM", "LENNIUM", "LISECOND", "LISECONDS"]),
  ("MIN", ["", "US", "UTE", "UTES", "VALUE", "_ROWS"]), ("MOD", ["", "E", "IFIES", "IFY", "ULE"]),
  ("MON", ["ITOR", "TH", "THS"]), ("MSC", ["K"]), ("MUL", ["TISET"]), ("MUT", ["ATION"]),
  ("NAM", ["E", "ES"]), ("NAN", ["OSECOND", "OSECONDS"]), ("NAT", ["IONAL", "URAL"]),
  ("NCH", ["AR"]), ("NCL", ["OB"]), ("NES", ["T", "TED"]), ("NET", ["WORK"]), ("NEW", [""]),
  ("NEX", ["T"]), ("NFC", [""]), ("NFD", [""]), ("NFK", ["C", "D"]), ("NO", [""]),
  ("NOB", ["YPASSRLS"]), ("NOC", ["OMPRESS", "REATEDB", "REATEROLE"]), ("NOI", ["NHERIT"]),
  ("NOL", ["OGIN"]), ("NON", ["E"]), ("NOO", ["RDER"]),
  ("NOR", ["EPLICATION", "MALIZE", "MALIZED"]), ("NOS", ["CAN", "UPERUSER"]),
  ("NOT", ["", "HING", "IFY", "NULL"]), ("NOW", ["AIT"]), ("NO_", ["WRITE_TO_BINLOG"]),
  ("NTH", ["_VALUE"]), ("NTI", ["LE"]), ("NUL", ["L", "LABLE", "LIF", "LS"]), ("NUM", ["ERIC"]),
  ("NVA", ["RCHAR"]), ("OBJ", ["ECT", "ECTS"]), ("OCC", ["URRENCES_REGEX"]),
  ("OCT", ["ETS", "ET_LENGTH"]), ("OF", [""]), ("OFF", ["", "LINE", "SET", "SETS"]), ("OLD", [""]),
  ("OMI", ["T"]), ("ON", [""]), ("ONE", [""]), ("ONL", ["Y"]), ("ON_", ["CREATE", "SCHEDULE"]),
  ("OPE", ["N", "NJSON", "RATE", "RATOR"]),
  ("OPT", ["IMIZATION", "IMIZE", "IMIZED", "IMIZER_COSTS", "ION", "IONS"]), ("OR", [""]),
  ("ORC", [""]), ("ORD", ["ER", "INALITY"]), ("ORG", ["ANIZATION"]), ("OTH", ["ER"]),
  ("OUT", ["", "ER", "PUT", "PUTFORMAT"]),
  ("OVE", ["R", "RFLOW", "RLAPS", "RLAY", "RRIDE", "RWRITE"]), ("OWN", ["ED", "ER", "ERSHIP"]),
  ("PAC", ["KAGE", "KAGES", "K_KEYS"]),
  ("PAR", ["ALLEL", "AMETER", "QUET", "T", "TIAL", "TITION", "TITIONED", "TITIONS"]),
  ("PAS", ["SING", "SKEY", "SWORD", "T"]), ("PAT", ["H", "TERN"]), ("PCT", ["FREE"]),
  ("PER", ["", "CENT", "CENTILE_CONT", "CENTILE_DISC", "CENT_RANK", "IOD", "MISSIVE", "SISTENT"]),
  ("PIV", ["OT"]), ("PLA", ["CING", "IN", "N", "NS"]), ("POI", ["NT"]), ("POL", ["ICY", "YGON"]),
  ("POO", ["L"]), ("POR", ["TION"]), ("POS", ["ITION", "ITION_REGEX"]), ("POW", ["ER"]),
  ("PRA", ["GMA"]), ("PRE", ["CEDES", "CEDING", "CISION", "PARE", "SERVE", "SET", "WHERE"]),
  ("PRI", ["MARY", "NT", "OR", "VILEGES"]), ("PRO", ["CEDURE", "FILE", "GRAM", "JECTION"]),
  ("PUB", ["LIC"]), ("PUR", ["CHASE", "GE"]), ("QUA", ["LIFY", "RTER"]), ("QUE", ["RIES", "RY"]),
  ("QUO", ["TE"]), ("RAI", ["SE", "SERROR"]), ("RAN", ["GE", "K"]), ("RAW", [""]), ("RCF", ["ILE"]),
  ("REA", ["D", "DS", "D_ONLY", "L"]), ("REC", ["LUSTER", "URSIVE"]),
  ("REF", ["", "ERENCES", "ERENCING", "RESH_MODE"]),
  ("REG", ["CLASS", "EXP", "ION", "R_AVGX", "R_AVGY", "R_COUNT", "R_INTERCEPT", "R_R2", "R_SLOPE",
    "R_SXX", "R_SXY", "R_SYY"]), ("REI", ["NDEX"]), ("REL", ["ATIVE", "AY", "EASE", "EASES"]),
  ("REM", ["AINDER", "OTE", "OVE", "OVEQUOTES"]), ("REN", ["AME"]), ("REO", ["RG"]),
  ("REP", ["AIR", "EATABLE", "LACE", "LICA", "LICATE", "LICATION"]), ("REQ", ["UIRE"]),
  ("RES", ["ET", "OLVE", "OURCE", "PECT", "TART", "TRICT", "TRICTED", "TRICTIONS", "TRICTIVE",
    "ULT", "ULTSET", "UME"]), ("RET", ["AIN", "URN", "URNING", "URNS"]), ("REV", ["OKE"]),
  ("RIG", ["HT"]), ("RLI", ["KE"]), ("RM", [""]), ("ROL", ["E", "ES", "LBACK", "LUP"]),
  ("ROO", ["T"]), ("ROW", ["", "GROUPSIZE", "ID", "S", "_FORMAT", "_NUMBER"]), ("RUL", ["E"]),
  ("RUN", [""]), ("SAF", ["E", "E_CAST"]), ("SAM", ["PLE"]), ("SAV", ["EPOINT"]),
  ("SCH", ["EMA", "EMAS"]), ("SCO", ["PE"]), ("SCR", ["OLL"]), ("SEA", ["RCH"]),
  ("SEC", ["OND", "ONDARY", "ONDARY_ENGINE_ATTRIBUTE", "ONDS", "RET", "URE", "URITY"]),
  ("SEE", ["D"]), ("SEL", ["ECT"]), ("SEM", ["ANTIC_VIEW", "I"]), ("SEN", ["SITIVE"]),
  ("SEP", ["ARATOR"]), ("SEQ", ["UENCE", "UENCEFILE", "UENCES"]),
  ("SER", ["DE", "DEPROPERTIES", "IALIZABLE", "VER", "VICE"]), ("SES", ["SION", "SION_USER"]),
  ("SET", ["", "ERROR", "S", "TINGS"]), ("SHA", ["RE", "RED", "RING"]), ("SHO", ["W"]),
  ("SIG", ["NED"]), ("SIM", ["ILAR"]), ("SKI", ["P"]), ("SLO", ["W"]), ("SMA", ["LLINT"]),
  ("SNA", ["PSHOT"]), ("SOM", ["E"]), ("SOR", ["T", "TED"]), ("SOU", ["RCE"]), ("SPA", ["TIAL"]),
  ("SPE", ["CIFIC", "CIFICTYPE"]), ("SPG", ["IST"]), ("SQL", ["", "EXCEPTION", "STATE", "WARNING"]),
  ("SQR", ["T"]), ("SRI", ["D"]),
  ("STA", ["BLE", "GE", "RT", "RTS", "TEMENT", "TIC", "TISTICS", "TS_AUTO_RECALC", "TS_PERSISTENT",
    "TS_SAMPLE_PAGES", "TUPDATE", "TUS"]), ("STD", ["DEV_POP", "DEV_SAMP", "IN", "OUT"]),
  ("STE", ["P"]), ("STO", ["RAGE", "RAGE_INTEGRATION", "RAGE_SERIALIZATION_POLICY", "RED"]),
  ("STR", ["AIGHT_JOIN", "EAM", "ICT", "ING", "UCT"]),
  ("SUB", ["MULTISET", "STR", "STRING", "STRING_REGEX"]), ("SUC", ["CEEDS"]), ("SUM", [""]),
  ("SUP", ["ER", "ERUSER", "PORT"]), ("SUS", ["PEND"]), ("SWA", ["P"]), ("SYM", ["METRIC"]),
  ("SYN", ["C", "ONYM"]), ("SYS", ["TEM", "TEM_TIME", "TEM_USER"]),
  ("TAB", ["LE", "LES", "LESAMPLE", "LESPACE"]), ("TAG", [""]), ("TAR", ["GET", "GET_LAG"]),
  ("TAS", ["K"]), ("TBL", ["PROPERTIES"]), ("TEM", ["P", "PORARY", "PTABLE"]),
  ("TER", ["MINATED", "SE"]), ("TEX", ["T", "TFILE"]), ("THE", ["N"]), ("TIE", ["S"]),
  ("TIM", ["E", "EFORMAT", "ESTAMP", "ESTAMPTZ", "ESTAMP_NTZ", "ETZ", "EZONE", "EZONE_ABBR",
    "EZONE_HOUR", "EZONE_MINUTE", "EZONE_REGION"]), ("TIN", ["YBLOB", "YINT", "YTEXT"]),
  ("TO", [""]), ("TOP", [""]), ("TOT", ["ALS", "P"]),
  ("TRA", ["CE", "DITIONAL", "ILING", "N", "NSACTION", "NSIENT", "NSLATE", "NSLATE_REGEX",
    "NSLATION"]), ("TRE", ["AT", "E"]), ("TRI", ["GGER", "M", "M_ARRAY"]),
  ("TRU", ["E", "NCATE", "NCATECOLUMNS"]), ("TRY", ["", "_CAST", "_CONVERT"]), ("TSQ", ["UERY"]),
  ("TSV", ["ECTOR"]), ("TUP", ["LE"]), ("TYP", ["E"]), ("UBI", ["GINT"]), ("UES", ["CAPE"]),
  ("UHU", ["GEINT"]), ("UIN", ["T128", "T16", "T256", "T32", "T64", "T8"]), ("UNB", ["OUNDED"]),
  ("UNC", ["ACHE", "OMMITTED"]), ("UND", ["EFINED"]), ("UNF", ["REEZE"]), ("UNI", ["ON", "QUE"]),
  ("UNK", ["NOWN"]), ("UNL", ["ISTEN", "OAD", "OCK", "OGGED"]), ("UNM", ["ATCHED"]),
  ("UNN", ["EST"]), ("UNP", ["IVOT"]), ("UNS", ["AFE", "ET", "IGNED"]), ("UNT", ["IL"]),
  ("UPD", ["ATE"]), ("UPP", ["ER"]), ("URL", [""]), ("USA", ["GE"]),
  ("USE", ["", "R", "R_RESOURCES"]), ("USI", ["NG"]), ("USM", ["ALLINT"]), ("UTI", ["NYINT"]),
  ("UUI", ["D"]), ("VAC", ["UUM"]), ("VAL", ["ID", "IDATE", "IDATION_MODE", "UE", "UES", "UE_OF"]),
  ("VAR", ["BINARY", "BIT", "CHAR", "IABLES", "YING", "_POP", "_SAMP"]),
  ("VER", ["BOSE", "SION", "SIONING", "SIONS"]), ("VIE", ["W", "WS"]), ("VIR", ["TUAL"]),
  ("VOL", ["ATILE", "UME"]), ("WAR", ["EHOUSE", "EHOUSES"]), ("WEE", ["K", "KS"]),
  ("WHE", ["N", "NEVER", "RE"]), ("WHI", ["LE"]), ("WID", ["TH_BUCKET"]), ("WIN", ["DOW"]),
  ("WIT", ["H", "HIN", "HOUT", "HOUT_ARRAY_WRAPPER"]), ("WOR", ["K", "KLOAD_IDENTITY"]),
  ("WRA", ["PPER"]), ("WRI", ["TE"]), ("XML", ["", "NAMESPACES", "TABLE"]), ("XOR", [""]),
  ("YEA", ["R", "RS"]), ("ZON", ["E"]), ("ZOR", ["DER"]), ("ZST", ["D"])]

def isKeyword (word : String) : Bool :=
  endings.any fun (head, tails) => tails.any fun tail => word == head ++ tail

/-- The keywords that end an expression in a select list and so are no bare alias of it. -/
def closingColumn : List String := [
  "WITH", "EXPLAIN", "ANALYZE", "SELECT", "WHERE", "GROUP", "SORT", "HAVING", "ORDER", "TOP",
  "LATERAL", "VIEW", "LIMIT", "OFFSET", "FETCH", "UNION", "EXCEPT", "EXCLUDE", "INTERSECT",
  "MINUS", "CLUSTER", "DISTRIBUTE", "RETURNING", "FROM", "INTO", "END"]

/-- The keywords that end a table in a FROM clause and so are no bare alias of it. -/
def closingTable : List String := [
  "WITH", "EXPLAIN", "ANALYZE", "SELECT", "WHERE", "GROUP", "SORT", "HAVING", "ORDER", "PIVOT",
  "UNPIVOT", "TOP", "LATERAL", "VIEW", "LIMIT", "OFFSET", "FETCH", "UNION", "EXCEPT",
  "INTERSECT", "MINUS", "ON", "JOIN", "INNER", "CROSS", "FULL", "LEFT", "RIGHT", "NATURAL",
  "USING", "CLUSTER", "DISTRIBUTE", "GLOBAL", "ANTI", "SEMI", "RETURNING", "ASOF",
  "MATCH_CONDITION", "OUTER", "SET", "QUALIFY", "WINDOW", "END", "FOR", "PARTITION", "PREWHERE",
  "SETTINGS", "FORMAT", "START", "CONNECT", "MATCH_RECOGNIZE", "SAMPLE", "TABLESAMPLE", "FROM",
  "OPEN"]

/-- The keywords whose special form has to be well-formed, as they are no names on their own. -/
def neverNames : List String := ["EXISTS", "INTERVAL", "STRUCT", "TRIM"]

def temporalUnits : List String := [
  "YEAR", "YEARS", "MONTH", "MONTHS", "WEEK", "WEEKS", "DAY", "DAYS", "DAYOFWEEK", "DAYOFYEAR",
  "DATE", "DATETIME", "HOUR", "HOURS", "MINUTE", "MINUTES", "SECOND", "SECONDS", "CENTURY",
  "DECADE", "DOW", "DOY", "EPOCH", "ISODOW", "ISOYEAR", "ISOWEEK", "JULIAN", "MICROSECOND",
  "MICROSECONDS", "MILLENIUM", "MILLENNIUM", "MILLISECOND", "MILLISECONDS", "NANOSECOND",
  "NANOSECONDS", "QUARTER", "TIME", "TIMEZONE", "TIMEZONE_ABBR", "TIMEZONE_HOUR",
  "TIMEZONE_MINUTE", "TIMEZONE_REGION"]

def intervalUnits : List String := temporalUnits.filter fun unit =>
  ! ["DATE", "DATETIME", "TIME", "DAYOFWEEK", "DAYOFYEAR", "ISOWEEK", "TIMEZONE_ABBR",
    "TIMEZONE_REGION"].contains unit

end DialectConversion.Sql.Keyword
