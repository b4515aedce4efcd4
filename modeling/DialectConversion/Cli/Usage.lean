/-! The help texts and the version of the command line. -/
namespace DialectConversion.Cli
set_option autoImplicit false

def versionText : String := "sqlbridge 0.1.0\n"

/-- The beginning that both help texts share. -/
def helpBeginning : String :=
  "Convert Oracle SQL syntax trees into SQL Server form\n\n" ++
  "Usage: sqlbridge [OPTIONS] [FILES]...\n\n"

/-- The help text with a line for every option. -/
def shortHelp : String := helpBeginning ++
  "Arguments:\n" ++
  "  [FILES]...  Input files (reads from stdin if none provided)\n" ++
  "\n" ++
  "Options:\n" ++
  "  -i, --input <INPUT>             What the input files contain [default: sql] [possible values: sql, json]\n" ++
  "  -f, --format <FORMAT>           Output format [default: sql] [possible values: sql, json, tree]\n" ++
  "      --disable-converter <NAME>  Comma-separated list of converters to disable (e.g., aggregate-over-expression)\n" ++
  "      --config <FILE>             JSON converter configuration file\n" ++
  "  -o, --output <FILE>             Output file (defaults to stdout)\n" ++
  "  -q, --quiet                     Suppress diagnostics on stderr\n" ++
  "  -c, --compact                   Compact JSON output (no pretty-printing)\n" ++
  "  -h, --help                      Print help (see more with '--help')\n" ++
  "  -V, --version                   Print version\n"

/-- The help text with a paragraph for every option. -/
def longHelp : String := helpBeginning ++
  "Arguments:\n" ++
  "  [FILES]...\n" ++
  "          Input files (reads from stdin if none provided)\n" ++
  "\n" ++
  "Options:\n" ++
  "  -i, --input <INPUT>\n" ++
  "          What the input files contain\n" ++
  "\n" ++
  "          Possible values:\n" ++
  "          - sql:  SQL text\n" ++
  "          - json: Source syntax tree as JSON\n" ++
  "          \n" ++
  "          [default: sql]\n" ++
  "\n" ++
  "  -f, --format <FORMAT>\n" ++
  "          Output format\n" ++
  "\n" ++
  "          Possible values:\n" ++
  "          - sql:  Rendered T-SQL text\n" ++
  "          - json: Converted tree and diagnostics as JSON\n" ++
  "          - tree: Indented outline of the converted tree\n" ++
  "          \n" ++
  "          [default: sql]\n" ++
  "\n" ++
  "      --disable-converter <NAME>\n" ++
  "          Comma-separated list of converters to disable (e.g., aggregate-over-expression)\n" ++
  "\n" ++
  "      --config <FILE>\n" ++
  "          JSON converter configuration file\n" ++
  "\n" ++
  "  -o, --output <FILE>\n" ++
  "          Output file (defaults to stdout)\n" ++
  "\n" ++
  "  -q, --quiet\n" ++
  "          Suppress diagnostics on stderr\n" ++
  "\n" ++
  "  -c, --compact\n" ++
  "          Compact JSON output (no pretty-printing)\n" ++
  "\n" ++
  "  -h, --help\n" ++
  "          Print help (see a summary with '-h')\n" ++
  "\n" ++
  "  -V, --version\n" ++
  "          Print version\n"

end DialectConversion.Cli
