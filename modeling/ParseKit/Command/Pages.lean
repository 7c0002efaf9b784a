import ParseKit.Text.Basic

/-!
The help pages.
-/

namespace ParseKit

namespace Command

def page (lines : List String) : Text := lines.flatMap fun line => line.toList ++ ['\n']

def toolkitPage (version : Text) : Text :=
  page
    ["Usage: pcomb [OPTIONS] COMMAND [ARGS]...",
      "",
      "  Parser combinator toolkit. Evaluate arithmetic expressions and try out the",
      "  primitive parsers from the command line.",
      "",
      "Options:",
      "  --config FILE                   Load option values from table 'pcomb' in the",
      "                                  given TOML config file. A non-existent path or",
      "                                  '/dev/null' are ignored and treated as empty",
      "                                  tables.  [default: /etc/pcomb/config.toml]",
      "  --log-level [DEBUG|INFO|WARNING|ERROR|CRITICAL]",
      "                                  Logging verbosity level.  [default: WARNING]",
      "  --log-folder DIRECTORY          The directory where logs will be stored. Logs",
      "                                  go to stderr if omitted.",
      "  --stdout                        Whether to write logs to stdout instead of",
      "                                  stderr.",
      "  --version                       Show the version and exit.",
      "  --help                          Show this message and exit.",
      "",
      "Commands:",
      "  eval   Parse and evaluate each arithmetic EXPRESSION, printing one result...",
      "  match  Run a single primitive parser for PATTERN on INPUT and print the...",
      ""]
    ++ "  pcomb Version: ".toList ++ version ++ ['\n']

def evaluatePage : Text := page
  ["Usage: pcomb eval [OPTIONS] EXPRESSIONS...",
    "",
    "  Parse and evaluate each arithmetic EXPRESSION, printing one result per line.",
    "",
    "Options:",
    "  --grammar [binary|binary-go|chain]",
    "                                  Which arithmetic grammar to use. 'binary' and",
    "                                  'binary-go' accept exactly one operator;",
    "                                  'chain' accepts any number, evaluated left to",
    "                                  right.  [default: chain]",
    "  --help                          Show this message and exit."]

def matchPage : Text := page
  ["Usage: pcomb match [OPTIONS] PATTERN INPUT",
    "",
    "  Run a single primitive parser for PATTERN on INPUT and print the parsed data",
    "  and the remaining input as JSON.",
    "",
    "Options:",
    "  --regex  Treat PATTERN as a regular expression anchored at the start of INPUT.",
    "  --help   Show this message and exit."]

end Command

end ParseKit
