/-! What the command says about itself. -/
namespace SqlMargin.Command

def version : String := "0.1.0"

def versionText : String := s!"cli, version {version}\n"

/-- Shown before a message about a command line that is not understood. -/
def usageText : String := "Usage: cli [OPTIONS] FILEPATH\nTry 'cli --help' for help.\n\n"

def helpLines : List String :=
  [
    "Usage: cli [OPTIONS] FILEPATH",
    "",
    "  Re-indent FILEPATH, a SQL file inside the current directory.",
    "",
    "  Options given on the command line take precedence over the `[tool.sql-indent]`",
    "  table of the nearest pyproject.toml or .sql-indent.toml.",
    "",
    "  Args:     filepath: Path to the SQL file to process.     indent_offset:",
    "  Override for the number of columns per nesting level.     tab_width: Override",
    "  for the column width of a tab.     indent_with_tabs: Override for writing tabs",
    "  in indentation.     debug_logging: Override for per-line diagnostic logging.",
    "  line_number: Single 1-based line to re-indent.     in_place: Rewrite the file",
    "  instead of printing the result.     check: Only report whether the file would",
    "  change.",
    "",
    "  Raises:     click.BadParameter: If the path or the configuration is invalid.",
    "  click.ClickException: If the file cannot be read or safely rewritten.",
    "",
    "  Examples:     sql-indent report.sql --indent-offset 2 --in-place",
    "",
    "Options:",
    "  --version                   Show the version and exit.",
    "  --indent-offset INTEGER     Columns per nesting level",
    "  --tab-width INTEGER         Column width of a tab",
    "  --use-tabs / --no-use-tabs  Indent with tabs for whole tab stops",
    "  --debug / --no-debug        Log a diagnostic line for every indented line",
    "  --line INTEGER RANGE        Re-indent only this line (1-based)  [x>=1]",
    "  -i, --in-place              Rewrite the file instead of printing it",
    "  --check                     Exit with status 1 if the file would change",
    "  --help                      Show this message and exit."
  ]

def helpText : String := "\n".intercalate helpLines ++ "\n"

end SqlMargin.Command
