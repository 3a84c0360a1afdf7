import TableGateway.Console.Command

/-!
# Help

The texts that explain the command line, one for each topic, line by line. Every line ends in a line
break, the last one too.
-/

namespace TableGateway.Console

/-- The lines of the help on a topic. -/
def HelpTopic.lines : HelpTopic → List String
  | root => [
      "tablerest - render REST-over-table requests into dialect SQL",
      "",
      "USAGE:",
      "  tablerest <COMMAND> [OPTIONS]",
      "",
      "COMMANDS:",
      "  render        Plan a read/count/meta/insert/update/delete request",
      "  find          Plan a dynamic finder such as findAllByNameAndAge",
      "  call          Plan a stored-procedure call",
      "  acl           Show the effective permissions of an alias or resource",
      "  tables        Print the list-tables statement of an alias",
      "",
      "Every command prints JSON on stdout. Set RUST_LOG=debug to see rendered SQL",
      "events on stderr.",
      "",
      "Run `tablerest <command> --help` for more."]
  | render => [
      "USAGE:",
      "  tablerest render <ACTION> --alias <NAME> [--resource <NAME>] [OPTIONS]",
      "",
      "ACTIONS:",
      "  read | count | meta | insert | update | delete",
      "",
      "OPTIONS:",
      "  --config <FILE>       Config file path (default: tablerest.toml)",
      "  --alias <NAME>        Configured alias",
      "  --resource <NAME>     Table behind the request",
      "  --id <VALUE>          Primary key value (read, count, update, delete)",
      "  --by <COL=VALUE>      Read or count rows where COL = VALUE",
      "  --set <COL=VALUE>     Column value for insert/update (repeatable)",
      "  --primary-key <COL>   Key column, overriding the configured one",
      "  --param <KEY=VALUE>   Query-string parameter: limit, offset, page, size,",
      "                        sort, dir (repeatable)",
      "  -h, --help            Print help"]
  | find => [
      "USAGE:",
      "  tablerest find <FINDER> [ARGS]... --alias <NAME> --resource <NAME> [OPTIONS]",
      "",
      "OPTIONS:",
      "  --config <FILE>       Config file path (default: tablerest.toml)",
      "  --alias <NAME>        Configured alias",
      "  --resource <NAME>     Table to search",
      "  --primary-key <COL>   Default sort column, overriding the configured key",
      "  --param <KEY=VALUE>   Query-string parameter (repeatable)",
      "  -h, --help            Print help"]
  | call => [
      "USAGE:",
      "  tablerest call <PROCEDURE> [ARGS]... --alias <NAME>",
      "",
      "Requires EXEC on the alias.",
      "",
      "OPTIONS:",
      "  --config <FILE>       Config file path (default: tablerest.toml)",
      "  --alias <NAME>        Configured alias",
      "  -h, --help            Print help"]
  | acl => [
      "USAGE:",
      "  tablerest acl --alias <NAME> [--resource <NAME>]",
      "",
      "OPTIONS:",
      "  --config <FILE>       Config file path (default: tablerest.toml)",
      "  -h, --help            Print help"]
  | tables => [
      "USAGE:",
      "  tablerest tables --alias <NAME>",
      "",
      "OPTIONS:",
      "  --config <FILE>       Config file path (default: tablerest.toml)",
      "  -h, --help            Print help"]

/-- The help on a topic. -/
def HelpTopic.text (topic : HelpTopic) : String := String.join (topic.lines.map (· ++ "\n"))

end TableGateway.Console
