import RuleSmith.CommandLine.Arguments

namespace RuleSmith.CommandLine

structure HelpPage where
  subject : String
  usage : String
  parts : List (String × List String)

def HelpPage.text (page : HelpPage) : String :=
  let part (entry : String × List String) : String :=
    "\n" ++ entry.1 ++ ":\n" ++ String.join (entry.2.map fun line => "  " ++ line ++ "\n")
  page.subject ++ "\n\nUsage: " ++ page.usage ++ "\n" ++ String.join (page.parts.map part)

def Topic.page : Topic → HelpPage
  | .program => {
      subject := "Generate, compile and round-trip YARA rules"
      usage := "yaraforge [OPTIONS] <COMMAND>"
      parts := [
        ("Commands", [
          "compile   Render, store and compile a rule request (JSON), print the recovered source",
          "render    Render a rule request (JSON) without storing or compiling it",
          "recover   Rebuild rule source from stored compiled rules",
          "sanitize  Print the sanitized form of a rule name",
          "help      Print this message or the help of the given subcommand(s)"]),
        ("Options", [
          "-r, --rules-dir <RULES_DIR>  Directory holding .yar sources and .bin compiled rules"
            ++ " [default: rules]",
          "-h, --help                   Print help",
          "-V, --version                Print version"])] }
  | .compile => {
      subject := "Render, store and compile a rule request (JSON), print the recovered source"
      usage := "yaraforge compile [OPTIONS] <REQUEST>"
      parts := [
        ("Arguments", ["<REQUEST>  Rule request JSON file"]),
        ("Options", [
          "    --allow-warnings  Do not treat compiler warnings as errors",
          "-h, --help            Print help"])] }
  | .render => {
      subject := "Render a rule request (JSON) without storing or compiling it"
      usage := "yaraforge render <REQUEST>"
      parts := [
        ("Arguments", ["<REQUEST>  Rule request JSON file"]),
        ("Options", ["-h, --help  Print help"])] }
  | .recover => {
      subject := "Rebuild rule source from stored compiled rules"
      usage := "yaraforge recover [OPTIONS] --condition <CONDITION> <NAME>"
      parts := [
        ("Arguments", ["<NAME>  Rule name (file stem inside the rules directory)"]),
        ("Options", [
          "-c, --condition <CONDITION>  Condition expression (not kept in compiled rules)",
          "    --json                   Print the recovered match record as JSON instead of rule"
            ++ " source",
          "-h, --help                   Print help"])] }
  | .sanitize => {
      subject := "Print the sanitized form of a rule name"
      usage := "yaraforge sanitize <RAW>"
      parts := [
        ("Arguments", ["<RAW>  "]),
        ("Options", ["-h, --help  Print help"])] }
  | .help => {
      subject := "Print this message or the help of the given subcommand(s)"
      usage := "yaraforge help [COMMAND]..."
      parts := [("Arguments", ["[COMMAND]...  Print help for the subcommand(s)"])] }

def helpText (topic : Topic) : String := topic.page.text

end RuleSmith.CommandLine
