import TestScribe.CommandLine.Arguments

/-!
# The commands

What the program can be asked to do: `generate` generates the files of a directory, `csv`
prints a table. Here are their options and the texts that explain them.
-/

namespace TestScribe.CommandLine

/-- A command of the program. -/
inductive CommandName
  | generate
  | csv
deriving Repr, DecidableEq

/-- The word for a command. -/
def CommandName.word : CommandName → Text
  | .generate => "generate".toList
  | .csv => "csv".toList

/-- The command that a word asks for. -/
def CommandName.ofWord? (w : Text) : Option CommandName :=
  [CommandName.generate, .csv].find? (·.word = w)

/-! ## Options -/

/-- The spellings that ask for help. -/
def helpOptions : List (Text × Effect) := [("-h".toList, .help), ("--help".toList, .help)]

/-- The options of a command. -/
def CommandName.usage : CommandName → Usage
  | .generate =>
    { options := helpOptions ++
        [("--input".toList, .takesValue "input_dir".toList),
         ("-i".toList, .takesValue "input_dir".toList),
         ("--output".toList, .takesValue "output_dir".toList),
         ("-o".toList, .takesValue "output_dir".toList),
         ("--suffix".toList, .takesValue "class_suffix".toList),
         ("--fail-fast".toList, .sets "fail_fast".toList (.bool true)),
         ("--no-progress".toList, .sets "show_progress".toList (.bool false))]
      plain := [] }
  | .csv =>
    { options := helpOptions ++
        [("--no-header".toList, .sets "use_header".toList (.bool false)),
         ("--keep-empty".toList, .sets "skip_empty_rows".toList (.bool false))]
      plain := ["path".toList] }

/-! ## Explanations -/

/-- How a command is called, for someone who asks for its help. -/
def CommandName.helpText : CommandName → Text
  | .generate =>
    ("usage: generate [-h] [--input INPUT] [--output OUTPUT] [--suffix SUFFIX]\n" ++
     "                [--fail-fast] [--no-progress]\n" ++
     "\n" ++
     "Generate Cest files from recorded HTML.\n" ++
     "\n" ++
     "options:\n" ++
     "  -h, --help            show this help message and exit\n" ++
     "  --input INPUT, -i INPUT\n" ++
     "                        Directory with the recorded *.html files.\n" ++
     "  --output OUTPUT, -o OUTPUT\n" ++
     "                        Directory for the generated Cest files.\n" ++
     "  --suffix SUFFIX       Class name suffix (default: Cest).\n" ++
     "  --fail-fast           Stop at the first file that cannot be generated.\n" ++
     "  --no-progress         Do not show a progress bar.\n").toList
  | .csv =>
    ("usage: csv [-h] [--no-header] [--keep-empty] path\n" ++
     "\n" ++
     "Read a CSV file into records.\n" ++
     "\n" ++
     "positional arguments:\n" ++
     "  path          Path to the .csv file.\n" ++
     "\n" ++
     "options:\n" ++
     "  -h, --help    show this help message and exit\n" ++
     "  --no-header   Treat the first line as data.\n" ++
     "  --keep-empty  Keep blank lines as empty rows.\n").toList

/-- What a command does, for the overview. -/
def CommandName.summary : CommandName → Text
  | .generate =>
    ("generate [--input <dir>] [--output <dir>] [--suffix <Suffix>] [--fail-fast] " ++
     "[--no-progress]\n" ++
     "      Converts every recorded *.html test case in the input directory into a\n" ++
     "      Codeception <Name>Cest.php file in the output directory.\n" ++
     "      Directories default to <project>/input and <project>/output.").toList
  | .csv =>
    ("csv <path> [--no-header] [--keep-empty]\n" ++
     "      Reads a CSV file and prints its rows as JSON.\n" ++
     "      With a header (default) every row becomes an object keyed by column name.").toList

/-- The overview of the commands, in the order of their words. -/
def overview : Text :=
  Text.joinWith ['\n']
    ["Usage: cestgen <command> [options]".toList, [], "Commands:".toList,
     CommandName.csv.summary, CommandName.generate.summary]

end TestScribe.CommandLine
