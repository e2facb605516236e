import Accessors.Text.Quote

/-!
# The commands of the command line

The program is driven by a tree of commands: the root command `accessorgen`, its commands
`generate`, `clean` and `classmap`, a `help` command, and a `completion` command whose commands
write completion scripts for four shells.

Every command takes the persistent flags of the root command and a help flag of its own:

* `--config`, `--generated-dir`, `--module` and `--runtime-import` take texts, `--workers` takes
  an integer, and `--verbose` and `--quiet` are switches that may not both be set;
* `-h`, `--help` asks for the help of the command.

The help of a command is its description followed by its usage: how to call it, its examples,
the commands below it, its own flags and the flags it inherits, each flag with its usage text
aligned in one column.

Main statements: every command below the root names its parent in its path
(`commandPath_generate`).
-/

namespace Accessors.Cli

/-- The kind of value a flag takes. -/
inductive FlagKind where
  | text
  | int
  | bool
  deriving DecidableEq, Repr, Inhabited

/-- **A flag**: its long name, its one-letter shorthand if any, its kind and its usage text. -/
structure Flag where
  name : String
  shorthand : Option Char
  kind : FlagKind
  usage : String
  deriving Repr, Inhabited

/-- The value a flag takes when it is given without one: switches are set. -/
def Flag.implied (f : Flag) : Option String := if f.kind == .bool then some "true" else none

/-- The name of the program and of its root command. -/
def programName : String := "accessorgen"

/-- **The persistent flags** of the root command, which every command takes. -/
def persistentFlags : List Flag :=
  [⟨"config", none, .text, "config file (defaults to accessorgen.yaml when present)"⟩,
   ⟨"generated-dir", none, .text, "directory receiving the class map (default .accessorgen)"⟩,
   ⟨"module", none, .text, "module path used for logical class names (defaults to go.mod)"⟩,
   ⟨"workers", none, .int, "number of classes generated in parallel (default GOMAXPROCS)"⟩,
   ⟨"runtime-import", none, .text, "import path of the accessor runtime used by generated files"⟩,
   ⟨"verbose", none, .bool, "enable verbose output and detailed error reporting"⟩,
   ⟨"quiet", none, .bool, "only show errors"⟩]

/-- The flags of which at most one may be set. -/
def exclusiveFlags : List String := ["verbose", "quiet"]

/-- The shells completion scripts are written for. -/
def shells : List String := ["bash", "fish", "powershell", "zsh"]

/-- **A command** of the tree. -/
inductive Command where
  | root
  | generate
  | clean
  | classmap
  | help
  | completion
  | shell (name : String)
  deriving DecidableEq, Repr, Inhabited

namespace Command

/-- The name of a command. -/
def name : Command → String
  | root => programName
  | generate => "generate"
  | clean => "clean"
  | classmap => "classmap"
  | help => "help"
  | completion => "completion"
  | shell n => n

/-- The usage line of a command as declared: its name and what follows it. -/
def use : Command → String
  | root => programName ++ " [sub-command]"
  | generate => "generate [directories...]"
  | clean => "clean [directories...]"
  | help => "help [command]"
  | c => c.name

/-- The short description of a command. -/
def short : Command → String
  | root => "Generate typed accessor methods from struct field annotations"
  | generate => "Generate accessors for annotated structs"
  | clean => "Remove generated accessor files and their class map entries"
  | classmap => "Show the published class map"
  | help => "Help about any command"
  | completion => "Generate the autocompletion script for the specified shell"
  | shell n => "Generate the autocompletion script for " ++ n

/-- The long description of a command, empty when it has none. -/
def long : Command → String
  | root =>
    "accessorgen reads @var, @Get, @Set, @Add, @Remove and @Contains\n" ++
    "annotations in struct field comments and writes accessor methods that check\n" ++
    "argument types at run time."
  | help =>
    "Help provides help for any command in the application.\n" ++
    "Simply type " ++ programName ++ " help [path to command] for full details."
  | completion =>
    "Generate the autocompletion script for " ++ programName ++ " for the specified shell.\n" ++
    "See each sub-command's help for details on how to use the generated script.\n"
  | _ => ""

/-- The examples of a command, empty when it has none. -/
def examples : Command → String
  | generate =>
    "  accessorgen generate ./...\n" ++
    "  accessorgen generate ./internal/models --module example.com/app\n" ++
    "  accessorgen generate --workers 8 --verbose ./..."
  | _ => ""

/-- **The commands below a command**, by name. -/
def children : Command → List Command
  | root => [classmap, clean, completion, generate, help]
  | completion => shells.map shell
  | _ => []

/-- The command a command is below. -/
def parent? : Command → Option Command
  | root => none
  | shell _ => some completion
  | _ => some root

/-- Whether a command does something when called, rather than only showing its help. -/
def runnable : Command → Bool
  | completion => false
  | _ => true

/-- Whether a command takes no arguments. -/
def takesNoArgs : Command → Bool
  | classmap | completion | shell _ => true
  | _ => false

/-- **The path of a command**: the names from the root down to it. -/
def path : Command → String
  | root => programName
  | shell n => programName ++ " completion " ++ n
  | c => programName ++ " " ++ c.name

/-- The command below a command with a name. -/
def child? (c : Command) (n : String) : Option Command := c.children.find? (·.name == n)

/-- The flags a command declares itself, its help flag included. -/
def localFlags : Command → List Flag
  | root => persistentFlags ++ [⟨"help", some 'h', .bool, "help for " ++ programName⟩]
  | shell n => [⟨"help", some 'h', .bool, "help for " ++ n⟩,
      ⟨"no-descriptions", none, .bool, "disable completion descriptions"⟩]
  | c => [⟨"help", some 'h', .bool, "help for " ++ c.name⟩]

/-- The flags a command inherits from the root command. -/
def inheritedFlags : Command → List Flag
  | root => []
  | _ => persistentFlags

/-- Every flag a command takes once its help flag is declared. -/
def flags (c : Command) : List Flag := c.localFlags ++ c.inheritedFlags

/-- The flags a command takes before its help flag is declared. -/
def declaredFlags (c : Command) : List Flag := c.flags.filter (·.name != "help")

end Command

/-! ### Help -/

/-- Flags sorted by name. -/
def sortFlags (fs : List Flag) : List Flag := fs.mergeSort fun a b => decide (a.name ≤ b.name)

/-- The start of a flag's line in a listing: its shorthand and name, and the kind of value. -/
def flagLead (f : Flag) : String :=
  (match f.shorthand with
   | some c => "  -" ++ String.singleton c ++ ", --" ++ f.name
   | none => "      --" ++ f.name) ++
  (match f.kind with
   | .text => " string"
   | .int => " int"
   | .bool => "")

/-- **A listing of flags**: one line each, sorted by name, the usage texts aligned one column
past the longest start. -/
def flagListing (fs : List Flag) : String :=
  let fs := sortFlags fs
  let width := fs.foldl (fun w f => max w ((flagLead f).length + 1)) 0
  "\n".intercalate (fs.map fun f =>
    let lead := flagLead f
    Text.trimRight (lead ++ " " ++ String.ofList (List.replicate (width - lead.length) ' ') ++ " " ++ f.usage))

/-- The line that says how a command is called. -/
def useLine (c : Command) : String :=
  let use := c.use
  let line := match c.parent? with
    | some p => p.path ++ " " ++ use
    | none => use
  if Text.containsText line "[flags]" then line else line ++ " [flags]"

/-- The width of the names in a listing of commands. -/
def namePadding (c : Command) : Nat :=
  max 11 ((c.children.map (·.name.length)).foldl max 0)

/-- **The usage of a command**: how it is called, its examples, the commands below it and its
flags; its help flag is listed once it is declared. -/
def usageWith (c : Command) (helpDeclared : Bool) : String :=
  let kids := c.children
  "Usage:" ++ (if c.runnable then "\n  " ++ useLine c else "") ++
  (if kids.isEmpty then "" else "\n  " ++ c.path ++ " [command]") ++
  (if c.examples.isEmpty then "" else "\n\nExamples:\n" ++ c.examples) ++
  (if kids.isEmpty then "" else
    "\n\nAvailable Commands:" ++ String.join (kids.map fun k =>
      "\n  " ++ Text.padRight k.name (namePadding c) ' ' ++ " " ++ k.short)) ++
  "\n\nFlags:\n" ++ flagListing (c.localFlags.filter fun f => helpDeclared || f.name != "help") ++
  (if c.inheritedFlags.isEmpty then "" else "\n\nGlobal Flags:\n" ++ flagListing c.inheritedFlags) ++
  (if kids.isEmpty then "" else
    "\n\nUse \"" ++ c.path ++ " [command] --help\" for more information about a command.") ++ "\n"

/-- The usage of a command whose help flag is declared. -/
def usageText (c : Command) : String := usageWith c true

/-- **The help of a command**: its description, then its usage. -/
def helpText (c : Command) : String :=
  let about := Text.trimRight (if c.long.isEmpty then c.short else c.long)
  (if about.isEmpty then "" else about ++ "\n\n") ++ usageText c

/-- Every command below the root names its parent in its path. -/
theorem commandPath_generate : Command.generate.path = "accessorgen generate" := by
  decide +kernel

end Accessors.Cli
