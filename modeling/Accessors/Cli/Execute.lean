import Accessors.Cli.Parse
import Accessors.Generation.Clean
import Accessors.ClassMap.Table

/-!
# Running the command line

A command line runs on a tree of files and ends with an exit status, what it wrote to its output
and error streams, and the files after it.

* A command line that names no command, or has a flag that cannot be read, fails with its error.
* The help flag, or a command that only groups others, shows the command's help.
* A command that takes no arguments fails on one; `--verbose` and `--quiet` may not be set
  together.
* `generate`, `clean` and `classmap` load the configuration file (`--config`, else
  `accessorgen.yaml` when present), let their arguments replace the directories and the flags
  that were set replace the settings, and then run. The errors of a run are reported on the
  error stream; other errors are written as `Error: ` and their message.
* The exit status is 0 on success, 2 for an error with a configuration code, 3 for a failed
  class, and 1 otherwise.

Main statements: a configuration error ends with status 2 (`exitCode_configuration`); run ids
are random UUIDs of version 4 (`runIdOf_zero`).
-/

namespace Accessors.Cli

/-- **What an invocation is given** besides its arguments: the id of its run, the time of
rendering and the time-of-day stamp of its verbose messages. -/
structure Invocation where
  runId : String
  now : Time
  clock : String
  deriving Repr, Inhabited

/-- **The id of a run**: a random UUID of version 4, in lower case hexadecimal, from sixteen
random bytes (missing ones are zero). -/
def runIdOf (bytes : List Nat) : String :=
  let b := (List.range 16).map fun i => bytes.getD i 0 % 256
  let b := b.set 6 (b.getD 6 0 % 16 + 64)
  let b := b.set 8 (b.getD 8 0 % 64 + 128)
  let group := fun (lo hi : Nat) => String.join ((b.drop lo).take (hi - lo) |>.map (Text.hexPadded · 2))
  "-".intercalate [group 0 4, group 4 6, group 6 8, group 8 10, group 10 16]

/-- **The invocation at a moment**, given as nanoseconds since 1970-01-01T00:00:00 UTC, with the
id made from random bytes; verbose messages are stamped with the clock in UTC. -/
def Invocation.atMoment (bytes : List Nat) (nanos : Int) : Invocation :=
  let t : Time := ⟨nanos / 1000000000, (nanos % 1000000000).toNat, .utc⟩
  let (_, _, _, hh, mm, ss) := t.civil
  ⟨runIdOf bytes, t, Time.pad hh 2 ++ ":" ++ Time.pad mm 2 ++ ":" ++ Time.pad ss 2 ++ " "⟩

/-- **The outcome of a command line**: exit status, output, error output and the files after
it. -/
structure Outcome where
  exit : Nat
  out : String
  err : String
  disk : Disk

/-- **The exit status of an error.** -/
def exitCode (e : Error) : Nat :=
  if e.hasCode ErrorCode.configuration then 2
  else if e.isGenerationFailure then 3
  else 1

/-- A command line that fails with an error written as `Error: ` and its message. -/
def failWith (disk : Disk) (e : Error) : Outcome := ⟨exitCode e, "", "Error: " ++ e.message ++ "\n", disk⟩

/-- **The configuration of a command**: the configuration file, the directories given as
arguments, and the flags that were set. -/
def configOf (disk : Disk) (p : Parsed) (dirs : List String) : Except Error Config := do
  let cfg ← Config.load disk ((p.get? "config").getD "")
  let cfg := if dirs.isEmpty then cfg else { cfg with directories := dirs }
  let cfg := match p.get? "generated-dir" with
    | some v => { cfg with generatedDir := v }
    | none => cfg
  let cfg := match p.get? "module" with
    | some v => { cfg with module := v }
    | none => cfg
  let cfg := match p.get? "workers" with
    | some v => { cfg with workers := (parseFlagInt v).toOption.getD 0 }
    | none => cfg
  let cfg := match p.get? "runtime-import" with
    | some v => { cfg with runtime := v }
    | none => cfg
  return { cfg with verbose := p.flag "verbose", quiet := p.flag "quiet" }

/-- **Runs `generate`.** -/
def runGenerate (inv : Invocation) (disk : Disk) (cfg : Config) : Outcome :=
  let diag := (Diagnostics.atLevel cfg.diagnosticLevel inv.clock).header "generating accessors"
  let out := Generation.run cfg ⟨inv.runId, inv.now, ""⟩ disk diag
  let diag := out.summary.report out.diag
  match out.error with
  | some e => ⟨exitCode e, diag.out, diag.err ++ Error.report (diag.level ≥ verboseLevel) e, out.disk⟩
  | none =>
    let diag := diag.success ("Generated " ++ toString out.summary.generated ++ " classes")
    ⟨0, diag.out, diag.err, out.disk⟩

/-- **Runs `clean`.** -/
def runClean (inv : Invocation) (disk : Disk) (cfg : Config) : Outcome :=
  let diag := (Diagnostics.atLevel cfg.diagnosticLevel inv.clock).header "cleaning generated files"
  let out := Generation.clean cfg disk diag
  match out.error with
  | some e => ⟨exitCode e, out.diag.out, out.diag.err ++ Error.report (diag.level ≥ verboseLevel) e, out.disk⟩
  | none =>
    let diag := out.summary.report out.diag
    ⟨0, diag.out, diag.err, out.disk⟩

/-- **Runs `classmap`**: the class map as a table. -/
def runClassMap (disk : Disk) (cfg : Config) : Outcome :=
  match (ClassMap.Store.inDir cfg.generatedDir).snapshot disk with
  | .ok es => ⟨0, ClassMap.table es, "", disk⟩
  | .error e => failWith disk e

/-- A help topic in a message: in back quotes when it can be, else in double quotes. -/
def topicText (s : String) : String :=
  if s.toList.all (fun c => c != '\x60' && c != '\uFEFF' && (c == '\t' || Text.isPrint c)) then "`" ++ s ++ "`"
  else Text.quote s

/-- **Runs `help`**: the help of the command its arguments name. -/
def runHelp (disk : Disk) (args : List String) : Outcome :=
  match find args with
  | .ok (c, _) => ⟨0, helpText c, "", disk⟩
  | .error _ =>
    ⟨0, "", "Unknown help topic [" ++ " ".intercalate (args.map topicText) ++ "]\n" ++ usageWith .root false, disk⟩

/-- The error of both exclusive flags set. -/
def exclusiveError (set : List String) : String :=
  "if any flags in the group [" ++ " ".intercalate exclusiveFlags ++ "] are set none of the others can be; [" ++
    " ".intercalate (set.mergeSort fun a b => decide (a ≤ b)) ++ "] were all set"

/-- **Runs a command line** on a tree of files. -/
def execute (inv : Invocation) (disk : Disk) (args : List String) : Outcome :=
  match find args with
  | .error msg => failWith disk (.plain msg)
  | .ok (cmd, rest) =>
    match readFlags cmd.flags ⟨[], []⟩ rest with
    | .error msg => failWith disk (.plain msg)
    | .ok p =>
      if p.flag "help" || !cmd.runnable then ⟨0, helpText cmd, "", disk⟩
      else if cmd.takesNoArgs && !p.args.isEmpty then
        failWith disk (.plain ("unknown command " ++ Text.quote (p.args.headD "") ++ " for " ++ Text.quote cmd.path))
      else if (exclusiveFlags.filter p.changed).length > 1 then
        failWith disk (.plain (exclusiveError (exclusiveFlags.filter p.changed)))
      else
        let configured := fun (dirs : List String) (k : Config → Outcome) =>
          match configOf disk p dirs with
          | .ok cfg => k cfg
          | .error e => failWith disk e
        match cmd with
        | .generate => configured p.args (runGenerate inv disk)
        | .clean => configured p.args (runClean inv disk)
        | .classmap => configured [] (runClassMap disk)
        | .help => runHelp disk p.args
        | .root => ⟨0, helpText .root, "", disk⟩
        | _ => ⟨0, "", "", disk⟩

/-- Run ids have the version and variant of random UUIDs. -/
theorem runIdOf_zero : runIdOf [] = "00000000-0000-4000-8000-000000000000" := by
  decide +kernel

/-- A configuration error ends with status 2. -/
theorem exitCode_configuration (msg : String) :
    exitCode (Error.wrap ErrorCode.configuration msg none) = 2 := by
  simp [exitCode, Error.wrap, Error.hasCode]

end Accessors.Cli
