import Fragment.Command.Session
import Fragment.Program.Native
/-!
The command line program: it gathers what a run of the command depends on, runs it, and passes on
what it says and how it ends.
-/
namespace Fragment.Command

def usageText : String :=
  "Usage: memrun [--file <FILE>] [--template <TEMPLATE>] [--cc <CC>] [--cflag <CFLAG>]... " ++
    "[--private-dir] [--pretty] [--time] [-v]... [STATEMENTS] [-- <ARGS>...]\n"

def variableNames : List String := ["PATH", "MEMRUN_CC", "CC", "MEMRUN_CFLAGS", "MEMRUN_TEMPLATE",
  "RUST_LOG", "LANG", "CLICOLOR_FORCE"]

def readEnvironment : IO Environment :=
  variableNames.filterMapM fun name => do
    return (← IO.getEnv name).map fun value => (name, Octets.ofString value)

def readFile (tree : FileTree) (path : String) : IO FileTree := do
  try
    let content ← IO.FS.readBinFile path
    return tree.add (Path.ofString path) (.file 0o644 content.toList)
  catch _ => return tree

def readFiles (environment : Environment) (line : List String) : IO FileTree := do
  match Options.parse line with
  | .error _ => return Program.Native.installed
  | .ok o =>
    let template := (o.config environment).template.map Utf8.lossy
    (o.file.toList ++ template.toList).foldlM readFile Program.Native.installed

def logText (line : LogLine) : String :=
  let word := match line.level with
    | .error => "ERROR"
    | .warn => "WARN"
    | .info => "INFO"
    | .debug => "DEBUG"
    | .trace => "TRACE"
  word ++ " " ++ line.target ++ "\n"

def shownLog (environment : Environment) (line : List String) (v : Verdict) : List LogLine :=
  let verbosity := match Options.parse line with
    | .ok o => o.verbosity
    | .error _ => 0
  v.log.filter (LogFilter.ofEnvironment environment verbosity).lets

def performWith (environment : Environment) (files : FileTree) (line : List String) :
    Verdict × World Program.Machine :=
  let machine := Program.Machine.start
    (environment.map fun (name, value) => (Octets.ofString name, value))
  perform Program.Native.platform environment line (.start ⟨files, .empty, [], none, machine⟩)

end Fragment.Command

open Fragment Fragment.Command in
def main (line : List String) : IO UInt32 := do
  let started ← IO.monoMsNow
  let environment ← readEnvironment
  let files ← readFiles environment line
  let out ← IO.getStdout
  let err ← IO.getStderr
  let (v, w) := performWith environment files line
  let elapsed ← if v.timed then
      pure (toString ((← IO.monoMsNow) - started))
    else pure ""
  let w := conclude environment elapsed v w
  let (stdout, status) := outcome v w.process
  if v.status = 2 then err.putStr usageText
  if Options.parse line matches .error .help then out.putStr usageText
  for entry in shownLog environment line v do
    err.putStr (logText entry)
  out.write (ByteArray.mk stdout.toArray)
  err.putStr (said v w.process)
  out.flush
  match w.process.ended, status with
  | some (.killed signal), _ | some (.dumped signal), _ => return (128 + signal).toUInt32
  | _, some status => return status.toUInt32
  | _, none => return 1
