import Fragment.Command.Logging
import Fragment.Command.Options
import Fragment.Diagnostic.Excerpt
import Fragment.Launch
import Fragment.Text.Quoted
/-!
One run of the command: from its words and environment to what it prints, how it ends, and whether
it logs anything. Diagnostics and the summary go to standard output, a fault is reported on standard
error with all its causes.
-/
namespace Fragment.Command

variable {σ : Type}

def demo : String := "puts(\"Hello\");"

structure Complaint where
  message : String
  causes : List String
deriving DecidableEq, Repr

namespace Complaint

def indentRest (indent : String) (text : String) : String :=
  ("\n" ++ indent).intercalate ((Text.splitLines text.toList).map String.ofList)

def numbered (n : Nat) (cause : String) : String :=
  Report.padLeft 5 (toString n) ++ ": " ++ indentRest "       " cause

def plain (cause : String) : String := "    " ++ indentRest "    " cause

def render (c : Complaint) : String :=
  let causes := match c.causes with
    | [] => []
    | [cause] => ["\nCaused by:", plain cause]
    | causes => "\nCaused by:" :: causes.zipIdx.map fun (cause, n) => numbered n cause
  "\n".intercalate (("Error: " ++ c.message) :: causes) ++ "\n"

def ofAccount (account : Account) : Complaint := ⟨account.message, account.causes⟩

def within (context : String) (account : Account) : Complaint :=
  ⟨context, account.message :: account.causes⟩

end Complaint

-- How output is dressed: the summary with a cross where text is UTF-8, all in colours if
-- forced.
structure Dress where
  cross : Bool
  coloured : Bool
deriving DecidableEq, Repr

namespace Dress

def ofEnvironment (environment : Environment) : Dress :=
  let language := (environment.get? "LANG" >>= Utf8.decode?).getD ""
  { cross := (String.ofList (language.toList.map Char.toUpper)).endsWith "UTF-8"
    coloured := match environment.get? "CLICOLOR_FORCE" >>= Utf8.decode? with
      | some value => value != "0"
      | none => false }

def summary (d : Dress) (unit : SourceUnit) (errors : Nat) : String :=
  (if d.cross then "✖ " else "") ++ Text.paint d.coloured ["31", "1"] "failed" ++ " compiling " ++
    Text.paint d.coloured ["36"] unit.fileName ++ ": " ++ toString errors ++ " error(s)"

def time (d : Dress) (elapsed : String) : String :=
  Text.paint d.coloured ["2"] "time" ++ " " ++ elapsed

end Dress

def failureLines (d : Dress) (pretty : Bool) (unit : SourceUnit) (diagnostics : List Diagnostic) :
    List String :=
  let shown := diagnostics.map fun x => if pretty then (x.report unit).draw d.coloured else x.render
  shown ++ [d.summary unit (diagnostics.countP Diagnostic.isError)]

def printsOtherLine (run : Run) : Bool :=
  (Text.lines (Utf8.lossyChars run.stderr)).any fun line => (Diagnostic.ofLine? line).isNone

def compileLog (config : Config) (w : World σ) : List LogLine :=
  let skipped := w.lastRun?.any fun (_, run) => printsOtherLine run
  [⟨.debug, "memrun::toolchain"⟩] ++
    (if config.template.isSome then [⟨.debug, "memrun::template"⟩] else []) ++
    [⟨.debug, "memrun::compiler"⟩] ++
    (if skipped then [⟨.trace, "memrun::diagnostic"⟩] else [])

def failedLog : List LogLine := [⟨.warn, "memrun::compiler"⟩, ⟨.debug, "memrun::launcher"⟩]

def calledLog : List LogLine :=
  [⟨.debug, "memrun::store"⟩, ⟨.trace, "memrun::store"⟩, ⟨.info, "memrun::compiler"⟩,
    ⟨.trace, "memrun::loader"⟩, ⟨.debug, "memrun::loader"⟩, ⟨.debug, "memrun::invoke"⟩]

def completedLog : List LogLine := [⟨.info, "memrun::launcher"⟩]

def unavailableLog : List LogLine := [⟨.debug, "memrun"⟩]

structure Verdict where
  status : Nat
  complaint : Option Complaint
  log : List LogLine
  timed : Bool
deriving DecidableEq, Repr

namespace Verdict

def complain (c : Complaint) : Verdict := ⟨1, some c, [], false⟩

def usage : Verdict := ⟨2, none, [], false⟩

def logs (v : Verdict) (directives : LogFilter) : Bool :=
  v.complaint.isNone && v.status != 2 && v.log.any directives.lets

end Verdict

def statements (files : FileTree) (o : Options) : Except Complaint String :=
  match o.file with
  | some path =>
    let refuse (cause : OsFault) : Except Complaint String :=
      .error ⟨"Failed to read statements from " ++ Text.quotedText path.toList, [cause.message]⟩
    match files.read (Path.ofString path) with
    | .error cause => refuse cause
    | .ok content => match Utf8.decode? content with
      | some text => .ok text
      | none => refuse .notUtf8
  | none => .ok (o.statements.getD demo)

def launch (P : Platform σ) (environment : Environment) (o : Options) (launcher : Launcher)
    (text : String) (w : World σ) : Verdict × World σ :=
  let d := Dress.ofEnvironment environment
  let compiled := compileLog (o.config environment)
  match launcher.run P text o.arguments w with
  | (.error fault, w) => (.complain (.ofAccount fault.account), w)
  | (.ok .completed, w) =>
    let ended := if w.process.ended.isSome then [] else completedLog
    (⟨0, none, compiled w ++ calledLog ++ ended, o.time⟩, w)
  | (.ok (.compilationFailed diagnostics), w) =>
    let lines := failureLines d o.pretty (launcher.expand text) diagnostics
    (⟨0, none, compiled w ++ failedLog, o.time⟩, lines.foldl World.print w)

def perform (P : Platform σ) (environment : Environment) (line : List String) (w : World σ) :
    Verdict × World σ :=
  match Options.parse line with
  | .error .help => (⟨0, none, [], false⟩, w)
  | .error .usage => (.usage, w)
  | .ok o => match statements w.process.files o with
    | .error complaint => (.complain complaint, w)
    | .ok text =>
      let config := o.config environment
      match Launcher.ofConfig w.process.files (environment.get? "PATH") config with
      | .ok launcher => launch P environment o launcher text w
      | .error fault =>
        if fault.isToolchainUnavailable then
          (⟨1, none, unavailableLog, false⟩,
            w.print "Could not find a C compiler, memrun needs a toolchain")
        else (.complain (.within "Failed to set up launcher" fault.account), w)

def conclude (environment : Environment) (elapsed : String) (v : Verdict) (w : World σ) : World σ :=
  if v.timed then w.print ((Dress.ofEnvironment environment).time elapsed) else w

-- Runs the command; `elapsed` is the time that it took, as text.
def run (P : Platform σ) (environment : Environment) (line : List String) (elapsed : String)
    (w : World σ) : Verdict × World σ :=
  let (v, w) := perform P environment line w
  (v, conclude environment elapsed v w)

-- What has reached standard output when the process is over, and its exit status. Code that
-- ends the process passes on what it wants to, and the rest is lost; a process that was killed
-- has no status.
def outcome (v : Verdict) (process : Process σ) : Octets × Option Nat :=
  match process.ended with
  | some (.killed _) | some (.dumped _) => (process.stdout.written, none)
  | some (.exited status) => (process.stdout.written, some (status % 256))
  | none => (process.stdout.flushHost.flushLoaded.written, some v.status)

def said (v : Verdict) (process : Process σ) : String :=
  Utf8.lossy process.stderr ++ (v.complaint.map Complaint.render).getD ""

-- The report of a fault in what standard error shows: everything from the first line on that
-- begins like one.
def faultReport (said : String) : String :=
  String.ofList (go (said.length + 1) said.toList)
where
  go : Nat → List Char → List Char
    | 0, _ | _, [] => []
    | fuel + 1, text =>
      if "Error: ".toList.isPrefixOf text then text
      else go fuel ((text.dropWhile (· != '\n')).drop 1)

end Fragment.Command
