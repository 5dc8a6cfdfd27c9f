import Fragment.Config
/-!
The command line's grammar. Options come in any order, a single positional argument is the
statements, and what follows `--` goes to the entry function. An option may be given once, except
`--cflag` and `--verbose`, which add up.
-/
namespace Fragment.Command

structure Options where
  statements : Option String
  file : Option String
  -- Paths of a configuration are octets, wherever they come from.
  template : Option Octets
  compiler : Option Octets
  flags : List String
  privateDir : Bool
  pretty : Bool
  time : Bool
  verbosity : Nat
  arguments : List String
deriving DecidableEq, Repr

namespace Options

def default : Options := ⟨none, none, none, none, [], false, false, false, 0, []⟩

inductive Valued where
  | file
  | template
  | compiler
  | flag
deriving DecidableEq, Repr

inductive Plain where
  | privateDir
  | pretty
  | time
  | verbose
deriving DecidableEq, Repr

inductive Refusal where
  | usage
  | help
deriving DecidableEq, Repr

def valuedLong : List (String × Valued) :=
  [("file", .file), ("template", .template), ("cc", .compiler), ("cflag", .flag)]

def plainLong : List (String × Plain) :=
  [("private-dir", .privateDir), ("pretty", .pretty), ("time", .time), ("verbose", .verbose)]

def setValue (o : Options) (option : Valued) (value : String) : Except Refusal Options :=
  let once {α : Type} (current : Option α) (set : Options) : Except Refusal Options :=
    if value.isEmpty || current.isSome then .error .usage else .ok set
  match option with
  | .flag => .ok { o with flags := o.flags ++ [value] }
  | .file => once o.file { o with file := some value }
  | .template => once o.template { o with template := some (Octets.ofString value) }
  | .compiler => once o.compiler { o with compiler := some (Octets.ofString value) }

def setPlain (o : Options) (option : Plain) : Except Refusal Options :=
  let once (current : Bool) (set : Options) : Except Refusal Options :=
    if current then .error .usage else .ok set
  match option with
  | .verbose => .ok { o with verbosity := o.verbosity + 1 }
  | .privateDir => once o.privateDir { o with privateDir := true }
  | .pretty => once o.pretty { o with pretty := true }
  | .time => once o.time { o with time := true }

-- May the word be the value of the option before it? A flag takes any word; a path takes none
-- that looks like an option, which a lone hyphen does not.
def mayFollow (option : Valued) (word : String) : Bool :=
  option = .flag || word = "-" || !word.startsWith "-"

def shortOptions (o : Options) : List Char → Except Refusal (Options × Option Valued)
  | [] => .ok (o, none)
  | 'v' :: rest => do
    let o ← o.setPlain .verbose
    shortOptions o rest
  | 'h' :: _ => .error .help
  | ['f'] => .ok (o, some .file)
  | 'f' :: '=' :: value => do
    let o ← o.setValue .file (String.ofList value)
    return (o, none)
  | 'f' :: value => do
    let o ← o.setValue .file (String.ofList value)
    return (o, none)
  | _ :: _ => .error .usage

def splitLong (body : List Char) : String × Option String :=
  (String.ofList (body.takeWhile (· ≠ '=')),
    match body.dropWhile (· ≠ '=') with
    | [] => none
    | _ :: value => some (String.ofList value))

def longOption (o : Options) (body : List Char) : Except Refusal (Options × Option Valued) :=
  let (name, value) := splitLong body
  match valuedLong.lookup name, plainLong.lookup name, value with
  | some option, _, some value => do
    let o ← o.setValue option value
    return (o, none)
  | some option, _, none => .ok (o, some option)
  | none, some option, none => do
    let o ← o.setPlain option
    return (o, none)
  | none, none, none => .error (if name = "help" then .help else .usage)
  | none, _, some _ => .error .usage

-- Reads one word; `pending` is the option that waits for its value.
def word (o : Options) (pending : Option Valued) (text : String) :
    Except Refusal (Options × Option Valued) :=
  match pending with
  | some option =>
    if mayFollow option text then do
      let o ← o.setValue option text
      return (o, none)
    else .error .usage
  | none => match text.toList with
    | '-' :: '-' :: body => o.longOption body
    | '-' :: c :: body => o.shortOptions (c :: body)
    | _ => if o.statements.isSome then .error .usage else .ok ({ o with statements := text }, none)

def words (o : Options) (pending : Option Valued) : List String → Except Refusal Options
  | [] => if pending.isSome then .error .usage else .ok o
  | text :: rest =>
    if text = "--" && pending != some .flag then
      if pending.isSome then .error .usage else .ok { o with arguments := rest }
    else do
      let (o, pending) ← o.word pending text
      words o pending rest

def parse (line : List String) : Except Refusal Options := do
  let o ← words default none line
  if o.file.isSome && o.statements.isSome then throw .usage
  return o

-- The configuration of the environment, with what the command line gives in its place; flags
-- are added at the end.
def config (o : Options) (environment : Environment) : Config :=
  let base := Config.ofEnvironment environment
  { base with
    compiler := o.compiler <|> base.compiler
    template := o.template <|> base.template
    flags := base.flags ++ o.flags
    scratch := if o.privateDir then .privateDir else base.scratch }

end Options
end Fragment.Command
