import Fragment.Files.Tree
import Fragment.Object
import Fragment.Platform
import Fragment.Program.Directive
import Fragment.Program.Library.General
import Fragment.Program.Unit
import Fragment.Text.Decode
/-!
The compiler: a program that reads a text from standard input and leaves an object file. The object
carries the tokens of the text with all macros expanded, since these are what the text means.
-/
namespace Fragment.Program

inductive Product where
  | verdict
  | text
  | unlinked
  | library
deriving DecidableEq, Repr

structure Order where
  output : Option Path
  definitions : String
  directories : List String
  warnings : Warnings
  libraries : List String
  inputs : List String
  product : Product
  mayBeIncomplete : Bool
  faults : List String
  -- What is to be told of the compiler itself; then nothing is compiled.
  told : Option String

namespace Order

def ignored : List String := ["-shared", "-pipe", "-s", "-g", "-g0", "-g1", "-g2", "-g3",
  "-ggdb", "-O", "-O0", "-O1", "-O2", "-O3", "-Os", "-Ofast", "-Og", "-Oz", "-ansi", "-pedantic",
  "-pthread", "-m64", "-v", "-rdynamic", "-no-pie", "-pie", "-P", "-nostartfiles", "-save-temps", "-H", "-trigraphs"]

def ignoredStarts : List String := ["-Wl,", "-Wa,", "-Wp,", "-march=", "-mtune=", "-L", "-fno-diagnostics-",
  "-fdiagnostics-", "-fvisibility", "-fsanitize=", "-fstack-protector", "-ffile-prefix-map=",
  "-fdebug-prefix-map=", "-finput-charset=", "-fexec-charset=", "-fmax-errors=", "-ftabstop=",
  "-flto", "-fmessage-length=", "-fcf-protection", "-mno-", "-msse", "-mavx", "-mcmodel=", "-B",
  "--sysroot="]

def features : List String := ["PIC", "pic", "PIE", "pie", "plt", "builtin", "wrapv", "common",
  "strict-aliasing", "inline", "inline-functions", "unroll-loops", "fast-math", "omit-frame-pointer",
  "exceptions", "asynchronous-unwind-tables", "unwind-tables", "signed-char", "unsigned-char",
  "short-enums", "strict-overflow", "trapv", "delete-null-pointer-checks", "math-errno", "openmp",
  "semantic-interposition", "function-sections", "data-sections", "ident", "verbose-asm",
  "keep-inline-functions", "tree-vectorize", "finite-math-only", "hosted", "freestanding",
  "show-column", "gnu89-inline", "lto", "stack-clash-protection", "working-directory",
  "reorder-functions", "merge-constants", "optimize-sibling-calls", "var-tracking", "toplevel-reorder",
  "dollars-in-identifiers", "asm", "syntax-only", "plan9-extensions", "ms-extensions", "permissive"]

def standards : List String := ["c89", "c90", "c99", "c11", "c17", "c18", "c2x", "c23", "gnu89",
  "gnu90", "gnu99", "gnu11", "gnu17", "gnu18", "gnu2x", "iso9899:1990", "iso9899:1999",
  "iso9899:2011", "iso9899:2017", "iso9899:2018"]

def otherWarnings : List String := ["shadow", "conversion", "sign-conversion", "pedantic", "format",
  "format=2", "format-security", "undef", "cast-align", "cast-qual", "strict-prototypes",
  "missing-prototypes", "missing-declarations", "redundant-decls", "nested-externs", "vla",
  "write-strings", "pointer-arith", "bad-function-cast", "unused-macros", "uninitialized",
  "maybe-uninitialized", "switch", "switch-default", "switch-enum", "float-equal", "double-promotion",
  "logical-op", "null-dereference", "duplicated-cond", "duplicated-branches", "implicit",
  "implicit-fallthrough", "type-limits", "strict-aliasing", "array-bounds", "stack-protector",
  "declaration-after-statement", "old-style-definition", "inline", "comment", "comments", "pointer-sign",
  "unreachable-code", "aggregate-return", "padded", "packed", "system-headers", "nonnull", "restrict",
  "stringop-overflow", "stringop-truncation", "format-truncation", "format-overflow", "char-subscripts",
  "missing-braces", "sequence-point", "unknown-pragmas", "tautological-compare", "unused-local-typedefs",
  "unused-const-variable", "absolute-value", "discarded-array-qualifiers", "c++-compat", "traditional"]

def questions : List (String × String) := [
  ("--version", "gcc (Debian 12.2.0-14) 12.2.0\n"), ("--help", "Usage: gcc [options] file...\n"),
  ("-dumpversion", "12\n"), ("-dumpfullversion", "12.2.0\n"),
  ("-dumpmachine", "x86_64-linux-gnu\n"), ("-print-sysroot", "\n"),
  ("-print-search-dirs", "install: /usr/lib/gcc/x86_64-linux-gnu/12/\n"),
  ("-print-libgcc-file-name", "/usr/lib/gcc/x86_64-linux-gnu/12/libgcc.a\n"),
  ("-print-multi-lib", ".;\n")]

def behind? (start argument : String) : Option String :=
  if start.toList.isPrefixOf argument.toList then
    some (String.ofList (argument.toList.drop start.length))
  else none

def unrecognized (argument : String) : String :=
  "gcc: error: unrecognized command-line option '" ++ argument ++ "'"

def defineLine (text : String) : String :=
  let name := text.toList.takeWhile (· != '=')
  let value := text.toList.drop (name.length + 1)
  "#define " ++ String.ofList name ++ " " ++
    (if name.length = text.length then "1" else String.ofList value) ++ "\n"

def isWarning (name : String) : Bool :=
  otherWarnings.contains name || (Warnings.default.option? name).isSome

def warningOption (o : Order) (name argument : String) : Order :=
  match behind? "error=" name with
  | some "" => { o with faults := o.faults ++ ["gcc: error: missing argument to '-Werror='"] }
  | some group =>
    if isWarning group then { o with warnings := (o.warnings.option? name).getD o.warnings }
    else { o with faults := o.faults ++
      ["cc1: error: '" ++ argument ++ "': no option '-W" ++ group ++ "'"] }
  | none =>
    match o.warnings.option? name with
    | some warnings => { o with warnings }
    | none =>
      if otherWarnings.contains name then o
      else { o with faults := o.faults ++ [unrecognized argument] }

def option (o : Order) (argument : String) : Order :=
  let known := ignored.contains argument ||
    ignoredStarts.any fun start => (behind? start argument).isSome
  if argument == "-w" then { o with warnings := { o.warnings with silent := true } }
  else if argument == "-fsyntax-only" || argument == "-###" then { o with product := .verdict }
  else if argument == "-E" || argument == "-S" || argument == "-M" || argument == "-MM" then
    { o with product := .text }
  else if argument == "-c" then { o with product := .unlinked }
  else if let some answer := questions.lookup argument then { o with told := o.told <|> answer }
  else if (behind? "-Wl," argument).isSome then
    { o with mayBeIncomplete := o.mayBeIncomplete &&
        !((behind? "--no-undefined" (String.ofList (argument.toList.drop 4))).isSome) }
  else if known then o
  else if (behind? "-O" argument).any fun level => !level.isEmpty && level.all Char.isDigit then o
  else match behind? "-D" argument, behind? "-U" argument, behind? "-I" argument with
    | some text, _, _ => { o with definitions := o.definitions ++ defineLine text }
    | _, some name, _ => { o with definitions := o.definitions ++ "#undef " ++ name ++ "\n" }
    | _, _, some directory => { o with directories := o.directories ++ [directory] }
    | none, none, none =>
      match behind? "-l" argument, behind? "-std=" argument, behind? "-W" argument,
          behind? "-f" argument with
      | some name, _, _, _ => { o with libraries := o.libraries ++ [name] }
      | _, some name, _, _ =>
        if standards.contains name then o
        else { o with faults := o.faults ++ [unrecognized argument] }
      | _, _, some name, _ => o.warningOption name argument
      | _, _, _, some name =>
        let plain := (behind? "no-" name).getD name
        if features.contains plain then o
        else { o with faults := o.faults ++ [unrecognized argument] }
      | none, none, none, none => { o with faults := o.faults ++ [unrecognized argument] }

def withValue (o : Order) (argument value : String) : Option Order :=
  match argument with
  | "-o" => some { o with output := some (Path.ofString value) }
  | "-x" => some (if ["c", "none", "c-header"].contains value then o
      else { o with faults := o.faults ++ ["gcc: error: language " ++ value ++ " not recognized"] })
  | "-D" => some { o with definitions := o.definitions ++ defineLine value }
  | "-U" => some { o with definitions := o.definitions ++ "#undef " ++ value ++ "\n" }
  | "-I" | "-isystem" | "-iquote" => some { o with directories := o.directories ++ [value] }
  | "-include" => some { o with definitions := o.definitions ++ "#include \"" ++ value ++ "\"\n" }
  | "-l" => some { o with libraries := o.libraries ++ [value] }
  | "-L" | "-Xlinker" | "-T" | "-u" | "-z" | "-idirafter" => some o
  | _ => none

def read : List String → Order → Order
  | [], o => o
  | [argument], o =>
    if argument == "-" then { o with inputs := o.inputs ++ [argument] }
    else if (behind? "-" argument).isSome then
      if (o.withValue argument "").isSome then
        { o with faults := o.faults ++ ["gcc: error: missing argument to '" ++ argument ++ "'"] }
      else o.option argument
    else { o with inputs := o.inputs ++ [argument] }
  | argument :: value :: rest, o =>
    if argument == "-" || (behind? "-" argument).isNone then
      read (value :: rest) { o with inputs := o.inputs ++ [argument] }
    else match o.withValue argument value with
      | some o => read rest o
      | none => read (value :: rest) (o.option argument)

def start : Order := ⟨none, "", [], .default, [], [], .library, true, [], none⟩

end Order

def finder (files : FileTree) (directories : List String) : Finder := fun angled name =>
  let places := (if angled then [] else [""]) ++ directories
  let found := places.findSome? fun directory =>
    match files.read (Path.join (Path.ofString directory) (Path.ofString name)) with
    | .ok content => some (Included.mk name (Utf8.lossyChars content) true)
    | .error _ => none
  found.or ((Header.texts.find? (·.1 == name)).map fun (name, text, again) =>
    ⟨"/usr/include/" ++ name, text.toList, again⟩)

def linkable : List (String × String) := [("c", "libc.so.6"), ("m", "libm.so.6"),
  ("pthread", "libc.so.6"), ("dl", "libc.so.6"), ("rt", "libc.so.6"), ("gcc", "libc.so.6"),
  ("gcc_s", "libgcc_s.so.1")]

def isLinked (libraries : List String) (name : String) : Bool :=
  (Library.functions.lookup name).isSome || Machine.streamNames.contains name ||
    libraries.contains "m" && (Library.mathematics.lookup name).isSome

-- What an object carries: the libraries that it needs, and the tokens of its text, one a line.
def payload (libraries : List String) (tokens : List Token) : Octets :=
  Octets.ofString (String.intercalate " " libraries ++ "\n" ++
    String.intercalate "\n" (tokens.map (·.spelling)))

def refuseRun (lines : List String) : Run :=
  ⟨[], Octets.ofString (String.join (lines.map (· ++ "\n"))), .exited 1⟩

def inputText (files : FileTree) (stdin : Octets) (name : String) :
    Except String (String × List Char) :=
  if name == "-" then .ok ("<stdin>", Utf8.lossyChars stdin)
  else match files.read (Path.ofString name) with
    | .ok content => .ok (name, Utf8.lossyChars content)
    | .error cause =>
      let text := match cause with
        | .number n => (errorTexts.lookup n).getD ""
        | .text t => t
      .error ("gcc: error: " ++ name ++ ": " ++ text)

def translate (o : Order) (files : FileTree) (name : String) (text : List Char) :
    List Token × Image × List Message :=
  let p := preprocess (finder files o.directories) o.definitions name text
  let (image, messages) := readUnit p.tokens
  let ending := (p.tokens.getLast?.map (·.spot)).getD default
  let kept := if p.cut then messages.filter fun m => m.isError && m.spot != ending else messages
  (p.tokens, image, (p.messages ++ kept).filterMap o.warnings.judge)

def spread (files : FileTree) (argument : String) : List String :=
  match Order.behind? "@" argument with
  | none => [argument]
  | some path => match files.read (Path.ofString path) with
    | .ok content => (Text.words (Utf8.lossyChars content)).map String.ofList
    | .error _ => [argument]

def compileRun (files : FileTree) (arguments : List String) (stdin : Octets) : Run :=
  let o := Order.read (arguments.flatMap (spread files)) .start
  if !o.faults.isEmpty then refuseRun o.faults
  else if let some answer := o.told then ⟨[.print (Octets.ofString answer)], [], .exited 0⟩
  else match o.inputs.mapM (inputText files stdin) with
    | .error line => refuseRun [line, "compilation terminated."]
    | .ok [] => refuseRun ["gcc: fatal error: no input files", "compilation terminated."]
    | .ok texts =>
      let units := texts.map fun (name, text) => translate o files name text
      let messages := units.flatMap fun (_, _, messages) => messages
      let lines := Message.renderAll none messages
      let ends := if messages.any (·.weight == .fatal) then ["compilation terminated."] else []
      if messages.any Message.isError then refuseRun (lines ++ ends)
      else
        let said := Octets.ofString (String.join (lines.map (· ++ "\n")))
        let libraries := o.libraries.filter fun l => (linkable.lookup l).isSome
        match o.libraries.find? fun l => (linkable.lookup l).isNone with
        | some l => refuseRun (lines ++ ["/usr/bin/ld: cannot find -l" ++ l ++
            ": No such file or directory", "collect2: error: ld returned 1 exit status"])
        | none =>
          let tokens := units.flatMap (·.1)
          let own := units.flatMap fun (_, image, _) => image.exported.map image.linkName
          let missing := units.flatMap fun (_, image, _) =>
            (image.needed.map image.linkName).filter fun n =>
              !isLinked libraries n && !own.contains n
          if o.product == .verdict then ⟨[], said, .exited 0⟩
          else if o.product == .text then
            ⟨[.create, .write (Octets.ofString (Token.spellAll tokens ++ "\n"))], said, .exited 0⟩
          else if o.product == .unlinked then
            ⟨[.create, .write Object.unlinked], said, .exited 0⟩
          else if !o.mayBeIncomplete && !missing.isEmpty then
            refuseRun (lines ++ missing.map (fun n =>
              "<stdin>:(.text+0x0): undefined reference to `" ++ n ++ "'") ++
              ["collect2: error: ld returned 1 exit status"])
          else ⟨[.create, .write (Object.write (payload libraries tokens))], said, .exited 0⟩

end Fragment.Program
