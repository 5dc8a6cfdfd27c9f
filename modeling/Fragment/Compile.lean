import Fragment.Diagnostic.Stream
import Fragment.Scratch
import Fragment.Toolchain
/-!
Compiling a source unit. The toolchain reads the unit from standard input and leaves a library in
an output target; what it left goes into the store under the unit's name, unless something failed.
Either way the store is sealed after the run has been judged.
-/
namespace Fragment

structure Compilation where
  success : Bool
  diagnostics : List Diagnostic
deriving DecidableEq, Repr

namespace Compilation

def hasErrors (c : Compilation) : Bool := !c.success

def errors (c : Compilation) : List Diagnostic := c.diagnostics.filter Diagnostic.isError

end Compilation

-- What the toolchain reads: a line that names the file, and the text.
def stagedInput (unit : SourceUnit) : Octets :=
  Octets.ofString ("#line 1 \"" ++ unit.fileName ++ "\"\n" ++ unit.text)

def compilerArguments (output : String) (flags : List String) : List String :=
  ["-x", "c", "-shared", "-fPIC", "-pipe", "-fdiagnostics-color=never", "-o", output, "-"] ++
    flags ++ ["-Wl,--no-undefined"]

def compilerInvocation (toolchain : Toolchain) (target : OutputTarget) (input : Octets) :
    Invocation :=
  ⟨toolchain.program, compilerArguments (pathText target.argument) toolchain.flags, "C", input⟩

def spawn {σ : Type} (P : Platform σ) (invocation : Invocation) (w : World σ) :
    Except OsFault Run × World σ :=
  if invocation.arguments.any (·.toList.contains '\x00') then
    (.error (.text "nul byte found in provided data"), w)
  else
    match P.spawn invocation w.process with
    | (.error cause, process) => (.error cause, { w with process })
    | (.ok run, process) => (.ok run, { w with process }.record (.spawned invocation run))

def failureText (run : Run) : String :=
  match Text.trim (Utf8.lossyChars run.stderr) with
  | [] => "toolchain " ++ run.ending.render
  | detail => String.ofList detail

-- Judges a run of which `drained` was left in the output target.
def settle (unit : SourceUnit) (run : Run) (drained : Except OsFault Octets) (store : Store) :
    Except ToolchainFault Compilation × Store :=
  let reported := Diagnostic.ofOctets run.stderr
  let failed (more : List Diagnostic) := (.ok ⟨false, reported ++ more⟩, store.sealUp)
  if reported.any Diagnostic.isError then failed []
  else if !run.ending.isSuccess then failed [.ofMessage (failureText run)]
  else match drained with
    | .error cause => (.error (.scratch unit.fileName cause), store)
    | .ok [] => failed [.ofMessage "toolchain produced no output"]
    | .ok octets => match store.write unit.name [octets] true with
      | .error fault => (.error (.store fault), store)
      | .ok stored => (.ok ⟨true, reported⟩, stored.sealUp)

def compile {σ : Type} (P : Platform σ) (toolchain : Toolchain) (mode : ScratchMode)
    (unit : SourceUnit) (store : Store) (w : World σ) :
    Except ToolchainFault Compilation × Store × World σ :=
  let refuse (cause : OsFault) : Except ToolchainFault Compilation :=
    .error (.scratch unit.fileName cause)
  match w.stage P mode unit.fileName (stagedInput unit) with
  | .error cause => (refuse cause, store, w)
  | .ok input => match OutputTarget.create P mode (UnitKind.output.fileName unit.name) w with
    | (.error cause, w) => (refuse cause, store, w)
    | (.ok target, w) => match target.share P w with
      | .error cause => (refuse cause, store, target.discard w)
      | .ok _ => match spawn P (compilerInvocation toolchain target input) w with
        | (.error cause, w) =>
          (.error (.spawn toolchain.program cause), store, target.discard w)
        | (.ok run, w) =>
          let (target, w) := target.receive run.emissions w
          let (result, store) := settle unit run (target.collect P w) store
          (result, store, target.discard w)

end Fragment
