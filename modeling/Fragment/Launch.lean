import Fragment.Compile
import Fragment.Invoke
/-!
Launchers: from statements to the end of their run. A launcher has found its toolchain and read its
skeleton; it expands statements to a unit, compiles the unit into a store of its own, and runs the
entry function in a scope over that store, which is closed again whatever happens.
-/
namespace Fragment

variable {σ : Type}

inductive Outcome where
  | completed
  | compilationFailed (diagnostics : List Diagnostic)
deriving DecidableEq, Repr

structure Launcher where
  toolchain : Toolchain
  mode : ScratchMode
  skeleton : Skeleton
  entry : EntryPoint
  registry : Registry
deriving DecidableEq, Repr

namespace Launcher

def ofConfig (files : FileTree) (searchPath : Option Octets) (config : Config) :
    Except LaunchFault Launcher := do
  let toolchain ← (Toolchain.discover files searchPath config.compiler config.flags).mapError
    LaunchFault.toolchain
  let skeleton ← (match config.template with
    | some path => Skeleton.ofFile files config.entry.unit path
    | none => (Skeleton.bundledFor config.entry.unit).mapError .template).mapError
      LaunchFault.config
  return ⟨toolchain, config.scratch, skeleton, config.entry, .empty⟩

def expand (launcher : Launcher) (statements : String) : SourceUnit :=
  launcher.skeleton.expand statements

def compile (P : Platform σ) (launcher : Launcher) (statements : String) (w : World σ) :
    Except ToolchainFault Compilation × Store × World σ :=
  Fragment.compile P launcher.toolchain launcher.mode (launcher.expand statements) .empty w

def runIn (P : Platform σ) (launcher : Launcher) (store : Store) (arguments : List String)
    (w : World σ) : Except InvokeFault Unit × World σ :=
  let scope := Scope.start store launcher.registry launcher.mode
  let (invoked, scope, w) := invoke P scope launcher.entry arguments w
  let (_, w) := scope.close P launcher.registry.serials w
  (invoked, w)

def run (P : Platform σ) (launcher : Launcher) (statements : String) (arguments : List String)
    (w : World σ) : Except LaunchFault Outcome × World σ :=
  match launcher.compile P statements w with
  | (.error fault, _, w) => (.error (.toolchain fault), w)
  | (.ok compilation, store, w) =>
    if !compilation.success then (.ok (.compilationFailed compilation.diagnostics), w)
    else match launcher.runIn P store arguments w with
      | (.error fault, w) => (.error (.ofInvoke fault), w)
      | (.ok _, w) => (.ok .completed, w)

end Launcher
end Fragment
