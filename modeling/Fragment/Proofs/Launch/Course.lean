import Fragment.Proofs.Compile.Settlement
import Fragment.Proofs.Definition
import Fragment.Proofs.Invoke
import Fragment.Proofs.Launch.Name
/-!
The course of a launch. `Course` lists how far a launch can get and what it leaves in the record on
the way; `Entered` does so for the part that begins once the toolchain has made a library.
-/
namespace Fragment

variable {σ : Type}

theorem compile_trace (P : Platform σ) (toolchain : Toolchain) (mode : ScratchMode)
    (unit : SourceUnit) (store : Store) (w : World σ) :
    ∃ runs : List Event, (compile P toolchain mode unit store w).2.2.events = w.events ++ runs ∧
      ∀ event ∈ runs, event.kind = .run := by
  obtain ⟨runs, kept, only⟩ := compile_reads P toolchain mode unit store w
  refine ⟨runs, kept, ?_⟩
  intro event member
  obtain ⟨invocation, run, rfl, -⟩ := only event member
  rfl

structure Callable (P : Platform σ) (mode : ScratchMode) (entry : EntryPoint) (octets : Octets)
    (arguments : List String) (w : World σ) (unit : LoadedUnit) (function : Octets)
    (w' : World σ) : Prop where
  defined : LoadedUnit.define P mode entry.unit octets w = (.ok unit, w')
  found : unit.find P entry.symbol w' = .ok function
  passable : Passable arguments

inductive Entered (P : Platform σ) (mode : ScratchMode) (entry : EntryPoint) (octets : Octets)
    (arguments : List String) (w : World σ) : Except InvokeFault Unit → List Event → Prop where
  | undefined (fault : LoaderFault) (w' : World σ)
      (refused : LoadedUnit.define P mode entry.unit octets w = (.error fault, w'))
      (shape : (∃ cause, fault = .define entry.unit cause) ∨ ∃ cause, fault = .backing entry.unit cause)
      (steps : List Event) (only : ∀ event ∈ steps, event.kind = .handover) :
      Entered P mode entry octets arguments w (.error (.loader fault)) steps
  | unfound (unit : LoadedUnit) (cause : LibraryFault) (w' : World σ)
      (defined : LoadedUnit.define P mode entry.unit octets w = (.ok unit, w'))
      (missing : unit.find P entry.symbol w' = .error cause)
      (path : Path) (content : Option Octets) :
      Entered P mode entry octets arguments w
        (.error (.functionNotFound entry.unit entry.symbol cause)) [.handed path content]
  | unfit (unit : LoadedUnit) (function : Octets) (fault : InvokeFault) (w' : World σ)
      (defined : LoadedUnit.define P mode entry.unit octets w = (.ok unit, w'))
      (found : unit.find P entry.symbol w' = .ok function)
      (bad : argumentFault? arguments = some fault) (path : Path) (content : Option Octets) :
      Entered P mode entry octets arguments w (.error fault) [.handed path content]
  | called (unit : LoadedUnit) (function : Octets) (w' : World σ)
      (ready : Callable P mode entry octets arguments w unit function w')
      (path : Path) (content : Option Octets) :
      Entered P mode entry octets arguments w
        (concluded entry.symbol (returned P unit function arguments w'))
        [.handed path content, .called unit.serial entry.symbol (argumentVector arguments)]

theorem invoke_entered (P : Platform σ) (store : Store) (registry : Registry) (mode : ScratchMode)
    (entry : EntryPoint) (octets : Octets) (arguments : List String) (w : World σ)
    (stored : store.octets? entry.unit = some octets) :
    ∃ result scope w' steps,
      invoke P (.start store registry mode) entry arguments w = (result, scope, w') ∧
      scope.isOpen = true ∧ w'.events = w.events ++ steps ∧
      Entered P mode entry octets arguments w result steps := by
  have resolve := Scope.resolve_stored P store registry mode entry.unit octets w stored
  rcases define : LoadedUnit.define P mode entry.unit octets w with ⟨fault | unit, w'⟩
  all_goals
    rw [define] at resolve
    dsimp only at resolve
  · obtain ⟨shape, steps, kept, only⟩ := LoadedUnit.define_refused P mode _ octets fault w w' define
    exact ⟨_, _, _, steps, invoke_unresolved P _ entry arguments w fault _ w' resolve, rfl, kept,
      .undefined fault w' define shape steps only⟩
  · obtain ⟨-, path, content, kept⟩ := LoadedUnit.define_defined P mode _ octets unit w w' define
    cases found : unit.find P entry.symbol w' with
    | error cause =>
      exact ⟨_, _, _, _, invoke_unlinked P _ entry arguments w unit cause _ w' resolve found, rfl,
        kept, .unfound unit cause w' define found path content⟩
    | ok function =>
      have linked : Linked P (.start store registry mode) entry w unit function w' :=
        ⟨⟨_, resolve⟩, found⟩
      have opened : ((Scope.start store registry mode).resolve P entry.unit w).2.1.isOpen = true := by
        rw [resolve]
        rfl
      cases fit : argumentFault? arguments with
      | some fault =>
        exact ⟨_, _, _, _, invoke_unfit P _ entry arguments w unit function fault w' linked fit,
          opened, kept, .unfit unit function fault w' define found fit path content⟩
      | none =>
        have passable := (argument_fault_none_iff arguments).mp fit
        have ready : Callable P mode entry octets arguments w unit function w' :=
          ⟨define, found, passable⟩
        have record : (callEntry P unit entry.symbol function arguments w').2.events =
            w.events ++ [.handed path content,
              .called unit.serial entry.symbol (argumentVector arguments)] := by
          show w'.events ++ [_] = _
          rw [kept, List.append_assoc]
          rfl
        exact ⟨_, _, _, _, invoke_called P _ entry arguments w unit function w' linked passable,
          opened, record, .called unit function w' ready path content⟩

-- The toolchain has made a library for the entry function: these octets, left in this world.
def Launcher.Compiled (P : Platform σ) (launcher : Launcher) (statements : String) (w : World σ)
    (octets : Octets) (w' : World σ) : Prop :=
  ∃ result store, launcher.compile P statements w = (.ok result, store, w') ∧
    result.success = true ∧ store.octets? launcher.entry.unit = some octets

theorem compiled_captured (P : Platform σ) (launcher : Launcher) (statements : String)
    (w w' : World σ) (result : Compilation) (store : Store) (built : launcher.Built)
    (finished : launcher.compile P statements w = (.ok result, store, w'))
    (success : result.success = true) :
    ∃ run captured, attempt P launcher.toolchain launcher.mode (launcher.expand statements) w =
        (.ok (run, .ok captured), w') ∧
      captured ≠ [] ∧ store.octets? launcher.entry.unit = some captured := by
  obtain ⟨run, drained, attempted, settled⟩ := compile_settled P _ _ _ _ _ _ _ _ finished
  have judged := settled_judged _ run drained _ _ _ settled
  obtain ⟨⟨captured, rfl, stored⟩, -⟩ := judged.stored_on_success success
  obtain ⟨-, -, octets, something, same⟩ := judged.success_iff.mp success
  obtain rfl := Except.ok.inj same
  have name : (launcher.expand statements).name = launcher.entry.unit := built_unit launcher built
  exact ⟨run, captured, attempted, something, name ▸ stored⟩

def launched : Except InvokeFault Unit → Except LaunchFault Outcome
  | .ok _ => .ok .completed
  | .error fault => .error (.ofInvoke fault)

inductive Course (P : Platform σ) (launcher : Launcher) (statements : String)
    (arguments : List String) (w : World σ) : Except LaunchFault Outcome → List Event → Prop where
  | unbuilt (fault : ToolchainFault) (store : Store) (w' : World σ)
      (compiled : launcher.compile P statements w = (.error fault, store, w'))
      (runs : List Event) (only : ∀ event ∈ runs, event.kind = .run) :
      Course P launcher statements arguments w (.error (.toolchain fault)) runs
  | rejected (result : Compilation) (store : Store) (w' : World σ)
      (compiled : launcher.compile P statements w = (.ok result, store, w'))
      (bad : result.success = false)
      (runs : List Event) (only : ∀ event ∈ runs, event.kind = .run) :
      Course P launcher statements arguments w (.ok (.compilationFailed result.diagnostics)) runs
  | entered (octets : Octets) (w' : World σ)
      (compiled : launcher.Compiled P statements w octets w')
      (runs : List Event) (only : ∀ event ∈ runs, event.kind = .run)
      (invoked : Except InvokeFault Unit) (steps : List Event)
      (inside : Entered P launcher.mode launcher.entry octets arguments w' invoked steps)
      (ends : List Event) (ended : ∀ event ∈ ends, event.kind = .unload) :
      Course P launcher statements arguments w (launched invoked)
        (runs ++ steps ++ ends ++ [.scopeClosed])

theorem run_course (P : Platform σ) (launcher : Launcher) (statements : String)
    (arguments : List String) (w : World σ) (built : launcher.Built) :
    ∃ trace, (launcher.run P statements arguments w).2.events = w.events ++ trace ∧
      Course P launcher statements arguments w (launcher.run P statements arguments w).1 trace := by
  obtain ⟨runs, kept, only⟩ := compile_trace P launcher.toolchain launcher.mode
    (launcher.expand statements) .empty w
  unfold Launcher.run
  rcases finished : launcher.compile P statements w with ⟨fault | result, store, w'⟩
  all_goals
    rw [← Launcher.compile, finished] at kept
  · exact ⟨runs, kept, .unbuilt fault store w' finished runs only⟩
  · dsimp only
    cases success : result.success with
    | false => exact ⟨runs, kept, .rejected result store w' finished success runs only⟩
    | true =>
      obtain ⟨-, octets, -, -, stored⟩ :=
        compiled_captured P launcher statements w w' result store built finished success
      obtain ⟨invoked, scope, w'', steps, call, opened, stepped, inside⟩ := invoke_entered P store
        launcher.registry launcher.mode launcher.entry octets arguments w' stored
      obtain ⟨ends, closed, ended⟩ :=
        Scope.events_close P launcher.registry.serials scope w'' opened
      have course := Course.entered octets w' ⟨result, store, finished, success, stored⟩ runs only
        invoked steps inside ends ended
      have ran : launcher.runIn P store arguments w' =
          (invoked, (scope.close P launcher.registry.serials w'').2) := by
        simp only [Launcher.runIn, call]
      have record : (scope.close P launcher.registry.serials w'').2.events =
          w.events ++ (runs ++ steps ++ ends ++ [.scopeClosed]) := by
        rw [closed, stepped, kept]
        simp only [List.append_assoc]
      rw [ran]
      cases invoked with
      | ok _ => exact ⟨_, record, course⟩
      | error fault => exact ⟨_, record, course⟩

end Fragment
