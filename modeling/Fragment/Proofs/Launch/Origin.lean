import Fragment.Proofs.Compile.Yield
import Fragment.Proofs.Launch.Outcome
import Fragment.Proofs.Loader.Sharing
/-!
Where the called function comes from. A launch calls a unit that it has defined from the octets found
in its own output target, whatever the host has registered under that name; so it never fails for want
of a unit, and never with a fault of another stage. The octets are those that its toolchain has just
made, unless the name of the unit leads out of a private directory.
-/
namespace Fragment

variable {σ : Type}

-- A fault of the configuration or of a store or scope that was misused, or one that is told
-- under the wrong stage.
def LaunchFault.isForeign : LaunchFault → Bool
  | .config _ => true
  | .toolchain (.unavailable _) => true
  | .toolchain (.store _) => true
  | .loader (.closed _) => true
  | .loader (.notFound _) => true
  | .loader (.incomplete _) => true
  | .invoke (.loader _) => true
  | _ => false

-- The function is one of a unit that the launch has defined for itself. The octets are what its
-- toolchain made, or else a file that was found outside of the private directory. The library is that
-- of a unit loaded before only where the loader takes the path for one of them.
structure OwnUnit (P : Platform σ) (launcher : Launcher) (statements : String) (w : World σ)
    (unit : LoadedUnit) (function : Octets) (w' : World σ) : Prop where
  defined : ∃ run captured compiled,
    attempt P launcher.toolchain launcher.mode (launcher.expand statements) w =
      (.ok (run, .ok captured), compiled) ∧
    captured ≠ [] ∧
    (Yields P launcher.toolchain launcher.mode (launcher.expand statements) w run captured ↔
      ¬ Finds P launcher.toolchain launcher.mode (launcher.expand statements) w run captured) ∧
    (launcher.mode.resolve P.hasMemoryFiles = .memory ∨
        w.ScratchFree P ∧ IsConfined launcher.entry.unit →
      Yields P launcher.toolchain launcher.mode (launcher.expand statements) w run captured) ∧
    LoadedUnit.define P launcher.mode launcher.entry.unit captured compiled = (.ok unit, w') ∧
    DefinedFrom P launcher.mode launcher.entry.unit captured compiled unit ∧
    ∀ S : Sharing P, ∃ backing staged,
      Backing.create P launcher.mode launcher.entry.unit captured compiled = (.ok backing, staged) ∧
      unit.backing = some backing ∧ ∀ library ∈ S.loaded w.process.code,
        (unit.library = library ↔ S.known backing.path staged.process = some library)
  found : unit.find P launcher.entry.symbol w' = .ok function

theorem captured_yields (P : Platform σ) (launcher : Launcher) (statements : String)
    (w compiled : World σ) (run : Run) (captured : Octets) (built : launcher.Built)
    (attempted : attempt P launcher.toolchain launcher.mode (launcher.expand statements) w =
      (.ok (run, .ok captured), compiled)) (something : captured ≠ [])
    (contained : launcher.mode.resolve P.hasMemoryFiles = .memory ∨
      w.ScratchFree P ∧ IsConfined launcher.entry.unit) :
    Yields P launcher.toolchain launcher.mode (launcher.expand statements) w run captured := by
  refine (attempt_yields_iff attempted something).mpr ?_
  rcases contained with inMemory | ⟨free, confined⟩
  · exact memory_not_finds inMemory
  · have name : (launcher.expand statements).name = launcher.entry.unit := built_unit launcher built
    exact confined_not_finds free (name ▸ confined)

theorem ready_own_unit (P : Platform σ) (launcher : Launcher) (statements : String)
    (arguments : List String) (w w' : World σ) (unit : LoadedUnit) (function : Octets)
    (built : launcher.Built)
    (ready : launcher.Ready P statements arguments w unit function w') :
    OwnUnit P launcher statements w unit function w' := by
  obtain ⟨octets, compiled, ⟨result, store, finished, success, stored⟩, callable⟩ := ready
  obtain ⟨run, captured, attempted, something, held⟩ :=
    compiled_captured P launcher statements w compiled result store built finished success
  rw [stored, Option.some.injEq] at held
  subst held
  have origin := (LoadedUnit.define_defined P _ _ octets unit compiled w' callable.defined).1
  refine ⟨⟨run, octets, compiled, attempted, something, attempt_yields_iff attempted something,
    captured_yields P launcher statements w compiled run octets built attempted something,
    callable.defined, origin, fun S => ?_⟩, callable.found⟩
  rw [← attempt_loaded S _ _ _ w compiled run _ attempted]
  exact define_shared S _ _ octets compiled unit origin

theorem compile_refused (P : Platform σ) (toolchain : Toolchain) (mode : ScratchMode)
    (unit : SourceUnit) (before after : Store) (w w' : World σ) (fault : ToolchainFault)
    (unsealed : before.isSealed = false)
    (refused : compile P toolchain mode unit before w = (.error fault, after, w')) :
    ∃ cause, fault = .scratch unit.fileName cause ∨ fault = .spawn toolchain.program cause := by
  rw [compile_attempt] at refused
  rcases attempted : attempt P toolchain mode unit w with ⟨cause | ⟨run, drained⟩, w''⟩
  · simp only [attempted, Prod.mk.injEq, Except.error.injEq] at refused
    rw [← refused.1]
    exact (attempt_refused P toolchain mode unit w w'' cause attempted).2
  · simp only [attempted, Prod.mk.injEq] at refused
    have settled := settle_settled unit run drained before
    rw [refused.1] at settled
    generalize (settle unit run drained before).2 = left at settled
    cases settled with
    | undrained clean good cause stuck => exact ⟨cause, .inl rfl⟩
    | late clean good octets something captured shut => simp [unsealed] at shut

theorem course_fault (P : Platform σ) (launcher : Launcher) (statements : String)
    (arguments : List String) (w : World σ) (result : Except LaunchFault Outcome)
    (trace : List Event) (course : Course P launcher statements arguments w result trace)
    (fault : LaunchFault) (failed : result = .error fault) : fault.isForeign = false := by
  cases course with
  | unbuilt cause store w' compiled runs only =>
    obtain ⟨reason, shape⟩ := compile_refused P _ _ _ .empty _ _ _ _ rfl compiled
    rcases shape with rfl | rfl
    all_goals
      cases failed
      rfl
  | rejected refusal store w' compiled bad runs only => simp at failed
  | entered octets w' compiled runs only invoked steps inside ends ended =>
    cases inside with
    | undefined cause w'' refused shape steps handed =>
      rcases shape with ⟨reason, rfl⟩ | ⟨reason, rfl⟩
      all_goals
        cases failed
        rfl
    | unfound unit cause w'' defined missing path content =>
      cases failed
      rfl
    | unfit unit function cause w'' defined found bad path content =>
      rcases argument_fault_shape arguments cause bad with ⟨index, rfl⟩ | rfl
      all_goals
        cases failed
        rfl
    | called unit function w'' ready path content =>
      rw [launched_concluded] at failed
      split at failed
      · simp at failed
      · cases failed
        rfl

-- The scope that a launch opens holds what it is asked for, so it never looks at the host's units.
theorem invoke_any_registry (P : Platform σ) (store : Store) (registry other : Registry)
    (mode : ScratchMode) (entry : EntryPoint) (octets : Octets) (arguments : List String)
    (w : World σ) (stored : store.octets? entry.unit = some octets) :
    (invoke P (.start store registry mode) entry arguments w).1 =
      (invoke P (.start store other mode) entry arguments w).1 := by
  unfold invoke
  rw [Scope.resolve_stored P store registry mode entry.unit octets w stored,
    Scope.resolve_stored P store other mode entry.unit octets w stored]
  rcases LoadedUnit.define P mode entry.unit octets w with ⟨fault | unit, w'⟩
  · rfl
  · dsimp only
    cases unit.find P entry.symbol w' with
    | error cause => rfl
    | ok function =>
      cases argumentFault? arguments with
      | some fault => rfl
      | none =>
        dsimp only
        split <;> rfl

theorem run_launched (P : Platform σ) (launcher : Launcher) (statements : String)
    (arguments : List String) (w w' : World σ) (result : Compilation) (store : Store)
    (finished : launcher.compile P statements w = (.ok result, store, w'))
    (success : result.success = true) :
    (launcher.run P statements arguments w).1 = launched (launcher.runIn P store arguments w').1 := by
  unfold Launcher.run
  simp only [finished, success, Bool.not_true, Bool.false_eq_true, if_false]
  rcases launcher.runIn P store arguments w' with ⟨fault | done, w''⟩
  · rfl
  · rfl

theorem run_any_registry (P : Platform σ) (launcher : Launcher) (host : Registry)
    (statements : String) (arguments : List String) (w : World σ) (built : launcher.Built) :
    (Launcher.run P { launcher with registry := host } statements arguments w).1 =
      (launcher.run P statements arguments w).1 := by
  rcases finished : launcher.compile P statements w with ⟨fault | result, store, w'⟩
  all_goals
    have same : Launcher.compile P { launcher with registry := host } statements w = _ := finished
  · simp only [Launcher.run, finished, same]
  · cases success : result.success with
    | false => simp [Launcher.run, finished, same, success]
    | true =>
      obtain ⟨-, octets, -, -, stored⟩ :=
        compiled_captured P launcher statements w w' result store built finished success
      rw [run_launched P launcher statements arguments w w' result store finished success,
        run_launched P { launcher with registry := host } statements arguments w w' result store
          same success]
      exact congrArg launched (invoke_any_registry P store host launcher.registry launcher.mode
        launcher.entry octets arguments w' stored)

theorem ready_called (P : Platform σ) (launcher : Launcher) (statements : String)
    (arguments : List String) (w w' : World σ) (unit : LoadedUnit) (function : Octets)
    (built : launcher.Built) (ready : launcher.Ready P statements arguments w unit function w') :
    .called unit.serial launcher.entry.symbol (argumentVector arguments) ∈
      (launcher.run P statements arguments w).2.events := by
  obtain ⟨trace, kept, course⟩ := run_course P launcher statements arguments w built
  have told := course_call_told P launcher statements arguments w _ trace course
  rw [kept, List.mem_append]
  exact .inr ((told.called_iff _).mpr ⟨unit, function, w', ready, rfl⟩).1

theorem run_calls_own_unit (P : Platform σ) (launcher : Launcher) (statements : String)
    (arguments : List String) (w : World σ) (built : launcher.Built) :
    ∃ trace, (launcher.run P statements arguments w).2.events = w.events ++ trace ∧
      (∀ event ∈ trace, event.kind = .call → ∃ unit function w',
        event = .called unit.serial launcher.entry.symbol (argumentVector arguments) ∧
        OwnUnit P launcher statements w unit function w' ∧
        (launcher.run P statements arguments w).1 =
          launched (concluded launcher.entry.symbol (returned P unit function arguments w'))) ∧
      (∀ host : Registry, (Launcher.run P { launcher with registry := host } statements arguments
        w).1 = (launcher.run P statements arguments w).1) ∧
      ∀ fault, (launcher.run P statements arguments w).1 = .error fault →
        fault.isForeign = false := by
  obtain ⟨trace, kept, course⟩ := run_course P launcher statements arguments w built
  refine ⟨trace, kept, ?_, fun host => run_any_registry P launcher host _ arguments w built,
    course_fault P launcher statements arguments w _ trace course⟩
  intro event member kind
  rcases course_calling_or_stopped P launcher statements arguments w _ trace course with
    ⟨unit, function, w', calling⟩ | stopped
  · refine ⟨unit, function, w', ?_, ?_, calling.result_eq⟩
    · exact (calling_recorded_iff P _ _ _ w w' _ trace unit function calling event).mp
        ⟨member, kind⟩
    · exact ready_own_unit P launcher statements arguments w w' unit function built calling.ready
  · exact absurd kind (stopped.uncalled event member)

-- A unit of the host's that has the name of the entry point's unit.
def LoadedUnit.namesake : LoadedUnit := ⟨0, "Main", .host, 7, none⟩

def World.hosting : World (List (Path × Library)) :=
  { World.start ⟨.empty, .empty, [], none, [(Path.ofString "/host.so", 7)]⟩ with
    units := [.namesake], nextSerial := 1 }

theorem namesake_not_called :
    (Launcher.plain ⟨[("Main", .namesake)]⟩).Built ∧
      LoadedUnit.namesake.library ∈ pathSharing.loaded World.hosting.process.code ∧
      ∃ trace, ((Launcher.plain ⟨[("Main", .namesake)]⟩).run .sharing "f();" ["a"]
          .hosting).2.events = trace ∧
        trace.filter (fun event => event.kind = .call) =
          [.called 1 "Main_main" [some [97, 0], none]] ∧
        ∀ event ∈ trace, event.kind = .call → ∃ unit function w',
          event = .called unit.serial "Main_main" (argumentVector ["a"]) ∧
          OwnUnit .sharing (.plain ⟨[("Main", .namesake)]⟩) "f();" .hosting unit function w' ∧
          unit.library ≠ LoadedUnit.namesake.library := by
  have built := plain_built ⟨[("Main", .namesake)]⟩
  have loaded : LoadedUnit.namesake.library ∈ pathSharing.loaded World.hosting.process.code := by
    decide
  obtain ⟨trace, kept, calls, -, -⟩ := run_calls_own_unit .sharing _ "f();" ["a"] .hosting built
  have all : _ = trace := kept.trans (List.nil_append trace)
  refine ⟨built, loaded, trace, all, ?_, ?_⟩
  · rw [← all]
    rfl
  · intro event member kind
    obtain ⟨unit, function, w', same, own, -⟩ := calls event member kind
    refine ⟨unit, function, w', same, own, ?_⟩
    obtain ⟨run, captured, compiled, attempted, -, -, -, -, -, shared⟩ := own.defined
    obtain ⟨invocation, ran⟩ : ∃ invocation, attempt .sharing ⟨Path.ofString "/cc", []⟩ .memory
        ⟨"Main", "f();\n"⟩ .hosting = (.ok (.quiet, .ok [1]),
          World.hosting.record (.spawned invocation .quiet)) := ⟨_, rfl⟩
    obtain ⟨-, rfl⟩ := Prod.mk.inj (attempted.symm.trans ran)
    obtain ⟨backing, staged, created, -, apart⟩ := shared pathSharing
    rw [ne_eq, apart _ loaded]
    cases created
    have unknown : pathSharing.known (memoryPath 3) World.hosting.process ≠ some 7 := by decide
    exact unknown

-- A launcher whose unit has an absolute name, and whose compiler does nothing but check its input.
def Launcher.stray : Launcher :=
  ⟨⟨Path.ofString "/cc", ["-fsyntax-only"]⟩, .privateDir, ⟨"/x", "", "\n"⟩, ⟨"/x", "main"⟩, .empty⟩

def Launcher.strayInput : Octets := stagedInput (Launcher.stray.expand "f();")

theorem stray_runs : RunsPrivately (.steady .idle 0) Launcher.stray.toolchain
    (Launcher.stray.expand "f();") .settled .idle
    ((World.settled.openDirectory (.steady .idle 0)).2.record
      (.spawned (Launcher.stray.toolchain.asked "/x.so" Launcher.strayInput) .idle)) := by
  have told : pathText (privatePath (World.settled.openDirectory (.steady .idle 0)).1
      (Launcher.stray.expand "f();").name) = "/x.so" := Path.text_of_string "/x.so"
  have clear : (Launcher.stray.toolchain.asked "/x.so" Launcher.strayInput).arguments.any
      (·.toList.contains '\x00') = false := (asked_nul _ "/x.so" _ (by decide)).trans (by decide)
  rw [RunsPrivately, compilerInvocation, OutputTarget.argument]
  show spawn _ (Launcher.stray.toolchain.asked (pathText _) Launcher.strayInput) _ = _
  rw [told, spawn, clear]
  rfl

theorem stray_attempt : ∃ compiled,
    attempt (.steady .idle 0) Launcher.stray.toolchain .privateDir (Launcher.stray.expand "f();")
      .settled = (.ok (.idle, .ok [9]), compiled) ∧
    FileTree.Writable compiled.process.files [Path.ofString "x.so"] := by
  have named : IsFileName (Path.ofString "x.so") :=
    ⟨by decide, by decide, by decide, by decide, by decide⟩
  have there : FileTree.entry? (World.settled.openDirectory (.steady .idle 0)).2.process.files
      [Path.ofString "x.so"] = some (.file 0o644 [9]) := rfl
  have held := FileTree.read_root _ (Path.ofString "x.so") named 0o644 [9] there
  have elsewhere : ScratchMode.privateDir.resolve (Platform.steady .idle 0).hasMemoryFiles ≠ .memory :=
    nofun
  obtain ⟨spawned, ran, attempted⟩ := finds_captured (steady_grants .idle 0)
    (.apart elsewhere _ stray_runs [9] ⟨nofun, held, held⟩)
  obtain rfl := congrArg Prod.snd (ran.symm.trans stray_runs)
  refine ⟨_, attempted, by simp, fun entry found => ⟨0o644, [9], ?_⟩⟩
  refine Option.some.inj (found.symm.trans ((FileTree.entry_remove_other _ _ _ ?_).trans there))
  intro inside
  have first := (List.cons_prefix_cons.mp inside).1
  exact absurd first (by decide)

theorem stray_file_called :
    Launcher.stray.Built ∧ Run.idle.emissions = [] ∧
      World.settled.process.files.entry? [Path.ofString "x.so"] = some (.file 0o644 [9]) ∧
      ∃ compiled unit w',
        attempt (.steady .idle 0) Launcher.stray.toolchain Launcher.stray.mode
          (Launcher.stray.expand "f();") .settled = (.ok (.idle, .ok [9]), compiled) ∧
        LoadedUnit.define (.steady .idle 0) Launcher.stray.mode Launcher.stray.entry.unit [9]
          compiled = (.ok unit, w') ∧
        .called unit.serial Launcher.stray.entry.symbol (argumentVector []) ∈
          (Launcher.stray.run (.steady .idle 0) "f();" [] .settled).2.events := by
  have built : Launcher.stray.Built :=
    configured_built ["-fsyntax-only"] .privateDir ⟨"/x", "main"⟩ .empty
  obtain ⟨compiled, attempted, spare⟩ := stray_attempt
  obtain ⟨directory, w', defined, -⟩ := define_absolute (.steady .idle 0)
    (steady_grants .idle 0) 0 (fun _ _ _ => rfl) compiled [9] spare
  have done : Launcher.stray.Compiled (.steady .idle 0) "f();" .settled [9] compiled := by
    refine ⟨⟨true, []⟩, ⟨[⟨"/x", [9], true⟩], true⟩, ?_, rfl, rfl⟩
    rw [Launcher.compile, compile_attempt, show Launcher.stray.mode = .privateDir from rfl, attempted]
    rfl
  have callable : Callable (.steady .idle 0) .privateDir Launcher.stray.entry [9] [] compiled _
      (Octets.ofString "/x_main") w' := ⟨defined, rfl, by simp [Passable]⟩
  exact ⟨built, rfl, rfl, compiled, _, w', attempted, defined,
    ready_called _ _ _ _ _ w' _ _ built ⟨[9], compiled, done, callable⟩⟩

end Fragment
