import Fragment.Proofs.Launch.Course
/-!
What a launch tells of its course. Either every stage before the call was passed, and the one call
decides the result, or some stage stopped it, and then there is no call and the result says so.
-/
namespace Fragment

variable {σ : Type}

-- Every stage before the call is passed, and leaves this function of this unit to be called.
def Launcher.Ready (P : Platform σ) (launcher : Launcher) (statements : String)
    (arguments : List String) (w : World σ) (unit : LoadedUnit) (function : Octets)
    (w' : World σ) : Prop :=
  ∃ octets compiled, launcher.Compiled P statements w octets compiled ∧
    Callable P launcher.mode launcher.entry octets arguments compiled unit function w'

theorem compiled_unique (P : Platform σ) (launcher : Launcher) (statements : String)
    (w left right : World σ) (a b : Octets) (first : launcher.Compiled P statements w a left)
    (second : launcher.Compiled P statements w b right) : a = b ∧ left = right := by
  obtain ⟨result, store, finished, -, stored⟩ := first
  obtain ⟨result', store', finished', -, stored'⟩ := second
  rw [finished, Prod.mk.injEq, Prod.mk.injEq] at finished'
  obtain ⟨-, rfl, rfl⟩ := finished'
  rw [stored, Option.some.injEq] at stored'
  exact ⟨stored', rfl⟩

theorem ready_unique (P : Platform σ) (launcher : Launcher) (statements : String)
    (arguments : List String) (w left right : World σ) (unit other : LoadedUnit) (f g : Octets)
    (first : launcher.Ready P statements arguments w unit f left)
    (second : launcher.Ready P statements arguments w other g right) :
    unit = other ∧ f = g ∧ left = right := by
  obtain ⟨octets, compiled, made, ready⟩ := first
  obtain ⟨octets', compiled', made', ready'⟩ := second
  obtain ⟨rfl, rfl⟩ := compiled_unique P launcher statements w _ _ _ _ made made'
  have defined := ready'.defined
  rw [ready.defined, Prod.mk.injEq, Except.ok.injEq] at defined
  obtain ⟨rfl, rfl⟩ := defined
  have found := ready'.found
  rw [ready.found, Except.ok.injEq] at found
  exact ⟨rfl, found, rfl⟩

theorem launched_concluded (symbol : String) (status : Int) :
    launched (concluded symbol status) =
      if status = 0 then .ok .completed else .error (.invoke (.failed symbol status)) := by
  unfold concluded
  split <;> rfl

structure Calling (P : Platform σ) (launcher : Launcher) (statements : String)
    (arguments : List String) (w : World σ) (result : Except LaunchFault Outcome)
    (trace : List Event) (unit : LoadedUnit) (function : Octets) (w' : World σ) : Prop where
  ready : launcher.Ready P statements arguments w unit function w'
  result_eq : result = launched (concluded launcher.entry.symbol
    (returned P unit function arguments w'))
  recorded : ∃ earlier later, trace = earlier ++
      .called unit.serial launcher.entry.symbol (argumentVector arguments) :: later ∧
    (∀ event ∈ earlier, event.kind ≠ .call) ∧ ∀ event ∈ later, event.kind ≠ .call

structure Stopped (P : Platform σ) (launcher : Launcher) (statements : String)
    (arguments : List String) (w : World σ) (result : Except LaunchFault Outcome)
    (trace : List Event) : Prop where
  unready : ∀ unit function w', ¬ launcher.Ready P statements arguments w unit function w'
  incomplete : result ≠ .ok .completed
  unfailed : ∀ symbol status, result ≠ .error (.invoke (.failed symbol status))
  uncalled : ∀ event ∈ trace, event.kind ≠ .call

theorem unready_of_uncallable (P : Platform σ) (launcher : Launcher) (statements : String)
    (arguments : List String) (w compiled : World σ) (octets : Octets)
    (made : launcher.Compiled P statements w octets compiled)
    (never : ∀ unit function w',
      ¬ Callable P launcher.mode launcher.entry octets arguments compiled unit function w')
    (unit : LoadedUnit) (function : Octets) (w' : World σ) :
    ¬ launcher.Ready P statements arguments w unit function w' := by
  rintro ⟨octets', compiled', made', ready⟩
  obtain ⟨rfl, rfl⟩ := compiled_unique P launcher statements w _ _ _ _ made made'
  exact never unit function w' ready

theorem course_calling_or_stopped (P : Platform σ) (launcher : Launcher) (statements : String)
    (arguments : List String) (w : World σ) (result : Except LaunchFault Outcome)
    (trace : List Event) (course : Course P launcher statements arguments w result trace) :
    (∃ unit function w', Calling P launcher statements arguments w result trace unit function w') ∨
      Stopped P launcher statements arguments w result trace := by
  cases course with
  | unbuilt fault store w' compiled runs only =>
    refine .inr ⟨?_, by simp, by simp, fun event member => by simp [only event member]⟩
    rintro unit function w'' ⟨octets, staged, ⟨result, store', finished, -⟩, -⟩
    simp [compiled] at finished
  | rejected result store w' compiled bad runs only =>
    refine .inr ⟨?_, by simp, by simp, fun event member => by simp [only event member]⟩
    rintro unit function w'' ⟨octets, staged, ⟨result', store', finished, success, -⟩, -⟩
    rw [compiled, Prod.mk.injEq, Except.ok.injEq] at finished
    rw [← finished.1, bad] at success
    contradiction
  | entered octets staged compiled runs only invoked steps inside ends ended =>
    have before : ∀ event ∈ runs, event.kind ≠ .call :=
      fun event member => by simp [only event member]
    have after : ∀ event ∈ ends ++ [.scopeClosed], event.kind ≠ .call := by
      intro event member
      rcases List.mem_append.mp member with unload | close
      · exact by simp [ended event unload]
      · rw [List.mem_singleton.mp close]
        simp [Event.kind]
    have never := unready_of_uncallable P launcher statements arguments w staged octets compiled
    have quiet : (∀ event ∈ steps, event.kind ≠ .call) →
        ∀ event ∈ runs ++ steps ++ ends ++ [.scopeClosed], event.kind ≠ .call := by
      intro middle event member
      rw [List.append_assoc, List.mem_append, List.mem_append] at member
      rcases member with (early | step) | late
      · exact before event early
      · exact middle event step
      · exact after event late
    cases inside with
    | undefined fault w' refused shape steps handed =>
      refine .inr ⟨never ?_, by simp [launched], by simp [launched, LaunchFault.ofInvoke],
        quiet fun event member => by simp [handed event member]⟩
      intro unit function w'' ready
      have defined := ready.defined
      simp [refused] at defined
    | unfound unit cause w' defined missing path content =>
      refine .inr ⟨never ?_, by simp [launched], by simp [launched, LaunchFault.ofInvoke],
        quiet (by simp [Event.kind])⟩
      intro unit' function w'' ready
      have again := ready.defined
      rw [defined, Prod.mk.injEq, Except.ok.injEq] at again
      obtain ⟨rfl, rfl⟩ := again
      have found := ready.found
      simp [missing] at found
    | unfit unit function fault w' defined found bad path content =>
      refine .inr ⟨never ?_, by simp [launched], ?_, quiet (by simp [Event.kind])⟩
      · intro unit' function' w'' ready
        have fine := (argument_fault_none_iff arguments).mpr ready.passable
        simp [bad] at fine
      · rcases argument_fault_shape arguments fault bad with ⟨index, rfl⟩ | rfl
        · simp [launched, LaunchFault.ofInvoke]
        · simp [launched, LaunchFault.ofInvoke]
    | called unit function w' ready path content =>
      refine .inl ⟨unit, function, w', ⟨octets, staged, compiled, ready⟩, rfl,
        runs ++ [.handed path content], ends ++ [.scopeClosed], by simp, ?_, after⟩
      intro event member
      rcases List.mem_append.mp member with early | handed
      · exact before event early
      · rw [List.mem_singleton.mp handed]
        simp [Event.kind]

-- The call of a launch, if there is one, and the results that speak of it.
structure CallTold (P : Platform σ) (launcher : Launcher) (statements : String)
    (arguments : List String) (w : World σ) (result : Except LaunchFault Outcome)
    (trace : List Event) : Prop where
  once : trace.countP (fun event => event.kind = .call) ≤ 1
  called_iff : ∀ event, (event ∈ trace ∧ event.kind = .call) ↔
    ∃ unit function w', launcher.Ready P statements arguments w unit function w' ∧
      event = .called unit.serial launcher.entry.symbol (argumentVector arguments)
  completed_iff : result = .ok .completed ↔
    ∃ unit function w', launcher.Ready P statements arguments w unit function w' ∧
      returned P unit function arguments w' = 0
  failed_iff : ∀ symbol status, result = .error (.invoke (.failed symbol status)) ↔
    symbol = launcher.entry.symbol ∧ status ≠ 0 ∧
      ∃ unit function w', launcher.Ready P statements arguments w unit function w' ∧
        returned P unit function arguments w' = status

-- What a launch returns and records, told by the stages that it passed.
structure Told (P : Platform σ) (launcher : Launcher) (statements : String)
    (arguments : List String) (w : World σ) (result : Except LaunchFault Outcome)
    (trace : List Event) : Prop extends
    CallTold P launcher statements arguments w result trace where
  refused_iff : ∀ diagnostics, result = .ok (.compilationFailed diagnostics) ↔
    ∃ compilation store w', launcher.compile P statements w = (.ok compilation, store, w') ∧
      compilation.success = false ∧ compilation.diagnostics = diagnostics
  refused : ∀ diagnostics, result = .ok (.compilationFailed diagnostics) →
    ¬ Clean diagnostics ∧ ∀ event ∈ trace, event.kind ≠ .handover
  closed_iff : .scopeClosed ∈ trace ↔
    ∃ compilation store w', launcher.compile P statements w = (.ok compilation, store, w') ∧
      compilation.success = true
  closed_last : .scopeClosed ∈ trace → trace.getLast? = some .scopeClosed

theorem calling_recorded_iff (P : Platform σ) (launcher : Launcher) (statements : String)
    (arguments : List String) (w w' : World σ) (result : Except LaunchFault Outcome)
    (trace : List Event) (unit : LoadedUnit) (function : Octets)
    (calling : Calling P launcher statements arguments w result trace unit function w')
    (event : Event) :
    (event ∈ trace ∧ event.kind = .call) ↔
      event = .called unit.serial launcher.entry.symbol (argumentVector arguments) := by
  obtain ⟨earlier, later, rfl, before, after⟩ := calling.recorded
  constructor
  · rintro ⟨member, kind⟩
    rcases List.mem_append.mp member with early | rest
    · exact absurd kind (before event early)
    · rcases List.mem_cons.mp rest with same | late
      · exact same
      · exact absurd kind (after event late)
  · rintro rfl
    exact ⟨by simp, rfl⟩

theorem calling_once (P : Platform σ) (launcher : Launcher) (statements : String)
    (arguments : List String) (w w' : World σ) (result : Except LaunchFault Outcome)
    (trace : List Event) (unit : LoadedUnit) (function : Octets)
    (calling : Calling P launcher statements arguments w result trace unit function w') :
    trace.countP (fun event => event.kind = .call) = 1 := by
  obtain ⟨earlier, later, rfl, before, after⟩ := calling.recorded
  have none_before : earlier.countP (fun event => event.kind = .call) = 0 :=
    List.countP_eq_zero.mpr (by simpa using before)
  have none_after : later.countP (fun event => event.kind = .call) = 0 :=
    List.countP_eq_zero.mpr (by simpa using after)
  rw [List.countP_append, List.countP_cons, none_before, none_after]
  rfl

theorem calling_call_told (P : Platform σ) (launcher : Launcher) (statements : String)
    (arguments : List String) (w w' : World σ) (result : Except LaunchFault Outcome)
    (trace : List Event) (unit : LoadedUnit) (function : Octets)
    (calling : Calling P launcher statements arguments w result trace unit function w') :
    CallTold P launcher statements arguments w result trace := by
  have only : ∀ unit' function' w'', launcher.Ready P statements arguments w unit' function' w'' →
      unit = unit' ∧ function = function' ∧ w' = w'' :=
    fun _ _ _ ready => ready_unique P launcher statements arguments w _ _ _ _ _ _ calling.ready ready
  have answer := calling.result_eq
  rw [launched_concluded] at answer
  have counted := calling_once P launcher statements arguments w w' result trace unit function calling
  refine ⟨Nat.le_of_eq counted, ?_, ?_, ?_⟩
  · intro event
    rw [calling_recorded_iff P _ _ _ w w' _ trace unit function calling event]
    constructor
    · intro same
      exact ⟨unit, function, w', calling.ready, same⟩
    · rintro ⟨unit', function', w'', ready, same⟩
      obtain ⟨rfl, -⟩ := only unit' function' w'' ready
      exact same
  · constructor
    · intro completed
      by_cases zero : returned P unit function arguments w' = 0
      · exact ⟨unit, function, w', calling.ready, zero⟩
      · simp [answer, zero] at completed
    · rintro ⟨unit', function', w'', ready, zero⟩
      obtain ⟨rfl, rfl, rfl⟩ := only unit' function' w'' ready
      simp [answer, zero]
  · intro symbol status
    constructor
    · intro failed
      by_cases zero : returned P unit function arguments w' = 0
      · simp [answer, zero] at failed
      · simp only [answer, zero, if_false, Except.error.injEq, LaunchFault.invoke.injEq,
          InvokeFault.failed.injEq] at failed
        obtain ⟨rfl, rfl⟩ := failed
        exact ⟨rfl, zero, unit, function, w', calling.ready, rfl⟩
    · rintro ⟨rfl, bad, unit', function', w'', ready, rfl⟩
      obtain ⟨rfl, rfl, rfl⟩ := only unit' function' w'' ready
      simp [answer, bad]

theorem stopped_call_told (P : Platform σ) (launcher : Launcher) (statements : String)
    (arguments : List String) (w : World σ) (result : Except LaunchFault Outcome)
    (trace : List Event) (stopped : Stopped P launcher statements arguments w result trace) :
    CallTold P launcher statements arguments w result trace := by
  have silent : trace.countP (fun event => event.kind = .call) = 0 :=
    List.countP_eq_zero.mpr (by simpa using stopped.uncalled)
  refine ⟨by simp [silent], ?_, ?_, ?_⟩
  · intro event
    constructor
    · rintro ⟨member, kind⟩
      exact absurd kind (stopped.uncalled event member)
    · rintro ⟨unit, function, w', ready, -⟩
      exact absurd ready (stopped.unready unit function w')
  · constructor
    · intro completed
      exact absurd completed stopped.incomplete
    · rintro ⟨unit, function, w', ready, -⟩
      exact absurd ready (stopped.unready unit function w')
  · intro symbol status
    constructor
    · intro failed
      exact absurd failed (stopped.unfailed symbol status)
    · rintro ⟨-, -, unit, function, w', ready, -⟩
      exact absurd ready (stopped.unready unit function w')

theorem course_refused_iff (P : Platform σ) (launcher : Launcher) (statements : String)
    (arguments : List String) (w : World σ) (result : Except LaunchFault Outcome)
    (trace : List Event) (course : Course P launcher statements arguments w result trace)
    (diagnostics : List Diagnostic) :
    result = .ok (.compilationFailed diagnostics) ↔
      ∃ compilation store w', launcher.compile P statements w = (.ok compilation, store, w') ∧
        compilation.success = false ∧ compilation.diagnostics = diagnostics := by
  cases course with
  | unbuilt fault store w' compiled runs only => simp [compiled]
  | rejected refusal store w' compiled bad runs only => simp [compiled, bad]
  | entered octets w' compiled runs only invoked steps inside ends ended =>
    obtain ⟨success, store, finished, good, -⟩ := compiled
    cases invoked <;> simp [launched, finished, good]

theorem course_closed_iff (P : Platform σ) (launcher : Launcher) (statements : String)
    (arguments : List String) (w : World σ) (result : Except LaunchFault Outcome)
    (trace : List Event) (course : Course P launcher statements arguments w result trace) :
    .scopeClosed ∈ trace ↔
      ∃ compilation store w', launcher.compile P statements w = (.ok compilation, store, w') ∧
        compilation.success = true := by
  have open_runs : ∀ runs : List Event, (∀ event ∈ runs, event.kind = .run) →
      .scopeClosed ∉ runs := by
    intro runs only member
    have kind := only .scopeClosed member
    contradiction
  cases course with
  | unbuilt fault store w' compiled runs only => simp [compiled, open_runs trace only]
  | rejected refusal store w' compiled bad runs only => simp [compiled, bad, open_runs trace only]
  | entered octets w' compiled runs only invoked steps inside ends ended =>
    obtain ⟨success, store, finished, good, -⟩ := compiled
    simp [finished, good]

theorem course_refused (P : Platform σ) (launcher : Launcher) (statements : String)
    (arguments : List String) (w : World σ) (result : Except LaunchFault Outcome)
    (trace : List Event) (course : Course P launcher statements arguments w result trace)
    (diagnostics : List Diagnostic) (refused : result = .ok (.compilationFailed diagnostics)) :
    ¬ Clean diagnostics ∧ ∀ event ∈ trace, event.kind ≠ .handover := by
  cases course with
  | unbuilt fault store w' compiled runs only => simp at refused
  | rejected refusal store w' compiled bad runs only =>
    obtain ⟨run, drained, -, settled⟩ := compile_settled P _ _ _ _ _ _ _ _ compiled
    have judged := settled_judged _ run drained _ _ _ settled
    simp only [Except.ok.injEq, Outcome.compilationFailed.injEq] at refused
    refine ⟨?_, fun event member => by simp [only event member]⟩
    rw [← refused, ← judged.clean_iff, bad]
    simp
  | entered octets w' compiled runs only invoked steps inside ends ended =>
    cases invoked <;> simp [launched] at refused

theorem course_closed_last (P : Platform σ) (launcher : Launcher) (statements : String)
    (arguments : List String) (w : World σ) (result : Except LaunchFault Outcome)
    (trace : List Event) (course : Course P launcher statements arguments w result trace)
    (closed : .scopeClosed ∈ trace) : trace.getLast? = some .scopeClosed := by
  cases course with
  | unbuilt fault store w' compiled runs only =>
    have kind := only .scopeClosed closed
    contradiction
  | rejected refusal store w' compiled bad runs only =>
    have kind := only .scopeClosed closed
    contradiction
  | entered octets w' compiled runs only invoked steps inside ends ended =>
    exact List.getLast?_concat

theorem course_call_told (P : Platform σ) (launcher : Launcher) (statements : String)
    (arguments : List String) (w : World σ) (result : Except LaunchFault Outcome)
    (trace : List Event) (course : Course P launcher statements arguments w result trace) :
    CallTold P launcher statements arguments w result trace := by
  rcases course_calling_or_stopped P launcher statements arguments w result trace course with
    ⟨unit, function, w', calling⟩ | stopped
  · exact calling_call_told P launcher statements arguments w w' result trace unit function calling
  · exact stopped_call_told P launcher statements arguments w result trace stopped

theorem run_told (P : Platform σ) (launcher : Launcher) (statements : String)
    (arguments : List String) (w : World σ) (built : launcher.Built) :
    ∃ trace, (launcher.run P statements arguments w).2.events = w.events ++ trace ∧
      Told P launcher statements arguments w (launcher.run P statements arguments w).1 trace := by
  obtain ⟨trace, kept, course⟩ := run_course P launcher statements arguments w built
  exact ⟨trace, kept,
    { course_call_told P launcher statements arguments w _ trace course with
      refused_iff := course_refused_iff P launcher statements arguments w _ trace course
      refused := course_refused P launcher statements arguments w _ trace course
      closed_iff := course_closed_iff P launcher statements arguments w _ trace course
      closed_last := course_closed_last P launcher statements arguments w _ trace course }⟩

theorem failed_call_told :
    (Launcher.plain .empty).Built ∧
      ((Launcher.plain .empty).run (.steady .quiet 3) "return 3;" ["a"] .blank).1 =
        .error (.invoke (.failed "Main_main" 3)) ∧
      ∃ trace, ((Launcher.plain .empty).run (.steady .quiet 3) "return 3;" ["a"]
          .blank).2.events = [] ++ trace ∧
        Told (.steady .quiet 3) (.plain .empty) "return 3;" ["a"] .blank
          (.error (.invoke (.failed "Main_main" 3))) trace :=
  ⟨plain_built .empty, rfl, run_told (.steady .quiet 3) (.plain .empty) "return 3;" ["a"] .blank
    (plain_built .empty)⟩

end Fragment
