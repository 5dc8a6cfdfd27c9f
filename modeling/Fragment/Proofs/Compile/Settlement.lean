import Fragment.Proofs.Compile.Attempt
/-!
Settling a run of the toolchain. `Settled` lists all that judging a run can come to, one
constructor for each way; what a compilation reports and what it leaves in the store is read off it.
-/
namespace Fragment

variable {σ : Type}

def reported (run : Run) : List Diagnostic := Diagnostic.ofOctets run.stderr

def Clean (diagnostics : List Diagnostic) : Prop := ∀ d ∈ diagnostics, d.severity ≠ .error

theorem is_success_iff (ending : Ending) : ending.isSuccess = true ↔ ending = .exited 0 := by
  cases ending with
  | exited status => cases status <;> simp [Ending.isSuccess]
  | killed signal | dumped signal => simp [Ending.isSuccess]

theorem any_error_iff (diagnostics : List Diagnostic) :
    diagnostics.any Diagnostic.isError = false ↔ Clean diagnostics := by
  simp [Clean, Diagnostic.isError]

inductive Settled (unit : SourceUnit) (run : Run) (drained : Except OsFault Octets)
    (before : Store) : Except ToolchainFault Compilation → Store → Prop where
  | rejected (unclean : ¬ Clean (reported run)) :
      Settled unit run drained before (.ok ⟨false, reported run⟩) before.sealUp
  | broken (clean : Clean (reported run)) (bad : run.ending ≠ .exited 0) :
      Settled unit run drained before
        (.ok ⟨false, reported run ++ [.ofMessage (failureText run)]⟩) before.sealUp
  | undrained (clean : Clean (reported run)) (good : run.ending = .exited 0) (cause : OsFault)
      (stuck : drained = .error cause) :
      Settled unit run drained before (.error (.scratch unit.fileName cause)) before
  | silent (clean : Clean (reported run)) (good : run.ending = .exited 0)
      (nothing : drained = .ok []) :
      Settled unit run drained before
        (.ok ⟨false, reported run ++ [.ofMessage "toolchain produced no output"]⟩) before.sealUp
  | late (clean : Clean (reported run)) (good : run.ending = .exited 0) (octets : Octets)
      (something : octets ≠ []) (captured : drained = .ok octets) (shut : before.isSealed = true) :
      Settled unit run drained before (.error (.store ⟨unit.name⟩)) before
  | stored (clean : Clean (reported run)) (good : run.ending = .exited 0) (octets : Octets)
      (something : octets ≠ []) (captured : drained = .ok octets) (after : Store)
      (written : before.write unit.name [octets] true = .ok after) :
      Settled unit run drained before (.ok ⟨true, reported run⟩) after.sealUp

theorem settle_settled (unit : SourceUnit) (run : Run) (drained : Except OsFault Octets)
    (before : Store) :
    Settled unit run drained before (settle unit run drained before).1
      (settle unit run drained before).2 := by
  unfold settle
  rw [← reported]
  dsimp only
  cases errors : (reported run).any Diagnostic.isError with
  | true =>
    have unclean : ¬ Clean (reported run) := fun clean => by
      rw [(any_error_iff _).mpr clean] at errors
      contradiction
    simpa using Settled.rejected unclean
  | false =>
    have clean : Clean (reported run) := (any_error_iff _).mp errors
    cases success : run.ending.isSuccess with
    | false =>
      have bad : run.ending ≠ .exited 0 := fun good => by
        rw [(is_success_iff _).mpr good] at success
        contradiction
      simpa using Settled.broken clean bad
    | true =>
      have good : run.ending = .exited 0 := (is_success_iff run.ending).mp success
      cases drained with
      | error cause => simpa using Settled.undrained clean good cause rfl
      | ok octets =>
        cases octets with
        | nil => simpa using Settled.silent clean good rfl
        | cons first rest =>
          cases written : before.write unit.name [first :: rest] true with
          | ok after =>
            simpa [written] using
              Settled.stored clean good (first :: rest) (by simp) rfl after written
          | error fault =>
            obtain ⟨shut, same⟩ := Store.write_refused before unit.name [first :: rest] true fault written
            simpa [written, same] using
              Settled.late clean good (first :: rest) (by simp) rfl shut

theorem failure_text_detail (run : Run) (detail : Text.trim (Utf8.lossyChars run.stderr) ≠ []) :
    (failureText run).toList = Text.trim (Utf8.lossyChars run.stderr) := by
  unfold failureText
  split
  · contradiction
  · rw [String.toList_ofList]

theorem failure_text_blank (run : Run) (blank : Text.trim (Utf8.lossyChars run.stderr) = []) :
    failureText run = "toolchain " ++ run.ending.render := by
  simp [failureText, blank]

theorem failure_text_nonempty (run : Run) : failureText run ≠ "" := by
  intro empty
  by_cases blank : Text.trim (Utf8.lossyChars run.stderr) = []
  · simp [failure_text_blank run blank] at empty
  · have detail := failure_text_detail run blank
    rw [empty] at detail
    exact blank detail.symm

theorem clean_append_error (diagnostics : List Diagnostic) (message : String) :
    ¬ Clean (diagnostics ++ [.ofMessage message]) := by
  intro clean
  exact clean (.ofMessage message) (by simp) rfl

theorem errors_empty_iff (result : Compilation) : result.errors = [] ↔ Clean result.diagnostics := by
  simp [Compilation.errors, Clean, Diagnostic.isError]

-- What a compilation tells of a run, and what it leaves in the store.
structure Judged (unit : SourceUnit) (run : Run) (captured : Except OsFault Octets)
    (before : Store) (result : Compilation) (after : Store) : Prop where
  success_iff : result.success = true ↔
    run.ending = .exited 0 ∧ Clean (reported run) ∧ ∃ octets, octets ≠ [] ∧ captured = .ok octets
  clean_iff : result.success = true ↔ Clean result.diagnostics
  errors_agree : result.hasErrors = true ↔ result.errors ≠ []
  synthesized : ∃ extra : Option Diagnostic,
    result.diagnostics = reported run ++ extra.toList ∧
    (extra.isSome = true ↔
      Clean (reported run) ∧ (run.ending ≠ .exited 0 ∨ captured = .ok [])) ∧
    ∀ d ∈ extra, d.severity = .error ∧ d.message ≠ "" ∧
      (run.ending = .exited 0 → d.message = "toolchain produced no output") ∧
      (run.ending ≠ .exited 0 → Text.trim (Utf8.lossyChars run.stderr) ≠ [] →
        d.message.toList = Text.trim (Utf8.lossyChars run.stderr)) ∧
      (run.ending ≠ .exited 0 → Text.trim (Utf8.lossyChars run.stderr) = [] →
        d.message = "toolchain " ++ run.ending.render)
  sealed_after : after.isSealed = true
  kept_on_failure : result.success = false → after.artifacts = before.artifacts
  stored_on_success : result.success = true →
    (∃ octets, captured = .ok octets ∧ after.octets? unit.name = some octets) ∧
    ∀ name, name ≠ unit.name → after.artifact? name = before.artifact? name

theorem settled_judged (unit : SourceUnit) (run : Run) (drained : Except OsFault Octets)
    (before after : Store) (result : Compilation)
    (settled : Settled unit run drained before (.ok result) after) :
    Judged unit run drained before result after := by
  cases settled with
  | rejected unclean =>
    exact
      { success_iff := by simp [unclean]
        clean_iff := by simp [unclean]
        errors_agree := by simp [Compilation.hasErrors, errors_empty_iff, unclean]
        synthesized := ⟨none, by simp, by simp [unclean], by simp⟩
        sealed_after := rfl
        kept_on_failure := fun _ => rfl
        stored_on_success := by simp }
  | broken clean bad =>
    have added := clean_append_error (reported run) (failureText run)
    exact
      { success_iff := by simp [bad]
        clean_iff := by simp [added]
        errors_agree := by simp [Compilation.hasErrors, errors_empty_iff, added]
        synthesized := by
          refine ⟨some (.ofMessage (failureText run)), rfl, by simp [clean, bad], ?_⟩
          intro d member
          obtain rfl := Option.mem_some.mp member
          exact ⟨rfl, failure_text_nonempty run, fun good => absurd good bad,
            fun _ detail => failure_text_detail run detail,
            fun _ blank => failure_text_blank run blank⟩
        sealed_after := rfl
        kept_on_failure := fun _ => rfl
        stored_on_success := by simp }
  | silent clean good nothing =>
    have added := clean_append_error (reported run) "toolchain produced no output"
    exact
      { success_iff := by
          subst nothing
          simp
        clean_iff := by simp [added]
        errors_agree := by simp [Compilation.hasErrors, errors_empty_iff, added]
        synthesized := by
          refine ⟨some (.ofMessage "toolchain produced no output"), rfl, by simp [clean, nothing], ?_⟩
          intro d member
          obtain rfl := Option.mem_some.mp member
          exact ⟨rfl, by simp [Diagnostic.ofMessage], fun _ => rfl, fun bad => absurd good bad,
            fun bad => absurd good bad⟩
        sealed_after := rfl
        kept_on_failure := fun _ => rfl
        stored_on_success := by simp }
  | stored clean good octets something captured after written =>
    obtain ⟨found, others, -⟩ := Store.artifact_write before after unit.name [octets] true written
    subst captured
    exact
      { success_iff := by simp [clean, good, something]
        clean_iff := by simp [clean]
        errors_agree := by simp [Compilation.hasErrors, errors_empty_iff, clean]
        synthesized := ⟨none, by simp, by simp [good, something], by simp⟩
        sealed_after := rfl
        kept_on_failure := by simp
        stored_on_success := fun _ =>
          ⟨⟨octets, rfl, Store.octets_of_artifact after _ _ (by simpa using found)⟩, others⟩ }

theorem settled_error (unit : SourceUnit) (run : Run) (drained : Except OsFault Octets)
    (before after : Store) (fault : ToolchainFault)
    (settled : Settled unit run drained before (.error fault) after) : after = before := by
  cases settled with
  | undrained => rfl
  | late => rfl

theorem seal_up_sealed (store : Store) (shut : store.isSealed = true) : store.sealUp = store := by
  rw [Store.sealUp, ← shut]

-- Only a write changes more than the seal, and a sealed store takes none.
theorem settled_sealed (unit : SourceUnit) (run : Run) (drained : Except OsFault Octets)
    (before after : Store) (answer : Except ToolchainFault Compilation)
    (shut : before.isSealed = true) (settled : Settled unit run drained before answer after) :
    after = before ∧ ∀ result, answer = .ok result → result.success = false := by
  cases settled with
  | rejected | broken | silent =>
    refine ⟨seal_up_sealed before shut, ?_⟩
    rintro result ⟨⟩
    rfl
  | undrained | late =>
    refine ⟨rfl, ?_⟩
    rintro result ⟨⟩
  | stored clean good octets something captured after written =>
    rw [Store.write_sealed before unit.name [octets] true shut] at written
    cases written

theorem compile_outcome (P : Platform σ) (toolchain : Toolchain) (mode : ScratchMode)
    (unit : SourceUnit) (before after : Store) (w w' : World σ)
    (answer : Except ToolchainFault Compilation)
    (finished : compile P toolchain mode unit before w = (answer, after, w')) :
    (∃ fault, attempt P toolchain mode unit w = (.error fault, w') ∧ answer = .error fault ∧
      after = before) ∨
    ∃ run captured, attempt P toolchain mode unit w = (.ok (run, captured), w') ∧
      Settled unit run captured before answer after := by
  rw [compile_attempt] at finished
  rcases attempted : attempt P toolchain mode unit w with ⟨fault | ⟨run, captured⟩, w''⟩
  · simp only [attempted, Prod.mk.injEq] at finished
    obtain ⟨rfl, rfl, rfl⟩ := finished
    exact .inl ⟨fault, rfl, rfl, rfl⟩
  · simp only [attempted, Prod.mk.injEq] at finished
    obtain ⟨rfl, rfl, rfl⟩ := finished
    exact .inr ⟨run, captured, rfl, settle_settled unit run captured before⟩

theorem compile_settled (P : Platform σ) (toolchain : Toolchain) (mode : ScratchMode)
    (unit : SourceUnit) (before after : Store) (w w' : World σ) (result : Compilation)
    (finished : compile P toolchain mode unit before w = (.ok result, after, w')) :
    ∃ run captured, attempt P toolchain mode unit w = (.ok (run, captured), w') ∧
      Settled unit run captured before (.ok result) after := by
  rcases compile_outcome P toolchain mode unit before after w w' _ finished with
    ⟨fault, -, same, -⟩ | settled
  · cases same
  · exact settled

theorem compile_judges_its_run (P : Platform σ) (toolchain : Toolchain) (mode : ScratchMode)
    (unit : SourceUnit) (before after : Store) (w w' : World σ) (result : Compilation)
    (finished : compile P toolchain mode unit before w = (.ok result, after, w')) :
    ∃ run captured, attempt P toolchain mode unit w = (.ok (run, captured), w') ∧
      (∀ octets, captured = .ok octets → Produced P toolchain mode unit w run octets) ∧
      Judged unit run captured before result after := by
  obtain ⟨run, captured, attempted, settled⟩ :=
    compile_settled P toolchain mode unit before after w w' result finished
  refine ⟨run, captured, attempted, ?_,
    settled_judged unit run captured before after result settled⟩
  rintro octets rfl
  exact attempt_produced P toolchain mode unit w w' run octets attempted

-- A compiler that crashed in the middle of its output.
def Run.crashed : Run := ⟨[.create, .write [1]], Octets.ofString " \n", .dumped 11⟩

theorem crashed_run_judged :
    ∃ w', compile (.steady .crashed 0) ⟨Path.ofString "/bin/cc", []⟩ .memory ⟨"Main", "int x;\n"⟩
        .empty .blank =
          (.ok ⟨false, [.ofMessage "toolchain signal: 11 (SIGSEGV) (core dumped)"]⟩, ⟨[], true⟩,
            w') ∧
      ∃ run captured,
        attempt (.steady .crashed 0) ⟨Path.ofString "/bin/cc", []⟩ .memory ⟨"Main", "int x;\n"⟩
          .blank = (.ok (run, captured), w') ∧
        (∀ octets, captured = .ok octets → Produced (.steady .crashed 0)
          ⟨Path.ofString "/bin/cc", []⟩ .memory ⟨"Main", "int x;\n"⟩ .blank run octets) ∧
        Judged ⟨"Main", "int x;\n"⟩ run captured .empty
          ⟨false, [.ofMessage "toolchain signal: 11 (SIGSEGV) (core dumped)"]⟩ ⟨[], true⟩ :=
  ⟨_, rfl, compile_judges_its_run _ _ _ _ _ _ _ _ _ rfl⟩

theorem compile_spares_store (P : Platform σ) (toolchain : Toolchain) (mode : ScratchMode)
    (unit : SourceUnit) (before after : Store) (w w' : World σ)
    (answer : Except ToolchainFault Compilation)
    (finished : compile P toolchain mode unit before w = (answer, after, w')) :
    ((∃ fault, answer = .error fault) → after = before) ∧
    (before.isSealed = true →
      after = before ∧ ∀ result, answer = .ok result → result.success = false) := by
  rcases compile_outcome P toolchain mode unit before after w w' answer finished with
    ⟨fault, -, rfl, rfl⟩ | ⟨run, captured, -, settled⟩
  · refine ⟨fun _ => rfl, fun _ => ⟨rfl, ?_⟩⟩
    rintro result ⟨⟩
  · refine ⟨?_, fun shut => settled_sealed unit run captured before after answer shut settled⟩
    rintro ⟨fault, rfl⟩
    exact settled_error unit run captured before after fault settled

def Store.abandoned : Store := ⟨[⟨"Main", [1, 2], false⟩, ⟨"b", [], true⟩], true⟩

-- A run that makes nothing.
def Run.idle : Run := ⟨[], [], .exited 0⟩

def Platform.refusing (request : Request) : Platform Unit :=
  { Platform.steady .idle 0 with
    refusal := fun asked _ => if asked = request then some .invalidArgument else none }

-- What can be refused to a compilation is refused to it, and the run that does well is late.
theorem abandoned_store_spared :
    (∃ answer after w', compile (.steady .quiet 0) ⟨Path.ofString "/bin/cc", []⟩ .memory
        ⟨"Main", "int x;\n"⟩ .abandoned .blank = (answer, after, w') ∧
      answer = .error (.store ⟨"Main"⟩) ∧ after = .abandoned) ∧
    ∀ mode ∈ [ScratchMode.memory, .privateDir], ∀ request ∈ [Request.openInput, .fillInput,
        .openOutput, .readOutput] ++ if mode = .memory then [.shareOutput] else [],
      ∃ answer after w', compile (.refusing request) ⟨Path.ofString "/bin/cc", []⟩ mode
          ⟨"Main", "int x;\n"⟩ ⟨[⟨"Main", [1], false⟩], false⟩ .blank = (answer, after, w') ∧
        answer = .error (.scratch "Main.c" .invalidArgument) ∧
        after = ⟨[⟨"Main", [1], false⟩], false⟩ := by
  constructor
  · obtain ⟨w', finished⟩ : ∃ w', compile (.steady .quiet 0) ⟨Path.ofString "/bin/cc", []⟩ .memory
        ⟨"Main", "int x;\n"⟩ .abandoned .blank = (.error (.store ⟨"Main"⟩), .abandoned, w') :=
      ⟨_, rfl⟩
    exact ⟨_, _, w', finished, rfl,
      (compile_spares_store _ _ _ _ _ _ _ _ _ finished).1 ⟨_, rfl⟩⟩
  · intro mode kind request member
    have refused : (compile (.refusing request) ⟨Path.ofString "/bin/cc", []⟩ mode
        ⟨"Main", "int x;\n"⟩ ⟨[⟨"Main", [1], false⟩], false⟩ .blank).1 =
          .error (.scratch "Main.c" .invalidArgument) := by
      simp only [List.mem_cons, List.not_mem_nil, or_false] at kind
      rcases kind with rfl | rfl
      all_goals
        simp only [List.cons_append, List.nil_append, if_true, reduceCtorEq, if_false,
          List.mem_cons, List.not_mem_nil, or_false] at member
      · rcases member with rfl | rfl | rfl | rfl | rfl
        all_goals rfl
      · rcases member with rfl | rfl | rfl | rfl
        all_goals rfl
    exact ⟨_, _, _, rfl, refused,
      (compile_spares_store _ _ _ _ _ _ _ _ _ rfl).1 ⟨_, refused⟩⟩

end Fragment
