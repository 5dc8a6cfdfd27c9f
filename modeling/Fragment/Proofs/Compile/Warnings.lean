import Fragment.Proofs.Compile.Settlement
import Fragment.Proofs.Diagnostic.Lead
/-!
Warnings and the success of a compilation. A run that exits well, leaves an output and announces
warnings and notes only compiles its unit, unless one of these lines is led by a section or a
linker, whose patterns do not read what is announced.
-/
namespace Fragment

variable {σ : Type}

def stderrLines (run : Run) : List (List Char) := Text.lines (Utf8.lossyChars run.stderr)

theorem reported_lines (run : Run) :
    reported run = (stderrLines run).filterMap Diagnostic.ofLine? := rfl

theorem clean_iff_read (run : Run)
    (harmless : ∀ line ∈ stderrLines run,
      Diagnostic.ofLine? line = none ∨ Diagnostic.Harmless line) :
    Clean (reported run) ↔ ∀ line ∈ stderrLines run, ¬ Diagnostic.Misread line := by
  rw [reported_lines]
  constructor
  · intro clean line member misread
    obtain ⟨d, read, error⟩ := Diagnostic.misread_error line misread
    exact clean d (List.mem_filterMap.mpr ⟨line, member, read⟩) error
  · intro understood d reported error
    obtain ⟨line, member, read⟩ := List.mem_filterMap.mp reported
    rcases harmless line member with skipped | announced
    · simp [skipped] at read
    · exact understood line member (Diagnostic.error_misread line d announced read error)

theorem settle_concludes (unit : SourceUnit) (run : Run) (captured : Octets) (before : Store)
    (unsealed : before.isSealed = false) :
    ∃ result after, settle unit run (.ok captured) before = (.ok result, after) ∧
      Settled unit run (.ok captured) before (.ok result) after := by
  have settled := settle_settled unit run (.ok captured) before
  generalize settle unit run (.ok captured) before = answer at settled
  rcases answer with ⟨fault | result, after⟩
  · cases settled with
    | undrained clean good cause stuck => contradiction
    | late clean good octets something captured shut =>
      exact absurd (shut.symm.trans unsealed) (by decide)
  · exact ⟨result, after, rfl, settled⟩

theorem compile_with_warnings_iff (P : Platform σ) (toolchain : Toolchain) (mode : ScratchMode)
    (unit : SourceUnit) (before : Store) (w w' : World σ) (run : Run) (captured : Octets)
    (ran : attempt P toolchain mode unit w = (.ok (run, .ok captured), w'))
    (exited : run.ending = .exited 0) (something : captured ≠ [])
    (unsealed : before.isSealed = false)
    (harmless : ∀ line ∈ stderrLines run,
      Diagnostic.ofLine? line = none ∨ Diagnostic.Harmless line) :
    ∃ result after, compile P toolchain mode unit before w = (.ok result, after, w') ∧
      ((result.success = true ∧ Clean result.diagnostics ∧
          after.octets? unit.name = some captured) ↔
        ∀ line ∈ stderrLines run, ¬ Diagnostic.Misread line) ∧
      ((∃ line ∈ stderrLines run, Diagnostic.Misread line) →
        result.success = false ∧ after.artifacts = before.artifacts) := by
  obtain ⟨result, after, settles, settled⟩ := settle_concludes unit run captured before unsealed
  have judged := settled_judged unit run (.ok captured) before after result settled
  have success : result.success = true ↔ ∀ line ∈ stderrLines run, ¬ Diagnostic.Misread line := by
    rw [judged.success_iff, ← clean_iff_read run harmless]
    simp [exited, something]
  refine ⟨result, after, ?_, ?_, ?_⟩
  · rw [compile_attempt, ran]
    simp only [settles]
  · rw [← success]
    constructor
    · exact fun all => all.1
    · intro good
      obtain ⟨⟨octets, same, stored⟩, -⟩ := judged.stored_on_success good
      obtain rfl := Except.ok.inj same
      exact ⟨good, judged.clean_iff.mp good, stored⟩
  · rintro ⟨line, member, misread⟩
    have failed : result.success = false := by
      rw [← Bool.not_eq_true, success]
      exact fun understood => understood line member misread
    exact ⟨failed, judged.kept_on_failure failed⟩

-- A compiler's warning at a place in the unit.
def Run.mild : Run where
  emissions := [.create, .write [1]]
  stderr := Octets.ofString "Main.c:8:5: warning: unused\n"
  ending := .exited 0

theorem mild_run_compiles :
    (∀ line ∈ stderrLines .mild, Diagnostic.ofLine? line = none ∨ Diagnostic.Harmless line) ∧
      ∃ result after w', compile (.steady .mild 0) ⟨Path.ofString "/bin/cc", []⟩ .memory
          ⟨"Main", "int x;\n"⟩ .empty .blank = (.ok result, after, w') ∧
        result.success = true ∧ Clean result.diagnostics ∧ after.octets? "Main" = some [1] := by
  have lines : stderrLines .mild = ["Main.c:8:5: warning: unused".toList] := by rfl
  have announced : Diagnostic.Announced "Main.c:8:5: warning: unused".toList
      (.positioned "Main.c".toList ['8'] (some ['5'])) .warning "unused".toList := by
    refine ⟨⟨by decide, by decide, ?_⟩, by decide⟩
    intro digits column
    rw [← Option.mem_some.mp column]
    decide
  have harmless : ∀ line ∈ stderrLines .mild,
      Diagnostic.ofLine? line = none ∨ Diagnostic.Harmless line := by
    rw [lines]
    simpa using Or.inr ⟨_, _, _, announced, by decide⟩
  obtain ⟨result, after, done, kept, -⟩ := compile_with_warnings_iff (.steady .mild 0)
    ⟨Path.ofString "/bin/cc", []⟩ .memory ⟨"Main", "int x;\n"⟩ .empty .blank _ .mild [1] rfl rfl
    (by decide) rfl harmless
  refine ⟨harmless, result, after, _, done, kept.mpr ?_⟩
  rw [lines]
  intro line member misread
  obtain rfl := List.mem_singleton.mp member
  obtain ⟨d, read, error⟩ := Diagnostic.misread_error _ misread
  have warning := Diagnostic.positioned_lead _ _ _ _ _ .warning d announced read
  exact absurd (warning.symm.trans error) (by decide)

-- A linker's warning about a dangerous function.
def Run.dangerous : Run where
  emissions := [.create, .write [1]]
  stderr := Octets.ofString "Main.c:(.text+0x1d): warning: the use of gets is dangerous\n"
  ending := .exited 0

theorem dangerous_run_rejected :
    (∀ line ∈ stderrLines .dangerous, Diagnostic.Harmless line) ∧
      Run.dangerous.ending = .exited 0 ∧ Store.empty.isSealed = false ∧
      (∃ w', attempt (.steady .dangerous 0) ⟨Path.ofString "/bin/cc", []⟩ .memory
        ⟨"Main", "int x;\n"⟩ .blank = (.ok (.dangerous, .ok [1]), w')) ∧
      (compile (.steady .dangerous 0) ⟨Path.ofString "/bin/cc", []⟩ .memory ⟨"Main", "int x;\n"⟩
        .empty .blank).1 = .ok ⟨false, [⟨.error, some "Main.c", none, none,
          "warning: the use of gets is dangerous (in .text+0x1d)"⟩]⟩ := by
  have lines : stderrLines .dangerous =
      ["Main.c:(.text+0x1d): warning: the use of gets is dangerous".toList] := by rfl
  have announced : Diagnostic.Announced
      "Main.c:(.text+0x1d): warning: the use of gets is dangerous".toList
      (.sectioned "Main.c".toList ".text+0x1d".toList) .warning
      "the use of gets is dangerous".toList := by
    refine ⟨⟨by decide, ?_⟩, by decide⟩
    rintro c member rfl
    exact absurd member (by decide)
  refine ⟨?_, rfl, rfl, ⟨_, rfl⟩, ?_⟩
  · rw [lines]
    simpa using ⟨_, _, _, announced, by decide⟩
  · rfl

end Fragment
