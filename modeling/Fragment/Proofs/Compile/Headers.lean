import Fragment.Proofs.Compile.Warnings
import Fragment.Proofs.Diagnostic.Header
/-!
Headers of functions and the success of a compilation. A run that exits well, leaves an output and
reports no error compiles its unit, whatever functions it names above its warnings, unless the unit
has the linker's own name.
-/
namespace Fragment

variable {σ : Type}

theorem compile_clean_iff (P : Platform σ) (toolchain : Toolchain) (mode : ScratchMode)
    (unit : SourceUnit) (before : Store) (w w' : World σ) (run : Run) (captured : Octets)
    (ran : attempt P toolchain mode unit w = (.ok (run, .ok captured), w'))
    (exited : run.ending = .exited 0) (something : captured ≠ [])
    (unsealed : before.isSealed = false) :
    ∃ result after, compile P toolchain mode unit before w = (.ok result, after, w') ∧
      ((result.success = true ∧ after.octets? unit.name = some captured) ↔ Clean (reported run)) := by
  obtain ⟨result, after, settles, settled⟩ := settle_concludes unit run captured before unsealed
  have judged := settled_judged unit run (.ok captured) before after result settled
  have success : result.success = true ↔ Clean (reported run) := by
    rw [judged.success_iff]
    simp [exited, something]
  refine ⟨result, after, ?_, ?_⟩
  · rw [compile_attempt, ran]
    simp only [settles]
  · rw [← success]
    constructor
    · exact And.left
    · intro good
      obtain ⟨⟨octets, same, stored⟩, -⟩ := judged.stored_on_success good
      obtain rfl := Except.ok.inj same
      exact ⟨good, stored⟩

def Mild (unit : SourceUnit) (line : List Char) : Prop :=
  (∃ function, line = (functionHeader unit function).toList) ∨
    ∀ d, Diagnostic.ofLine? line = some d → d.severity ≠ .error

theorem header_error_iff (unit : SourceUnit) (function : String)
    (identifier : Diagnostic.IsIdentifier unit.name) :
    (∃ d, Diagnostic.ofLine? (functionHeader unit function).toList = some d ∧
      d.severity = .error) ↔ unit.name = "ld" := by
  have named := Diagnostic.identifier_named unit.name identifier
  rw [Diagnostic.header_read unit function named, Diagnostic.file_chars,
    ← Diagnostic.identifier_linker_iff unit.name identifier, ← Diagnostic.source_linker_iff]
  constructor
  · intro error
    obtain ⟨d, read, -⟩ := error
    by_cases linker : Diagnostic.isLinker (unit.name.toList ++ ['.', 'c']) = true
    · exact linker
    · rw [if_neg linker] at read
      contradiction
  · intro linker
    rw [if_pos linker]
    exact ⟨_, rfl, rfl⟩

theorem clean_headers_iff (unit : SourceUnit) (run : Run)
    (identifier : Diagnostic.IsIdentifier unit.name)
    (mild : ∀ line ∈ stderrLines run, Mild unit line) :
    Clean (reported run) ↔ unit.name ≠ "ld" ∨
      ∀ function, (functionHeader unit function).toList ∉ stderrLines run := by
  rw [reported_lines]
  constructor
  · intro clean
    by_cases linker : unit.name = "ld"
    · refine .inr fun function member => ?_
      obtain ⟨d, read, error⟩ := (header_error_iff unit function identifier).mpr linker
      exact clean d (List.mem_filterMap.mpr ⟨_, member, read⟩) error
    · exact .inl linker
  · intro apart d reported error
    obtain ⟨line, member, read⟩ := List.mem_filterMap.mp reported
    rcases mild line member with ⟨function, rfl⟩ | harmless
    · have linker := (header_error_iff unit function identifier).mp ⟨d, read, error⟩
      rcases apart with other | silent
      · exact other linker
      · exact silent function member
    · exact harmless d read error

theorem headers_silent_unless_ld (P : Platform σ) (unit : SourceUnit) :
    (Diagnostic.IsName unit.name.toList → ∀ function : String, '\n' ∉ function.toList →
      (Diagnostic.parse (functionHeader unit function) = [] ↔
        ¬ Diagnostic.EndsInLd unit.name.toList)) ∧
    (Diagnostic.IsIdentifier unit.name → ∀ function : String, '\n' ∉ function.toList →
      Diagnostic.parse (functionHeader unit function) =
        if unit.name = "ld" then [.ofMessage (functionHeader unit function)] else []) ∧
    (Diagnostic.IsIdentifier unit.name →
      ∀ (toolchain : Toolchain) (mode : ScratchMode) (before : Store) (w w' : World σ) (run : Run)
        (captured : Octets), attempt P toolchain mode unit w = (.ok (run, .ok captured), w') →
        run.ending = .exited 0 → captured ≠ [] → before.isSealed = false →
        (∀ line ∈ stderrLines run, Mild unit line) →
        ∃ result after, compile P toolchain mode unit before w = (.ok result, after, w') ∧
          ((result.success = true ∧ after.octets? unit.name = some captured) ↔
            unit.name ≠ "ld" ∨
              ∀ function, (functionHeader unit function).toList ∉ stderrLines run)) := by
  refine ⟨?_, ?_, ?_⟩
  · intro named function bare
    obtain ⟨told, silent⟩ := Diagnostic.header_parsed unit function named bare
    refine ⟨?_, silent⟩
    intro nothing ends
    rw [told ends] at nothing
    contradiction
  · intro identifier function bare
    obtain ⟨told, silent⟩ := Diagnostic.header_parsed unit function
      (Diagnostic.identifier_named unit.name identifier) bare
    rw [Diagnostic.identifier_linker_iff unit.name identifier] at told silent
    by_cases linker : unit.name = "ld"
    · rw [if_pos linker, told linker]
    · rw [if_neg linker, silent linker]
  · intro identifier toolchain mode before w w' run captured ran exited something unsealed mild
    obtain ⟨result, after, done, judged⟩ := compile_clean_iff P toolchain mode unit before w w' run
      captured ran exited something unsealed
    exact ⟨result, after, done, judged.trans (clean_headers_iff unit run identifier mild)⟩

-- What a compiler prints of a variable that is not used in a function of the unit.
def Run.unused (unit : SourceUnit) : Run where
  emissions := [.create, .write [1]]
  stderr := Octets.ofString (functionHeader unit "f" ++ "\n" ++ unit.fileName ++
    ":8:9: warning: unused variable 'x'\n")
  ending := .exited 0

def linkerNamed : SourceUnit := ⟨"ld", "int x;\n"⟩

def linkerLike : SourceUnit := ⟨"build", "int x;\n"⟩

theorem linker_like_compiles :
    Diagnostic.parse (functionHeader linkerLike "f") = [] ∧
      ∃ result after w', compile (.steady (.unused linkerLike) 0) ⟨Path.ofString "/bin/cc", []⟩
          .memory linkerLike .empty .blank = (.ok result, after, w') ∧
        result.success = true ∧ after.octets? "build" = some [1] := by
  have identifier : Diagnostic.IsIdentifier linkerLike.name :=
    ⟨⟨'b', rfl, by decide⟩, List.all_eq_true.mp rfl⟩
  have lines : stderrLines (.unused linkerLike) = [(functionHeader linkerLike "f").toList,
      "build.c:8:9: warning: unused variable 'x'".toList] := by rfl
  have warning : Diagnostic.ofLine? "build.c:8:9: warning: unused variable 'x'".toList =
      some ⟨.warning, some "build.c", some 8, some 9, "unused variable 'x'"⟩ := by rfl
  have mild : ∀ line ∈ stderrLines (.unused linkerLike), Mild linkerLike line := by
    rw [lines]
    intro line member
    rcases List.mem_cons.mp member with header | plain
    · exact .inl ⟨"f", header⟩
    · refine .inr fun d read => ?_
      rw [List.mem_singleton.mp plain, warning] at read
      rw [← Option.some.inj read]
      decide
  obtain ⟨-, silent, judged⟩ := headers_silent_unless_ld
    (.steady (.unused linkerLike) 0) linkerLike
  obtain ⟨result, after, done, kept⟩ := judged identifier ⟨Path.ofString "/bin/cc", []⟩ .memory
    .empty .blank _ (.unused linkerLike) [1] rfl rfl (by decide) rfl mild
  refine ⟨?_, result, after, _, done, kept.mpr (.inl (by decide))⟩
  rw [silent identifier "f" (by decide)]
  rfl

theorem linker_named_rejected :
    Diagnostic.IsIdentifier "ld" ∧
      Diagnostic.parse "ld.c: In function 'f':" =
        [⟨.error, none, none, none, "ld.c: In function 'f':"⟩] ∧
      (compile (.steady (.unused linkerNamed) 0) ⟨Path.ofString "/bin/cc", []⟩ .memory linkerNamed
        .empty .blank).1 = .ok ⟨false, [⟨.error, none, none, none, "ld.c: In function 'f':"⟩,
          ⟨.warning, some "ld.c", some 8, some 9, "unused variable 'x'"⟩]⟩ := by
  refine ⟨⟨⟨'l', rfl, by decide⟩, List.all_eq_true.mp rfl⟩, ?_, ?_⟩
  · decide +kernel
  · rfl

end Fragment
