import Fragment.Proofs.Diagnostic.Shapes
/-!
Which shape a line can have is decided by the character after its first colon: a digit, a space or
a parenthesis. Only a linker's line can have another shape as well, and never the positioned one.
-/
namespace Fragment.Diagnostic

-- A line number begins with a digit, so what follows the file's colon does as well.
theorem placed_next (file line rest : List Char) (filed : IsFile file) (numbered : IsNumber line) :
    ∃ c more, fileColon? (file ++ ':' :: (line ++ rest)) = some (file, c :: more) ∧
      Text.isDigit c = true := by
  obtain ⟨something, digits⟩ := numbered
  cases line with
  | nil => contradiction
  | cons c more => exact ⟨c, more ++ rest, file_colon_written file _ filed, digits c (by simp)⟩

theorem positioned_next (text : List Char) (d : Diagnostic) (read : positioned? text = some d) :
    ∃ file c rest, fileColon? text = some (file, c :: rest) ∧ Text.isDigit c = true := by
  obtain ⟨file, line, column, word, message, lined⟩ := (positioned_iff text d).mp read
  obtain ⟨c, rest, cut, digit⟩ := placed_next file line _ lined.filed lined.numbered
  rw [← lined.written] at cut
  exact ⟨file, c, rest, cut, digit⟩

theorem tool_next (text : List Char) (d : Diagnostic) (read : ofTool? text = some d) :
    ∃ file rest, fileColon? text = some (file, ' ' :: rest) := by
  obtain ⟨tool, word, message, lined⟩ := (tool_iff text d).mp read
  exact ⟨tool, _, (file_colon_iff text tool _).mpr ⟨name_file tool lined.named, lined.written⟩⟩

theorem section_next (text : List Char) (d : Diagnostic) (read : ofSection? text = some d) :
    ∃ file rest, fileColon? text = some (file, '(' :: rest) := by
  obtain ⟨file, inside, message, lined⟩ := (section_iff text d).mp read
  exact ⟨file, _, (file_colon_iff text file _).mpr ⟨name_file file lined.named, lined.written⟩⟩

theorem not_positioned (text file rest : List Char) (c : Char)
    (cut : fileColon? text = some (file, c :: rest)) (other : Text.isDigit c = false) :
    positioned? text = none := by
  cases read : positioned? text with
  | none => rfl
  | some d =>
    obtain ⟨file', c', rest', cut', digit⟩ := positioned_next text d read
    simp only [cut, Option.some.injEq, Prod.mk.injEq, List.cons.injEq] at cut'
    obtain ⟨-, rfl, -⟩ := cut'
    simp [other] at digit

theorem not_tool (text file rest : List Char) (c : Char)
    (cut : fileColon? text = some (file, c :: rest)) (other : c ≠ ' ') : ofTool? text = none := by
  cases read : ofTool? text with
  | none => rfl
  | some d =>
    obtain ⟨file', rest', cut'⟩ := tool_next text d read
    simp only [cut, Option.some.injEq, Prod.mk.injEq, List.cons.injEq] at cut'
    exact absurd cut'.2.1 other

theorem not_section (text file rest : List Char) (c : Char)
    (cut : fileColon? text = some (file, c :: rest)) (other : c ≠ '(') :
    ofSection? text = none := by
  cases read : ofSection? text with
  | none => rfl
  | some d =>
    obtain ⟨file', rest', cut'⟩ := section_next text d read
    simp only [cut, Option.some.injEq, Prod.mk.injEq, List.cons.injEq] at cut'
    exact absurd cut'.2.1 other

theorem linker_back_iff (name : List Char) :
    isLinker name = true ↔ endsInLd name.reverse = true ∨
      ∃ run rest, run ≠ [] ∧ (∀ c ∈ run, Text.isWord c = true) ∧
        name.reverse = run ++ '.' :: rest ∧ endsInLd rest = true := by
  have cut := Text.cut_iff Text.isWord '.' (by decide) name.reverse
  unfold isLinker
  dsimp only
  rw [Bool.or_eq_true]
  refine or_congr_right ?_
  constructor
  · intro read
    split at read
    · rename_i first more rest taken dropped
      obtain ⟨words, shape⟩ := (cut _ rest).mp ⟨taken, dropped⟩
      exact ⟨_, rest, by simp, words, shape, read⟩
    · contradiction
  · rintro ⟨run, rest, something, words, shape, ld⟩
    obtain ⟨taken, dropped⟩ := (cut run rest).mpr ⟨words, shape⟩
    rw [taken, dropped]
    cases run with
    | nil => contradiction
    | cons first more => exact ld

theorem ends_in_ld_head (c : Char) (rest : List Char) (ld : endsInLd (c :: rest) = true) :
    c = 'd' := by
  unfold endsInLd at ld
  split at ld
  · rename_i shape
    exact (List.cons.inj shape).1
  · contradiction

-- Read backwards, a place in a file has digits and then a colon, and a linker's name has neither
-- before its `ld`.
theorem place_no_linker (front digits : List Char) (number : IsNumber digits) :
    isLinker (front ++ ':' :: digits) = false := by
  obtain ⟨something, all⟩ := number
  have back : (front ++ ':' :: digits).reverse = digits.reverse ++ ':' :: front.reverse := by
    simp
  have digit : ∀ c ∈ digits.reverse, Text.isDigit c = true :=
    fun c member => all c (List.mem_reverse.mp member)
  rw [← Bool.not_eq_true, linker_back_iff, back]
  rintro (ld | ⟨run, rest, -, words, shape, -⟩)
  · cases reversed : digits.reverse with
    | nil => exact something (List.reverse_eq_nil_iff.mp reversed)
    | cons last init =>
      rw [reversed] at ld digit
      obtain rfl := ends_in_ld_head last _ ld
      exact absurd (digit 'd' (by simp)) (by decide)
  · rcases List.append_eq_append_iff.mp shape with ⟨between, same, left⟩ | ⟨between, same, left⟩
    · cases between with
      | nil => simp at left
      | cons c more =>
        obtain ⟨rfl, -⟩ := List.cons.inj left
        have word := words ':' (by simp [same])
        exact absurd word (by decide)
    · cases between with
      | nil => simp at left
      | cons c more =>
        obtain ⟨rfl, -⟩ := List.cons.inj left
        exact absurd (digit '.' (by simp [same])) (by decide)

theorem number_solid (digits : List Char) (number : IsNumber digits) : ∀ c ∈ digits, c ≠ ' ' := by
  rintro c member rfl
  exact absurd (number.2 ' ' member) (by decide)

theorem solid_name_unique (name other rest rest' : List Char)
    (solid : ∀ c ∈ name, Text.isBlank c = false) (solid' : ∀ c ∈ other, Text.isBlank c = false)
    (same : name ++ ':' :: ' ' :: rest = other ++ ':' :: ' ' :: rest') :
    name = other ∧ rest = rest' := by
  obtain ⟨names, rests⟩ := Text.cut_unique (fun c => !Text.isBlank c) ' ' (by decide)
    (name ++ [':']) (other ++ [':']) rest rest' (by simpa using solid_with_colon name solid)
    (by simpa using solid_with_colon other solid') (by simpa using same)
  exact ⟨List.append_cancel_right names, rests⟩

theorem linker_name_solid (text name message : List Char) (d : Diagnostic)
    (lined : LinkerLine text d name message) : ∀ c ∈ name ++ [':'], c ≠ ' ' := by
  rintro c member rfl
  exact absurd (solid_with_colon name lined.solid ' ' member) (by decide)

theorem solid_place_not_linker (front digits rest : List Char) (solid : ∀ c ∈ front, c ≠ ' ')
    (number : IsNumber digits) :
    ofLinker? (front ++ ':' :: (digits ++ ':' :: ' ' :: rest)) = none := by
  cases read : ofLinker? (front ++ ':' :: (digits ++ ':' :: ' ' :: rest)) with
  | none => rfl
  | some d =>
    obtain ⟨name, message, lined⟩ := (linker_iff _ d).mp read
    have place_solid : ∀ c ∈ front ++ ':' :: digits ++ [':'], c ≠ ' ' := by
      simp only [List.mem_append, List.mem_cons, List.not_mem_nil, or_false]
      rintro c ((inside | rfl | inside) | rfl)
      · exact solid c inside
      · decide
      · exact number_solid digits number c inside
      · decide
    have shape : (front ++ ':' :: digits ++ [':']) ++ ' ' :: rest =
        (name ++ [':']) ++ ' ' :: message := by
      simpa using lined.written
    obtain ⟨same, -⟩ := Text.cut_unique (fun c => c ≠ ' ') ' ' (by decide) _ _ rest message
      (by simpa using place_solid)
      (by simpa using linker_name_solid _ name message d lined) shape
    have linker := lined.linker
    rw [← List.append_cancel_right same, place_no_linker front digits number] at linker
    contradiction

-- A space in the file's name would come before the first colon, and a linker's line has none there.
theorem linker_file_solid (file rest name message : List Char) (d : Diagnostic)
    (colonless : ∀ c ∈ file, c ≠ ':')
    (lined : LinkerLine (file ++ ':' :: rest) d name message) : ∀ c ∈ file, c ≠ ' ' := by
  intro c member
  have shape : file ++ ':' :: rest = (name ++ [':']) ++ ' ' :: message := by
    simpa using lined.written
  rcases List.append_eq_append_iff.mp shape with ⟨between, same, -⟩ | ⟨between, same, -⟩
  · exact linker_name_solid _ name message d lined c (by simp [same, member])
  · exact absurd rfl (colonless ':' (by simp [same]))

theorem placed_not_linker (file line rest : List Char) (column : Option (List Char))
    (filed : IsFile file) (numbered : IsNumber line)
    (columned : ∀ digits ∈ column, IsNumber digits) :
    ofLinker? (file ++ ':' :: (line ++ ':' :: (columnText column ++ ' ' :: rest))) = none := by
  cases read : ofLinker? (file ++ ':' :: (line ++ ':' :: (columnText column ++ ' ' :: rest))) with
  | none => rfl
  | some d =>
    obtain ⟨name, message, lined⟩ := (linker_iff _ d).mp read
    have solid := linker_file_solid file _ name message d filed.2 lined
    rw [← read]
    cases column with
    | none => exact solid_place_not_linker file line rest solid numbered
    | some digits =>
      have placed : ∀ c ∈ file ++ ':' :: line, c ≠ ' ' := by
        simp only [List.mem_append, List.mem_cons]
        rintro c (inside | rfl | inside)
        · exact solid c inside
        · decide
        · exact number_solid line numbered c inside
      simpa [columnText] using
        solid_place_not_linker (file ++ ':' :: line) digits rest placed (columned digits rfl)

theorem positioned_not_linker (text : List Char) (d : Diagnostic)
    (read : positioned? text = some d) : ofLinker? text = none := by
  obtain ⟨file, line, column, word, message, lined⟩ := (positioned_iff text d).mp read
  rw [lined.written]
  exact placed_not_linker file line _ column lined.filed lined.numbered lined.columned

theorem placed_not_tool (file line rest : List Char) (filed : IsFile file)
    (numbered : IsNumber line) : ofTool? (file ++ ':' :: (line ++ rest)) = none := by
  obtain ⟨c, more, cut, digit⟩ := placed_next file line rest filed numbered
  refine not_tool _ file more c cut ?_
  rintro rfl
  exact absurd digit (by decide)

theorem placed_not_section (file line rest : List Char) (filed : IsFile file)
    (numbered : IsNumber line) : ofSection? (file ++ ':' :: (line ++ rest)) = none := by
  obtain ⟨c, more, cut, digit⟩ := placed_next file line rest filed numbered
  refine not_section _ file more c cut ?_
  rintro rfl
  exact absurd digit (by decide)

theorem section_error (text : List Char) (d : Diagnostic) (read : ofSection? text = some d) :
    d.severity = .error := by
  obtain ⟨file, inside, message, lined⟩ := (section_iff text d).mp read
  rw [lined.told]

theorem linker_error (text : List Char) (d : Diagnostic) (read : ofLinker? text = some d) :
    d.severity = .error := by
  obtain ⟨name, message, lined⟩ := (linker_iff text d).mp read
  rw [lined.told]
  rfl

end Fragment.Diagnostic
