import Fragment.Proofs.Files.Directory
import Fragment.Proofs.Text.Decode
/-!
Paths in pieces, and paths that have been told. Telling a path replaces what is not UTF-8 in it, and
that changes neither how many pieces it has nor which of them are empty or a dot.
-/
namespace Fragment.Path

theorem split_cons (separator : UInt8) (path : Octets) :
    ∃ part parts, splitAt separator path = part :: parts := by
  induction path with
  | nil => exact ⟨[], [], rfl⟩
  | cons o rest ih =>
    obtain ⟨part, parts, cut⟩ := ih
    by_cases here : o = separator
    · exact ⟨[], part :: parts, by rw [splitAt, if_pos here, cut]⟩
    · exact ⟨o :: part, parts, by rw [splitAt, if_neg here, cut]⟩

theorem split_join (separator : UInt8) (a b : Octets) :
    splitAt separator (a ++ separator :: b) = splitAt separator a ++ splitAt separator b := by
  induction a with
  | nil => simp [splitAt]
  | cons o rest ih =>
    obtain ⟨part, parts, cut⟩ := split_cons separator rest
    rw [cut, List.cons_append] at ih
    by_cases here : o = separator
    · rw [List.cons_append, splitAt, if_pos here, ih, splitAt, if_pos here, cut]
      rfl
    · rw [List.cons_append, splitAt, if_neg here, ih, splitAt, if_neg here, cut]
      rfl

theorem split_bare (separator : UInt8) (run : Octets) (bare : separator ∉ run) :
    splitAt separator run = [run] := by
  have cut := split_run separator run [] [] [] bare rfl
  rwa [List.append_nil] at cut

theorem names_join (a b : Path) : names (a ++ slash :: b) = names a ++ names b := by
  rw [names, split_join, List.filter_append]
  rfl

theorem absolute_iff_split (path : Path) :
    path.isAbsolute = true ↔ ∃ part parts, splitAt slash path = [] :: part :: parts := by
  cases path with
  | nil => simp [isAbsolute, splitAt]
  | cons o rest =>
    obtain ⟨part, parts, cut⟩ := split_cons slash rest
    by_cases here : o = slash
    · rw [splitAt, if_pos here, cut, here]
      exact ⟨fun _ => ⟨part, parts, rfl⟩, fun _ => rfl⟩
    · rw [splitAt, if_neg here, cut]
      simp [isAbsolute, here]

-- The path that is read where another was told.
def told (path : Path) : Path := ofString (pathText path)

theorem told_slash (a b : Path) : told (a ++ slash :: b) = told a ++ slash :: told b := by
  have cut := Utf8.lossy_cut a b '/' (by decide)
  rw [told, pathText, Utf8.lossy, ofString, Octets.ofString, String.toList_ofList,
    show a ++ slash :: b = a ++ UInt8.ofNat '/'.toNat :: b from rfl, cut, Octets.ofChars_append]
  simp only [told, pathText, Utf8.lossy, ofString, Octets.ofString, String.toList_ofList]
  rfl

theorem told_text (text : String) : told (ofString text) = ofString text := by
  have read : Utf8.lossyChars (ofString text) = text.toList := by
    have whole := Utf8.lossy_encoded text.toList []
    rwa [List.append_nil, show Utf8.lossyChars [] = [] from rfl, List.append_nil] at whole
  rw [told, pathText, Utf8.lossy, read, String.ofList_toList]

theorem text_of_string (text : String) : pathText (ofString text) = text :=
  (Octets.of_string_inj _ _).mp (told_text text)

theorem told_self_iff (path : Path) : told path = path ↔ ∃ text, path = ofString text := by
  constructor
  · exact fun same => ⟨pathText path, same.symm⟩
  · rintro ⟨text, rfl⟩
    exact told_text text

theorem told_slash_mem (path : Path) : slash ∈ told path ↔ slash ∈ path := by
  have char := Octets.ascii_mem_octets (pathText path) '/' (by decide)
  constructor
  · intro member
    have read := char.mp member
    rw [pathText, Utf8.lossy, String.toList_ofList] at read
    exact Utf8.lossy_ascii path '/' (by decide) read
  · intro member
    obtain ⟨a, b, rfl⟩ := List.append_of_mem member
    rw [told_slash]
    simp

theorem told_chars (path : Path) (text : String) :
    told path = ofString text ↔ Utf8.lossyChars path = text.toList := by
  rw [told, ofString, ofString, Octets.of_string_inj, pathText, Utf8.lossy, ← String.toList_inj,
    String.toList_ofList]

theorem told_nil_iff (path : Path) : told path = [] ↔ path = [] := by
  refine (told_chars path "").trans ⟨Utf8.lossy_nil path, ?_⟩
  rintro rfl
  rfl

theorem told_dot_iff (path : Path) : told path = dot ↔ path = dot := by
  refine (told_chars path ".").trans ⟨fun read => ?_, ?_⟩
  · obtain ⟨rest, rfl, ended⟩ := Utf8.lossy_first path '.' [] (by decide) read
    rw [Utf8.lossy_nil rest ended]
    rfl
  · rintro rfl
    rfl

theorem split_told (path : Path) : splitAt slash (told path) = (splitAt slash path).map told := by
  by_cases member : slash ∈ path
  · obtain ⟨a, b, rfl, bare⟩ := List.eq_append_cons_of_mem member
    have bare' : slash ∉ told a := (told_slash_mem a).not.mpr bare
    rw [told_slash, split_join, split_join, split_bare slash a bare, split_bare slash _ bare',
      split_told b, List.map_append]
    rfl
  · rw [split_bare slash path member, split_bare slash _ ((told_slash_mem path).not.mpr member)]
    rfl
termination_by path.length
decreasing_by
  subst_vars
  simp
  omega

theorem names_told (path : Path) : names (told path) = (names path).map told := by
  rw [names, split_told, List.filter_map, names]
  refine congrArg (List.map told) (List.filter_congr fun part _ => ?_)
  have empty := told_nil_iff part
  rw [← List.isEmpty_iff, ← List.isEmpty_iff] at empty
  exact congrArg (!·) (Bool.eq_iff_iff.mpr empty)

theorem absolute_told (path : Path) : (told path).isAbsolute = path.isAbsolute := by
  rw [Bool.eq_iff_iff, absolute_iff_split, absolute_iff_split, split_told]
  obtain ⟨first, rest, cut⟩ := split_cons slash path
  cases rest with
  | nil => simp [cut]
  | cons part parts => simp [cut, told_nil_iff]

theorem component_count_told (path : Path) : (told path).componentCount = path.componentCount := by
  have plain (parts : List Octets) :
      (parts.map told).countP (· != dot) = parts.countP (· != dot) := by
    rw [List.countP_map]
    refine List.countP_congr fun part _ => ?_
    simpa using (told_dot_iff part).not
  rw [componentCount, componentCount, absolute_told, names_told]
  dsimp only
  split
  · rw [plain]
  · cases path.names with
    | nil => rfl
    | cons first rest => exact congrArg (1 + ·) (plain rest)

end Fragment.Path
