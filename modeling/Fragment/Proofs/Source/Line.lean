import Fragment.Proofs.Source.Position
/-!
The lines of a text. A `Line` is a text in four parts: what stands before the line, its content, the
run of octets that ends it, and what follows. A text has one line for each number from one to the
count of its lines, and the search for a line finds the start of that one and its octets.
-/
namespace Fragment

def lineCount (text : Octets) : Nat :=
  text.count lineFeed + if text ≠ [] ∧ text.getLast? ≠ some lineFeed then 1 else 0

structure Line where
  before : Octets
  content : Octets
  ending : Octets
  after : Octets
deriving DecidableEq, Repr

namespace Line

def start (l : Line) : Nat := l.before.length

def stop (l : Line) : Nat := l.before.length + l.content.length

-- The line of that number. It ends with a run of carriage returns and a line feed, which only the
-- last line of a text may lack.
structure At (l : Line) (text : Octets) (number : Nat) : Prop where
  whole : text = l.before ++ (l.content ++ (l.ending ++ l.after))
  counted : number = 1 + l.before.count lineFeed
  begun : l.before = [] ∨ l.before.getLast? = some lineFeed
  bare : lineFeed ∉ l.content
  trimmed : l.content.getLast? ≠ some carriageReturn
  ended : ∃ returns, l.ending = List.replicate returns carriageReturn ++ [lineFeed] ∨
    l.ending = List.replicate returns carriageReturn ∧ l.after = []
  something : l.content ++ l.ending ≠ []

end Line

section counting

variable (finished : List Octets) (run : Octets)

theorem last_of_runs (last : lineFeed ∉ run) :
    let text := (finished.map (· ++ [lineFeed])).flatten ++ run
    (text ≠ [] ∧ text.getLast? ≠ some lineFeed) ↔ run ≠ [] := by
  intro text
  rcases List.eq_nil_or_concat run with rfl | ⟨front, o, rfl⟩
  · rcases List.eq_nil_or_concat finished with rfl | ⟨earlier, piece, rfl⟩
    · simp [text]
    · simp [text, ← List.append_assoc]
  · have other : o ≠ lineFeed := fun same => last (by simp [same])
    simp [text, ← List.append_assoc, other]

theorem line_count_runs (bare : ∀ piece ∈ finished, lineFeed ∉ piece) (last : lineFeed ∉ run) :
    lineCount ((finished.map (· ++ [lineFeed])).flatten ++ run) =
      finished.length + if run ≠ [] then 1 else 0 := by
  rw [lineCount, Text.count_runs lineFeed finished run bare last]
  simp only [last_of_runs finished run last]

end counting

theorem pieces_count (text : Octets) : (Text.pieces lineFeed text).length = lineCount text := by
  obtain ⟨finished, run, bare, last, rfl⟩ := Text.text_runs lineFeed text
  rw [line_count_runs finished run bare last, Text.pieces_runs lineFeed finished run bare,
    List.length_append, List.length_map]
  by_cases something : run = []
  · simp [something, Text.pieces]
  · rw [Text.pieces_last lineFeed run last something, if_pos something]
    rfl

theorem line_at_some_iff (text : Octets) (number : Nat) :
    (lineAt? text number).isSome = true ↔ 1 ≤ number ∧ number ≤ lineCount text := by
  rw [← pieces_count]
  cases number with
  | zero => simp [lineAt?]
  | succ n =>
    have listed : (Text.pieces lineFeed text)[n]?.isSome = true ↔
        n < (Text.pieces lineFeed text).length := by simp
    rw [lineAt?, Option.isSome_map, listed]
    omega

theorem before_line (before : Octets) (begun : before = [] ∨ before.getLast? = some lineFeed) :
    ∃ finished : List Octets, (∀ piece ∈ finished, lineFeed ∉ piece) ∧
      before = (finished.map (· ++ [lineFeed])).flatten := by
  obtain ⟨finished, run, bare, last, shape⟩ := Text.text_runs lineFeed before
  by_cases nothing : run = []
  · exact ⟨finished, bare, by rw [shape, nothing, List.append_nil]⟩
  · obtain ⟨something, other⟩ := (last_of_runs finished run last).mpr nothing
    rw [← shape] at something other
    rcases begun with empty | fed
    · exact absurd empty something
    · exact absurd fed other

theorem pieces_ended (front rest : Octets) (ended : front = [] ∨ front.getLast? = some lineFeed) :
    Text.pieces lineFeed (front ++ rest) =
      Text.pieces lineFeed front ++ Text.pieces lineFeed rest := by
  obtain ⟨finished, bare, rfl⟩ := before_line front ended
  have alone := Text.pieces_runs lineFeed finished [] bare
  rw [Text.pieces_runs lineFeed finished rest bare]
  simpa [Text.pieces] using alone.symm

section one

variable (l : Line) (text : Octets) (number : Nat) (placed : l.At text number)
include placed

theorem line_first_piece :
    ∃ more, Text.pieces lineFeed (l.content ++ (l.ending ++ l.after)) =
      (l.content ++ l.ending) :: more := by
  have unfed (returns : Nat) : lineFeed ∉ l.content ++ List.replicate returns carriageReturn := by
    rw [List.mem_append, not_or]
    refine ⟨placed.bare, fun member => ?_⟩
    have same := List.eq_of_mem_replicate member
    contradiction
  obtain ⟨returns, ended | ⟨ended, final⟩⟩ := placed.ended
  · refine ⟨Text.pieces lineFeed l.after, ?_⟩
    have cut := Text.pieces_run lineFeed _ l.after (unfed returns)
    rw [ended]
    simpa using cut
  · refine ⟨[], ?_⟩
    have something := placed.something
    rw [ended] at something
    rw [final, List.append_nil, ended]
    exact Text.pieces_last lineFeed _ (unfed returns) something

theorem line_at_found : lineAt? text number = some (l.start, l.content ++ l.ending) := by
  obtain ⟨finished, bare, shape⟩ := before_line l.before placed.begun
  obtain ⟨more, first⟩ := line_first_piece l text number placed
  have cut := Text.pieces_runs lineFeed finished (l.content ++ (l.ending ++ l.after)) bare
  rw [first, ← shape, ← placed.whole] at cut
  have counted := placed.counted
  have feeds := Text.count_runs lineFeed finished [] bare (by simp)
  rw [List.append_nil, ← shape] at feeds
  have size : (finished.map (· ++ [lineFeed])).length = finished.length := List.length_map _
  rw [counted, feeds, Nat.add_comm, lineAt?]
  simp only [cut]
  rw [List.getElem?_append_right (by omega), List.take_left' size, size, Nat.sub_self, ← shape]
  rfl

theorem line_ends (o : UInt8) (member : o ∈ l.ending) : isLineEnd o = true := by
  obtain ⟨returns, ended | ⟨ended, -⟩⟩ := placed.ended
  · rw [ended, List.mem_append, List.mem_singleton] at member
    rcases member with early | rfl
    · rw [List.eq_of_mem_replicate early]
      rfl
    · rfl
  · rw [ended] at member
    rw [List.eq_of_mem_replicate member]
    rfl

theorem line_content_found : lineContent (l.content ++ l.ending) = l.content := by
  have ends : ∀ o ∈ l.ending.reverse, isLineEnd o = true :=
    fun o member => line_ends l text number placed o (List.mem_reverse.mp member)
  rw [lineContent, List.reverse_append, List.dropWhile_append_of_pos ends]
  rcases List.eq_nil_or_concat l.content with empty | ⟨front, o, shape⟩
  · rw [empty]
    rfl
  · have unfed : o ≠ lineFeed := fun same => placed.bare (by simp [shape, same])
    have unreturned : o ≠ carriageReturn := fun same => placed.trimmed (by simp [shape, same])
    have solid : isLineEnd o = false := by
      simpa [isLineEnd] using ⟨unfed, unreturned⟩
    simp [shape, solid]

end one

theorem returns_split (run : Octets) :
    ∃ content returns, run = content ++ List.replicate returns carriageReturn ∧
      content.getLast? ≠ some carriageReturn := by
  refine ⟨(run.reverse.dropWhile (· == carriageReturn)).reverse,
    (run.reverse.takeWhile (· == carriageReturn)).length, ?_, ?_⟩
  · have returns : ∀ o ∈ run.reverse.takeWhile (· == carriageReturn), o = carriageReturn := by
      intro o member
      simpa using List.all_eq_true.mp List.all_takeWhile o member
    have same := List.eq_replicate_iff.mpr ⟨rfl, returns⟩
    rw [← List.reverse_replicate, ← same, ← List.reverse_append, List.takeWhile_append_dropWhile,
      List.reverse_reverse]
  · rw [List.getLast?_reverse]
    intro first
    have stop := List.head?_dropWhile_not (· == carriageReturn) run.reverse
    rw [first] at stop
    simp at stop

theorem line_of_run (finished : List Octets) (run closing after : Octets)
    (bare : ∀ piece ∈ finished, lineFeed ∉ piece) (unfed : lineFeed ∉ run)
    (closed : closing = [lineFeed] ∨ closing = [] ∧ after = [] ∧ run ≠ []) :
    ∃ l : Line, l.At ((finished.map (· ++ [lineFeed])).flatten ++ (run ++ (closing ++ after)))
      (1 + finished.length) := by
  obtain ⟨content, returns, rfl, trimmed⟩ := returns_split run
  refine ⟨⟨(finished.map (· ++ [lineFeed])).flatten, content,
    List.replicate returns carriageReturn ++ closing, after⟩, by simp, ?_, ?_,
    fun member => unfed (by simp [member]), trimmed, ⟨returns, ?_⟩, ?_⟩
  · have feeds := Text.count_runs lineFeed finished [] bare (by simp)
    rw [List.append_nil] at feeds
    rw [feeds]
  · rcases List.eq_nil_or_concat finished with rfl | ⟨earlier, piece, rfl⟩
    · exact .inl rfl
    · exact .inr (by simp [← List.append_assoc])
  · rcases closed with rfl | ⟨rfl, final, -⟩
    · exact .inl rfl
    · exact .inr ⟨List.append_nil _, final⟩
  · rcases closed with rfl | ⟨rfl, -, something⟩
    · simp
    · simpa using something

theorem line_exists (text : Octets) (number : Nat) (low : 1 ≤ number)
    (high : number ≤ lineCount text) : ∃ l : Line, l.At text number := by
  obtain ⟨finished, run, bare, last, rfl⟩ := Text.text_runs lineFeed text
  rw [line_count_runs finished run bare last] at high
  obtain ⟨n, rfl⟩ := Nat.exists_eq_add_of_le low
  by_cases inside : n < finished.length
  · -- The line is one of those that a line feed ends.
    have split : finished = finished.take n ++ finished[n] :: finished.drop (n + 1) := by
      rw [← List.drop_eq_getElem_cons inside, List.take_append_drop]
    have parts : (finished.map (· ++ [lineFeed])).flatten ++ run =
        ((finished.take n).map (· ++ [lineFeed])).flatten ++ (finished[n] ++ ([lineFeed] ++
          (((finished.drop (n + 1)).map (· ++ [lineFeed])).flatten ++ run))) := by
      have flat := congrArg (fun all => (all.map (· ++ [lineFeed])).flatten ++ run) split
      simpa only [List.map_append, List.map_cons, List.flatten_append, List.flatten_cons,
        List.append_assoc] using flat
    have within : ∀ piece ∈ finished.take n, lineFeed ∉ piece :=
      fun piece member => bare piece (List.mem_of_mem_take member)
    have found := line_of_run (finished.take n) finished[n] [lineFeed]
      (((finished.drop (n + 1)).map (· ++ [lineFeed])).flatten ++ run) within
      (bare _ (List.getElem_mem inside)) (.inl rfl)
    rwa [← parts, List.length_take_of_le (Nat.le_of_lt inside)] at found
  · -- The line is the run behind the last line feed.
    have something : run ≠ [] := by
      intro nothing
      simp only [nothing, ne_eq, not_true_eq_false, if_false] at high
      omega
    have same : n = finished.length := by
      rw [if_pos something] at high
      omega
    have found := line_of_run finished run [] [] bare last (.inr ⟨rfl, rfl, something⟩)
    rw [List.append_nil, List.append_nil] at found
    rwa [same]

theorem line_at_iff (text : Octets) (number start : Nat) (piece : Octets) :
    lineAt? text number = some (start, piece) ↔
      ∃ l : Line, l.At text number ∧ start = l.start ∧ piece = l.content ++ l.ending := by
  constructor
  · intro found
    obtain ⟨low, high⟩ := (line_at_some_iff text number).mp (by rw [found]; rfl)
    obtain ⟨l, placed⟩ := line_exists text number low high
    have again := line_at_found l text number placed
    rw [found, Option.some.injEq, Prod.mk.injEq] at again
    exact ⟨l, placed, again⟩
  · rintro ⟨l, placed, rfl, rfl⟩
    exact line_at_found l text number placed

end Fragment
