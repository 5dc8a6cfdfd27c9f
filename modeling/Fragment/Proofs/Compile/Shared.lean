import Mathlib.Data.List.DropRight
import Fragment.Scratch
/-!
What is left in a memory file that is both the output file of a run and its standard output. The two
are written from offsets of their own: making the output empties the file but takes nothing back of
how far the printing has got, and what is printed from then on lies over the output or after it.
-/
namespace Fragment

def Emission.written : Emission → Octets
  | .write octets => octets
  | _ => []

def Emission.printed : Emission → Octets
  | .print octets => octets
  | _ => []

namespace Scratch

def written (emissions : List Emission) : Octets := emissions.flatMap Emission.written

def printed (emissions : List Emission) : Octets := emissions.flatMap Emission.printed

theorem overwrite_end (content octets : Octets) :
    overwrite content content.length octets = content ++ octets := by
  cases octets with
  | nil => simp [overwrite]
  | cons o rest => simp [overwrite]

theorem overwrite_nothing (content : Octets) (offset : Nat) : overwrite content offset [] = content := rfl

theorem overwrite_length (content octets : Octets) (offset : Nat) (something : octets ≠ []) :
    (overwrite content offset octets).length = max content.length (offset + octets.length) := by
  rw [overwrite, if_neg (by simpa using something)]
  simp only [List.length_append, List.length_take, List.length_replicate, List.length_drop]
  omega

theorem overwrite_cell (content octets : Octets) (offset i : Nat) (something : octets ≠ []) :
    (overwrite content offset octets)[i]? =
      if i < offset then (if i < content.length then content[i]? else some 0)
      else if i < offset + octets.length then octets[i - offset]?
      else content[i]? := by
  have front : (content.take offset ++ List.replicate (offset - content.length) 0).length = offset := by
    rw [List.length_append, List.length_take, List.length_replicate]
    omega
  rw [overwrite, if_neg (by simpa using something)]
  by_cases before : i < offset
  · rw [if_pos before, List.append_assoc, List.getElem?_append_left (by omega)]
    by_cases inside : i < content.length
    · rw [if_pos inside, List.getElem?_append_left (by rw [List.length_take]; omega),
        List.getElem?_take_of_lt before]
    · rw [if_neg inside, List.getElem?_append_right (by rw [List.length_take]; omega),
        List.getElem?_replicate, if_pos (by rw [List.length_take]; omega)]
  · rw [if_neg before, List.append_assoc, List.getElem?_append_right (by omega), front]
    by_cases inside : i < offset + octets.length
    · rw [if_pos inside, List.getElem?_append_left (by omega)]
    · rw [if_neg inside, List.getElem?_append_right (by omega), List.getElem?_drop]
      congr 1
      omega

theorem unmade_run (emissions : List Emission) (never : .create ∉ emissions) (shared : Shared)
    (unmade : shared.outputAt = none) (atEnd : shared.printedAt = shared.content.length) :
    (emissions.foldl Shared.take shared).content = shared.content ++ printed emissions := by
  induction emissions generalizing shared with
  | nil => exact (List.append_nil _).symm
  | cons emission rest ih =>
    have never' : .create ∉ rest := fun member => never (List.mem_cons_of_mem emission member)
    cases emission with
    | create => exact absurd List.mem_cons_self never
    | write octets =>
      refine (ih never' (shared.take (.write octets)) ?_ ?_).trans ?_
      all_goals simp [Shared.take, unmade, atEnd, printed, Emission.printed]
    | print octets =>
      have grown : (shared.take (.print octets)).content = shared.content ++ octets := by
        simp only [Shared.take, atEnd]
        exact overwrite_end _ _
      refine (ih never' (shared.take (.print octets)) unmade ?_).trans ?_
      · rw [grown, List.length_append]
        exact congrArg (· + octets.length) atEnd
      · rw [grown, List.append_assoc]
        rfl

theorem printed_at_run (emissions : List Emission) (shared : Shared) :
    (emissions.foldl Shared.take shared).printedAt = shared.printedAt + (printed emissions).length := by
  induction emissions generalizing shared with
  | nil => rfl
  | cons emission rest ih =>
    rw [List.foldl_cons, ih]
    cases emission with
    | create => simp [Shared.take, printed, Emission.printed]
    | write octets =>
      cases made : shared.outputAt <;> simp [Shared.take, made, printed, Emission.printed]
    | print octets => simp [Shared.take, printed, Emission.printed, Nat.add_assoc]

-- A content of which `output` was written from its beginning on, and `late` was printed from `start` on.
-- What is printed lies where the printing had got to, be that within the output, across its end or
-- after a gap.
structure Overprinted (content : Octets) (start : Nat) (output late : Octets) : Prop where
  quiet : late = [] → content = output
  length : late ≠ [] → content.length = max output.length (start + late.length)
  outside : ∀ i < output.length, i < start ∨ start + late.length ≤ i → content[i]? = output[i]?
  past : ∀ i, output.length ≤ i → start ≤ i → content[i]? = late[i - start]?
  gap : late ≠ [] → ∀ i < start, output.length ≤ i → content[i]? = some 0
  overlap : ∀ i < start + late.length, start ≤ i →
    content[i]? = output[i]? ∨ content[i]? = late[i - start]?

theorem overprinted_only (late : Octets) : Overprinted late 0 [] late where
  quiet silent := silent
  length _ := by simp
  outside _ inside := absurd inside (Nat.not_lt_zero _)
  past _ _ _ := rfl
  gap _ i below := absurd below (Nat.not_lt_zero i)
  overlap _ _ _ := .inr rfl

theorem overprinted_within (content output late : Octets) (start : Nat)
    (overprinted : Overprinted content start output late) (same : content = output) :
    late = [] ∨ start + late.length ≤ output.length := by
  by_cases quiet : late = []
  · exact .inl quiet
  · have length := overprinted.length quiet
    rw [same] at length
    exact .inr (by omega)

theorem overprinted_long (content output late : Octets) (start : Nat)
    (overprinted : Overprinted content start output late) : output.length ≤ content.length := by
  by_cases quiet : late = []
  · exact Nat.le_of_eq (congrArg List.length (overprinted.quiet quiet).symm)
  · rw [overprinted.length quiet]
    exact Nat.le_max_left _ _

theorem overprinted_reach (content output late : Octets) (start i : Nat)
    (overprinted : Overprinted content start output late) (above : start ≤ i)
    (below : i < start + late.length) : i < content.length := by
  have loud : late ≠ [] := by
    rintro rfl
    exact absurd above (Nat.not_le.mpr below)
  rw [overprinted.length loud]
  omega

theorem overprinted_write (content output late octets : Octets) (start : Nat)
    (overprinted : Overprinted content start output late) :
    Overprinted (overwrite content output.length octets) start (output ++ octets) late := by
  by_cases nothing : octets = []
  · rw [nothing, overwrite_nothing, List.append_nil]
    exact overprinted
  have long := overprinted_long content output late start overprinted
  have cell := fun i => overwrite_cell content octets output.length i nothing
  constructor
  case quiet =>
    intro quiet
    rw [overprinted.quiet quiet]
    exact overwrite_end output octets
  case length =>
    intro loud
    rw [overwrite_length _ _ _ nothing, overprinted.length loud, List.length_append]
    omega
  all_goals simp only [cell, List.length_append]
  case outside =>
    intro i inside away
    by_cases old : i < output.length
    · rw [if_pos old, if_pos (by omega), List.getElem?_append_left old]
      exact overprinted.outside i old away
    · rw [if_neg old, if_pos inside, List.getElem?_append_right (by omega)]
  case past =>
    intro i behind above
    rw [if_neg (by omega), if_neg (by omega)]
    exact overprinted.past i (by omega) above
  case gap =>
    intro loud i below behind
    rw [if_neg (by omega), if_neg (by omega)]
    exact overprinted.gap loud i below (by omega)
  case overlap =>
    intro i below above
    by_cases old : i < output.length
    · rw [if_pos old, if_pos (by omega), List.getElem?_append_left old]
      exact overprinted.overlap i below above
    rw [if_neg old]
    by_cases fresh : i < output.length + octets.length
    · rw [if_pos fresh, List.getElem?_append_right (by omega)]
      exact .inl rfl
    · rw [if_neg fresh]
      exact .inr (overprinted.past i (by omega) above)

theorem overprinted_print (content output late octets : Octets) (start : Nat)
    (overprinted : Overprinted content start output late) :
    Overprinted (overwrite content (start + late.length) octets) start output (late ++ octets) := by
  by_cases nothing : octets = []
  · rw [nothing, overwrite_nothing, List.append_nil]
    exact overprinted
  have long := overprinted_long content output late start overprinted
  have cell := fun i => overwrite_cell content octets (start + late.length) i nothing
  constructor
  case quiet =>
    intro quiet
    exact absurd (List.append_eq_nil_iff.mp quiet).2 nothing
  case length =>
    intro _
    rw [overwrite_length _ _ _ nothing, List.length_append]
    by_cases quiet : late = []
    · rw [overprinted.quiet quiet, quiet, List.length_nil]
      omega
    · rw [overprinted.length quiet]
      omega
  all_goals simp only [cell, List.length_append]
  case outside =>
    intro i inside away
    rcases away with before | after
    · rw [if_pos (by omega), if_pos (by omega)]
      exact overprinted.outside i inside (.inl before)
    · rw [if_neg (by omega), if_neg (by omega)]
      exact overprinted.outside i inside (.inr (by omega))
  case past =>
    intro i behind above
    by_cases old : i < start + late.length
    · have reached := overprinted_reach content output late start i overprinted above old
      rw [if_pos old, if_pos reached, List.getElem?_append_left (by omega)]
      exact overprinted.past i behind above
    rw [if_neg old, List.getElem?_append_right (by omega), Nat.sub_sub]
    by_cases fresh : i < start + late.length + octets.length
    · rw [if_pos fresh]
    · rw [if_neg fresh, overprinted.past i behind above, List.getElem?_eq_none (by omega),
        List.getElem?_eq_none (by omega)]
  case gap =>
    intro _ i below behind
    rw [if_pos (by omega)]
    by_cases quiet : late = []
    · rw [overprinted.quiet quiet, if_neg (Nat.not_lt.mpr behind)]
    · rw [overprinted.gap quiet i below behind, ite_self]
  case overlap =>
    intro i below above
    by_cases old : i < start + late.length
    · have reached := overprinted_reach content output late start i overprinted above old
      rw [if_pos old, if_pos reached, List.getElem?_append_left (by omega)]
      exact overprinted.overlap i old above
    · rw [if_neg old, if_pos (by omega), List.getElem?_append_right (by omega), Nat.sub_sub]
      exact .inr rfl

-- A memory file after its output was made, when `start` octets had been printed.
structure Overlaid (shared : Shared) (start : Nat) (output late : Octets) : Prop where
  content : Overprinted shared.content start output late
  outputAt : shared.outputAt = some output.length
  printedAt : shared.printedAt = start + late.length

theorem overlaid_made (shared : Shared) :
    Overlaid (shared.take .create) shared.printedAt [] [] where
  content :=
    { quiet := fun _ => rfl
      length := fun loud => absurd rfl loud
      outside := fun _ inside => absurd inside (Nat.not_lt_zero _)
      past := fun _ _ _ => rfl
      gap := fun loud => absurd rfl loud
      overlap := fun _ below above => absurd above (Nat.not_le.mpr below) }
  outputAt := rfl
  printedAt := rfl

theorem overlaid_write (shared : Shared) (start : Nat) (output late octets : Octets)
    (overlaid : Overlaid shared start output late) :
    Overlaid (shared.take (.write octets)) start (output ++ octets) late := by
  simp only [Shared.take, overlaid.outputAt]
  exact ⟨overprinted_write _ _ _ _ _ overlaid.content, by rw [List.length_append],
    overlaid.printedAt⟩

theorem overlaid_print (shared : Shared) (start : Nat) (output late octets : Octets)
    (overlaid : Overlaid shared start output late) :
    Overlaid (shared.take (.print octets)) start output (late ++ octets) := by
  simp only [Shared.take, overlaid.printedAt]
  exact ⟨overprinted_print _ _ _ _ _ overlaid.content, overlaid.outputAt,
    by rw [List.length_append, Nat.add_assoc]⟩

theorem overlaid_run (emissions : List Emission) (once : .create ∉ emissions) (shared : Shared)
    (start : Nat) (output late : Octets) (overlaid : Overlaid shared start output late) :
    Overlaid (emissions.foldl Shared.take shared) start (output ++ written emissions)
      (late ++ printed emissions) := by
  induction emissions generalizing shared output late with
  | nil => simpa [written, printed] using overlaid
  | cons emission rest ih =>
    have once' : .create ∉ rest := fun member => once (List.mem_cons_of_mem emission member)
    cases emission with
    | create => exact absurd List.mem_cons_self once
    | write octets =>
      have later := ih once' _ _ _ (overlaid_write shared start output late octets overlaid)
      rwa [List.append_assoc] at later
    | print octets =>
      have later := ih once' _ _ _ (overlaid_print shared start output late octets overlaid)
      rwa [List.append_assoc] at later

theorem last_create (emissions : List Emission) (made : .create ∈ emissions) :
    ∃ early late, emissions = early ++ .create :: late ∧ .create ∉ late := by
  obtain ⟨late, early, shape, once⟩ := List.eq_append_cons_of_mem (List.mem_reverse.mpr made)
  refine ⟨early.reverse, late.reverse, ?_, by simpa using once⟩
  have back := congrArg List.reverse shape
  simpa using back

-- What a run does after it made its output last; all that it does if it never makes it.
def sinceMade (emissions : List Emission) : List Emission :=
  emissions.rtakeWhile (· != .create)

theorem no_create_iff (emissions : List Emission) :
    .create ∉ emissions ↔ ∀ emission ∈ emissions, (emission != .create) = true := by
  simp only [bne_iff_ne, ne_eq]
  exact ⟨fun never emission member same => never (same ▸ member),
    fun all member => all .create member rfl⟩

theorem since_made (early late : List Emission) (once : .create ∉ late) :
    sinceMade (early ++ .create :: late) = late := by
  have kept := (no_create_iff late.reverse).mp (by simpa using once)
  simp [sinceMade, List.rtakeWhile, List.takeWhile_append_of_pos kept]

theorem since_unmade (emissions : List Emission) (never : .create ∉ emissions) :
    sinceMade emissions = emissions :=
  List.rtakeWhile_eq_self_iff.mpr ((no_create_iff emissions).mp never)

def emitted (content : Option Octets) : Emission → Option Octets
  | .create => some []
  | .write octets => content.map (· ++ octets)
  | .print _ => content

theorem output_content_fold (emissions : List Emission) :
    outputContent emissions = emissions.foldl emitted none := by
  refine congrArg (List.foldl · none emissions) ?_
  funext content emission
  cases emission <;> rfl

theorem emitted_run (emissions : List Emission) (once : .create ∉ emissions)
    (content : Option Octets) :
    emissions.foldl emitted content = content.map (· ++ written emissions) := by
  induction emissions generalizing content with
  | nil => cases content <;> simp [written]
  | cons emission rest ih =>
    have once' : .create ∉ rest := fun member => once (List.mem_cons_of_mem emission member)
    rw [List.foldl_cons, ih once']
    cases emission with
    | create => exact absurd List.mem_cons_self once
    | write octets => cases content <;> simp [emitted, written, Emission.written]
    | print octets => cases content <;> simp [emitted, written, Emission.written]

theorem output_unmade (emissions : List Emission) (never : .create ∉ emissions) :
    outputContent emissions = none := by
  rw [output_content_fold, emitted_run emissions never]
  rfl

theorem output_made (early late : List Emission) (once : .create ∉ late) :
    outputContent (early ++ .create :: late) = some (written late) := by
  rw [output_content_fold, List.foldl_append, List.foldl_cons, emitted_run late once]
  rfl

theorem unmade_never (emissions : List Emission) (unmade : outputContent emissions = none) :
    .create ∉ emissions := by
  intro made
  obtain ⟨early, late, rfl, once⟩ := last_create emissions made
  rw [output_made early late once] at unmade
  contradiction

theorem unmade_shared (emissions : List Emission) (never : .create ∉ emissions) :
    sharedContent emissions = printed emissions :=
  unmade_run emissions never ⟨[], none, 0⟩ rfl rfl

theorem made_shared (early late : List Emission) (once : .create ∉ late) :
    Overprinted (sharedContent (early ++ .create :: late)) (printed early).length (written late)
      (printed late) := by
  have begun := printed_at_run early ⟨[], none, 0⟩
  rw [Nat.zero_add] at begun
  rw [sharedContent, List.foldl_append, List.foldl_cons, ← begun]
  exact (overlaid_run late once _ _ [] [] (overlaid_made _)).content

theorem shared_overprinted (emissions : List Emission) :
    let late := printed (sinceMade emissions)
    Overprinted (sharedContent emissions) ((printed emissions).length - late.length)
      ((outputContent emissions).getD []) late := by
  dsimp only
  by_cases made : .create ∈ emissions
  · obtain ⟨early, late, rfl, once⟩ := last_create emissions made
    have all : printed (early ++ .create :: late) = printed early ++ printed late := by
      simp [printed, Emission.printed]
    rw [since_made early late once, output_made early late once, all, List.length_append,
      Nat.add_sub_cancel]
    exact made_shared early late once
  · rw [since_unmade emissions made, output_unmade emissions made, unmade_shared emissions made,
      Nat.sub_self]
    exact overprinted_only _

-- What is printed after a library was written takes the place of its first octets.
example : sharedContent [.create, .write [127, 69, 76, 70], .print [104, 105]] = [104, 105, 76, 70] :=
  rfl

theorem shared_output (emissions : List Emission)
    (silent : ∀ octets, .print octets ∈ emissions → octets = []) :
    sharedContent emissions = (outputContent emissions).getD [] := by
  refine (shared_overprinted emissions).quiet (List.flatMap_eq_nil_iff.mpr ?_)
  intro emission member
  have within : emission ∈ emissions := (List.rtakeWhile_suffix _ emissions).subset member
  cases emission with
  | print octets => exact silent octets within
  | create | write octets => rfl

end Scratch
end Fragment
