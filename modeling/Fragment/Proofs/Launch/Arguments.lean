import Fragment.Invoke
import Fragment.Proofs.Text.Octets
/-!
The arguments of a call. A text goes to C unchanged just if its octets hold no zero, which is to say
just if its characters do not; the first that holds one is told, and only then the count.
-/
namespace Fragment

theorem nul_at_some_iff (text : String) :
    (Octets.ofString text).nulAt?.isSome = true ↔ '\x00' ∈ text.toList := by
  rw [← Octets.nul_mem_octets, Octets.nulAt?, List.findIdx?_isSome, List.any_beq']
  exact List.contains_iff_mem

theorem no_nul_iff (arguments : List String) :
    firstWithNul? arguments = none ↔ ∀ argument ∈ arguments, '\x00' ∉ argument.toList := by
  simp only [firstWithNul?, List.findIdx?_eq_none_iff, Bool.eq_false_iff, Ne, nul_at_some_iff]

-- The arguments that a call takes: no zero in any, and a number of them that a C `int` holds.
def Passable (arguments : List String) : Prop :=
  (∀ argument ∈ arguments, '\x00' ∉ argument.toList) ∧ arguments.length ≤ 2147483647

theorem argument_fault_none_iff (arguments : List String) :
    argumentFault? arguments = none ↔ Passable arguments := by
  rw [Passable, ← no_nul_iff]
  unfold argumentFault?
  cases firstWithNul? arguments with
  | some index => simp
  | none =>
    rw [show arguments.length ≤ 2147483647 ↔ ¬ argumentLimit < arguments.length from
      Nat.not_lt.symm]
    by_cases many : argumentLimit < arguments.length
    · simp [many]
    · simp [many]

theorem argument_fault_shape (arguments : List String) (fault : InvokeFault)
    (bad : argumentFault? arguments = some fault) :
    (∃ index, fault = .invalidArgument index) ∨ fault = .tooManyArguments arguments.length := by
  unfold argumentFault? at bad
  split at bad
  · rename_i index _
    exact .inl ⟨index, (Option.some.inj bad).symm⟩
  · split at bad
    · exact .inr (Option.some.inj bad).symm
    · contradiction

end Fragment
