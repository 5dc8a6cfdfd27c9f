import Fragment.Proofs.Store
/-!
A store and the log of its writes. After any steps, what a store serves is read off the log: the last
write of a name before the first seal, and nothing from any other. The names are distinct, and from
the first seal on nothing changes.
-/
namespace Fragment

namespace Log

open Store (Step)

theorem of_steps_write (name : String) (chunks : List Octets) (close : Bool) (rest : List Step) :
    ofSteps (.write name chunks close :: rest) = ofSteps rest ++ [(name, chunks, close)] := by
  simp [ofSteps]

theorem of_steps_seal (rest : List Step) : ofSteps (.sealUp :: rest) = [] := rfl

theorem of_steps_single (name : String) (chunks : List Octets) (close : Bool) :
    ofSteps [.write name chunks close] = [(name, chunks, close)] := rfl

theorem has_seal_write (name : String) (chunks : List Octets) (close : Bool) (rest : List Step) :
    hasSeal (.write name chunks close :: rest) = hasSeal rest := rfl

theorem has_seal_append (steps more : List Step) :
    hasSeal (steps ++ more) = (hasSeal steps || hasSeal more) :=
  List.any_append

theorem of_steps_append (steps more : List Step) :
    ofSteps (steps ++ more) =
      if hasSeal steps then ofSteps steps else ofSteps more ++ ofSteps steps := by
  induction steps with
  | nil => simp [ofSteps, hasSeal]
  | cons step rest ih =>
    cases step with
    | sealUp => simp [of_steps_seal, hasSeal]
    | write name chunks close =>
      rw [List.cons_append, of_steps_write, of_steps_write, has_seal_write, ih]
      by_cases shut : hasSeal rest = true <;> simp [shut]

theorem artifact_held_iff (log : Log) (name : String) :
    log.artifact? name ≠ none ↔ ∃ entry ∈ log, entry.1 = name := by
  rw [Option.ne_none_iff_isSome, artifact?, Option.isSome_map, List.find?_isSome]
  simp only [beq_iff_eq]

theorem artifact_some_iff (log : Log) (name : String) (a : Artifact) :
    log.artifact? name = some a ↔ ∃ later chunks close earlier,
      log = later ++ (name, chunks, close) :: earlier ∧ (∀ entry ∈ later, entry.1 ≠ name) ∧
        a = ⟨name, chunks.flatten, close⟩ := by
  simp only [artifact?, Option.map_eq_some_iff, List.find?_eq_some_iff_append]
  constructor
  · rintro ⟨⟨found, chunks, close⟩, ⟨same, later, earlier, rfl, others⟩, rfl⟩
    obtain rfl : found = name := by simpa using same
    exact ⟨later, chunks, close, earlier, rfl, by simpa using others, rfl⟩
  · rintro ⟨later, chunks, close, earlier, rfl, others, rfl⟩
    exact ⟨(name, chunks, close), ⟨by simp, later, earlier, rfl, by simpa using others⟩, rfl⟩

end Log

namespace Store

theorem names_replace (a : Artifact) (artifacts : List Artifact) :
    (replace a artifacts).map (·.name) =
      if a.name ∈ artifacts.map (·.name) then artifacts.map (·.name)
      else artifacts.map (·.name) ++ [a.name] := by
  induction artifacts with
  | nil => simp [replace]
  | cons b rest ih =>
    by_cases same : b.name = a.name
    · simp [replace, same]
    · have other : a.name ≠ b.name := Ne.symm same
      by_cases later : a.name ∈ rest.map (·.name)
      · rw [if_pos later] at ih
        simp [replace, same, ih, later]
      · rw [if_neg later] at ih
        simp [replace, same, ih, later, other]

theorem names_update (store : Store) (name : String) (change : Artifact → Artifact)
    (keeps : ∀ a, (change a).name = a.name) :
    (store.update name change).artifacts.map (·.name) = store.artifacts.map (·.name) := by
  rw [update, List.map_map]
  refine List.map_congr_left fun a _ => ?_
  by_cases hit : a.name = name <;> simp [hit, keeps]

theorem names_finish (store : Store) (name : String) :
    (store.finish name).artifacts.map (·.name) = store.artifacts.map (·.name) :=
  names_update store name _ fun _ => rfl

theorem names_appends (store : Store) (name : String) (chunks : List Octets) :
    (chunks.foldl (fun s chunk => s.append name chunk) store).artifacts.map (·.name) =
      store.artifacts.map (·.name) := by
  induction chunks generalizing store with
  | nil => rfl
  | cons chunk rest ih => exact (ih _).trans (names_update store name _ fun _ => rfl)

theorem names_write (store written : Store) (name : String) (chunks : List Octets) (close : Bool)
    (done : store.write name chunks close = .ok written) :
    written.artifacts.map (·.name) =
      if name ∈ store.artifacts.map (·.name) then store.artifacts.map (·.name)
      else store.artifacts.map (·.name) ++ [name] := by
  cases opened : store.start name with
  | error fault => simp [write, opened, bind, Except.bind] at done
  | ok started =>
    simp only [write, opened, bind, Except.bind, pure, Except.pure, Except.ok.injEq] at done
    have names : written.artifacts.map (·.name) = started.artifacts.map (·.name) := by
      subst written
      cases close with
      | true => exact (names_finish _ name).trans (names_appends started name chunks)
      | false => exact names_appends started name chunks
    unfold start at opened
    split at opened
    · cases opened
    · cases opened
      exact names.trans (names_replace ⟨name, [], false⟩ store.artifacts)

theorem distinct_write (store written : Store) (name : String) (chunks : List Octets) (close : Bool)
    (done : store.write name chunks close = .ok written)
    (distinct : (store.artifacts.map (·.name)).Nodup) :
    (written.artifacts.map (·.name)).Nodup := by
  rw [names_write store written name chunks close done]
  by_cases held : name ∈ store.artifacts.map (·.name)
  · rwa [if_pos held]
  · rw [if_neg held]
    refine List.nodup_append.mpr ⟨distinct, by simp, ?_⟩
    intro other member added last same
    exact held (List.mem_singleton.mp last ▸ same ▸ member)

-- What is known of a store that the steps have made of an empty one.
structure Recorded (steps : List Step) (store : Store) : Prop where
  served : ∀ name, store.artifact? name = (Log.ofSteps steps).artifact? name
  distinct : (store.artifacts.map (·.name)).Nodup
  sealing : store.isSealed = Log.hasSeal steps

theorem recorded_empty : Recorded [] empty := ⟨fun _ => rfl, List.nodup_nil, rfl⟩

theorem recorded_seal (steps : List Step) (store : Store) (recorded : Recorded steps store) :
    Recorded (steps ++ [.sealUp]) store.sealUp := by
  refine ⟨fun name => ?_, recorded.distinct, by simp [sealUp, Log.hasSeal]⟩
  have same : Log.ofSteps (steps ++ [.sealUp]) = Log.ofSteps steps := by
    simp [Log.of_steps_append, Log.of_steps_seal]
  rw [same]
  exact recorded.served name

theorem recorded_late (steps : List Step) (store : Store) (recorded : Recorded steps store)
    (name : String) (chunks : List Octets) (close : Bool) (shut : store.isSealed = true) :
    Recorded (steps ++ [.write name chunks close]) store := by
  have late : Log.hasSeal steps = true := recorded.sealing.symm.trans shut
  refine ⟨fun other => ?_, recorded.distinct, by rw [Log.has_seal_append, late, shut, Bool.true_or]⟩
  rw [Log.of_steps_append, if_pos late]
  exact recorded.served other

theorem recorded_write (steps : List Step) (store written : Store)
    (recorded : Recorded steps store) (name : String) (chunks : List Octets) (close : Bool)
    (done : store.write name chunks close = .ok written) :
    Recorded (steps ++ [.write name chunks close]) written := by
  obtain ⟨own, others, unsealed⟩ := artifact_write store written name chunks close done
  have early : Log.hasSeal steps = false := by
    rw [← recorded.sealing]
    cases shut : store.isSealed with
    | false => rfl
    | true =>
      rw [write_sealed store name chunks close shut] at done
      cases done
  have entries : Log.ofSteps (steps ++ [.write name chunks close]) =
      (name, chunks, close) :: Log.ofSteps steps := by
    rw [Log.of_steps_append, early, Log.of_steps_single]
    rfl
  refine ⟨fun other => ?_, distinct_write store written name chunks close done recorded.distinct, ?_⟩
  · rw [entries]
    by_cases same : other = name
    · rw [same, own]
      simp [Log.artifact?]
    · rw [others other same, recorded.served other]
      simp [Log.artifact?, Ne.symm same]
  · rw [unsealed, Log.has_seal_append, early]
    rfl

theorem recorded_apply (steps : List Step) (store : Store) (recorded : Recorded steps store)
    (step : Step) : Recorded (steps ++ [step]) (store.apply step) := by
  cases step with
  | sealUp => exact recorded_seal steps store recorded
  | write name chunks close =>
    cases answer : store.write name chunks close with
    | ok written =>
      simpa only [apply, answer] using
        recorded_write steps store written recorded name chunks close answer
    | error fault =>
      have shut := (write_refused store name chunks close fault answer).1
      simpa only [apply, answer] using
        recorded_late steps store recorded name chunks close shut

theorem recorded_run (past steps : List Step) (store : Store) (recorded : Recorded past store) :
    Recorded (past ++ steps) (store.run steps) := by
  induction steps generalizing past store with
  | nil => simpa [run] using recorded
  | cons step rest ih =>
    have next := ih (past ++ [step]) (store.apply step) (recorded_apply past store recorded step)
    rwa [List.append_assoc, List.singleton_append] at next

theorem mem_names_iff (store : Store) (name : String) :
    name ∈ store.names ↔ store.artifact? name ≠ none := by
  simp [names, artifact?, List.mem_mergeSort]

theorem octets_iff (store : Store) (name : String) (octets : Octets) :
    store.octets? name = some octets ↔
      ∃ a, store.artifact? name = some a ∧ a.complete = true ∧ a.octets = octets := by
  simp [octets?, Option.bind_eq_some_iff]

theorem apply_sealed (store : Store) (step : Step) (shut : store.isSealed = true) :
    store.apply step = store := by
  cases step with
  | sealUp => rw [apply, sealUp, ← shut]
  | write name chunks close => rw [apply, write_sealed store name chunks close shut]

theorem run_sealed (store : Store) (steps : List Step) (shut : store.isSealed = true) :
    store.run steps = store := by
  induction steps with
  | nil => rfl
  | cons step rest ih => rwa [run, List.foldl_cons, apply_sealed store step shut]

theorem names_nodup (store : Store) (distinct : (store.artifacts.map (·.name)).Nodup) :
    store.names.Nodup :=
  (List.mergeSort_perm _ _).nodup_iff.mpr distinct

theorem names_length (store : Store) : store.names.length = store.size := by
  simp [names, size]

theorem is_empty_iff (store : Store) : store.isEmpty = true ↔ store.names = [] := by
  rw [← List.length_eq_zero_iff, names_length, size, List.length_eq_zero_iff, isEmpty,
    List.isEmpty_iff]

-- What is asked of a store in between is a function of it, so the steps are all there is to say.
theorem run_refines_log (steps : List Step) :
    let store := empty.run steps
    let log := Log.ofSteps steps
    (∀ name a, store.artifact? name = some a ↔ ∃ later chunks close earlier,
      log = later ++ (name, chunks, close) :: earlier ∧ (∀ entry ∈ later, entry.1 ≠ name) ∧
        a = ⟨name, chunks.flatten, close⟩) ∧
    (∀ name, store.artifact? name ≠ none ↔ ∃ entry ∈ log, entry.1 = name) ∧
    (∀ name octets, store.octets? name = some octets ↔
      ∃ a, store.artifact? name = some a ∧ a.complete = true ∧ a.octets = octets) ∧
    (∀ name, name ∈ store.names ↔ ∃ entry ∈ log, entry.1 = name) ∧
    store.names.Nodup ∧ store.size = store.names.length ∧
    (store.isEmpty = true ↔ store.names = []) ∧
    store.isSealed = Log.hasSeal steps ∧
    (Log.hasSeal steps = false → ∀ name chunks close,
      ∃ written, store.write name chunks close = .ok written) ∧
    (Log.hasSeal steps = true →
      (∀ name chunks close, store.write name chunks close = .error ⟨name⟩) ∧
      ∀ more, store.run more = store ∧ ∀ name a, store.artifact? name = some a →
        a.complete = false → (store.run more).octets? name = none) := by
  intro store log
  obtain ⟨served, distinct, sealing⟩ : Recorded steps store :=
    recorded_run [] steps empty recorded_empty
  have opened (name : String) : store.artifact? name ≠ none ↔ ∃ entry ∈ log, entry.1 = name := by
    rw [served]
    exact Log.artifact_held_iff log name
  refine ⟨fun name a => ?_, opened, octets_iff store, fun name => ?_, names_nodup store distinct,
    (names_length store).symm, is_empty_iff store, sealing, ?_, ?_⟩
  · rw [served]
    exact Log.artifact_some_iff log name a
  · exact (mem_names_iff store name).trans (opened name)
  · intro unsealed name chunks close
    exact write_unsealed store name chunks close (sealing.trans unsealed)
  · intro hasSeal
    have shut : store.isSealed = true := sealing.trans hasSeal
    refine ⟨fun name chunks close => write_sealed store name chunks close shut, fun more => ?_⟩
    have frozen := run_sealed store more shut
    refine ⟨frozen, fun name a found unfinished => ?_⟩
    rw [frozen, octets?, found]
    simp [unfinished]

-- A name that is written again, one that stays open, and a write that comes too late.
theorem reopened_name_replaced :
    let steps : List Step := [.write "a" [[1]] true, .write "b" [[2], [3]] false,
      .write "a" [[4], [5]] false, .sealUp, .write "b" [] true]
    Log.hasSeal steps = true ∧ (empty.run steps).artifact? "a" = some ⟨"a", [4, 5], false⟩ ∧
      (empty.run steps).octets? "b" = none ∧
      (empty.run steps).write "c" [] true = .error ⟨"c"⟩ := by
  intro steps
  have hasSeal : Log.hasSeal steps = true := rfl
  obtain ⟨served, -, -, -, -, -, -, -, -, frozen⟩ := run_refines_log steps
  obtain ⟨refused, later⟩ := frozen hasSeal
  refine ⟨hasSeal, ?_, ?_, refused "c" [] true⟩
  · exact (served "a" _).mpr ⟨[], _, _, _, rfl, by simp, rfl⟩
  · have left : (empty.run steps).artifact? "b" = some ⟨"b", [2, 3], false⟩ :=
      (served "b" _).mpr ⟨[("a", [[4], [5]], false)], _, _, _, rfl, by simp, rfl⟩
    exact (later []).2 "b" _ left rfl

end Store
end Fragment
