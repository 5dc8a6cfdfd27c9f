import Fragment.Store
/-!
What the operations of an output store do to the artifact that it serves under a name: writing a
name replaces the artifact of that name and of no other, and sealing replaces none.
-/
namespace Fragment.Store

theorem find_replace_same (a : Artifact) (artifacts : List Artifact) :
    (replace a artifacts).find? (·.name == a.name) = some a := by
  induction artifacts with
  | nil => simp [replace]
  | cons b rest ih =>
    by_cases same : b.name = a.name
    · simp [replace, same]
    · simp [replace, same, ih]

theorem find_replace_other (a : Artifact) (artifacts : List Artifact) (name : String)
    (different : name ≠ a.name) :
    (replace a artifacts).find? (·.name == name) = artifacts.find? (·.name == name) := by
  induction artifacts with
  | nil => simp [replace, Ne.symm different]
  | cons b rest ih =>
    by_cases same : b.name = a.name
    · simp [replace, same, Ne.symm different]
    · by_cases hit : b.name = name
      · have kept : ¬ name = a.name := different
        simp [replace, hit, kept]
      · simp [replace, same, hit, ih]

theorem find_map_same (name : String) (change : Artifact → Artifact) (artifacts : List Artifact)
    (keeps : ∀ a, (change a).name = a.name) :
    (artifacts.map fun a => if a.name == name then change a else a).find? (·.name == name) =
      (artifacts.find? (·.name == name)).map change := by
  induction artifacts with
  | nil => rfl
  | cons a rest ih =>
    by_cases hit : a.name = name
    · simp [hit, keeps]
    · simpa [hit] using ih

theorem find_map_other (name other : String) (change : Artifact → Artifact)
    (artifacts : List Artifact) (keeps : ∀ a, (change a).name = a.name) (different : other ≠ name) :
    (artifacts.map fun a => if a.name == name then change a else a).find? (·.name == other) =
      artifacts.find? (·.name == other) := by
  induction artifacts with
  | nil => rfl
  | cons a rest ih =>
    by_cases hit : a.name = name
    · have miss : a.name ≠ other := fun same => different (same.symm.trans hit)
      simpa [hit, keeps, Ne.symm different, miss] using ih
    · by_cases found : a.name = other
      · simp [found, different]
      · simpa [hit, found] using ih

theorem artifact_append_same (store : Store) (name : String) (chunk : Octets) :
    (store.append name chunk).artifact? name =
      (store.artifact? name).map fun a => { a with octets := a.octets ++ chunk } :=
  find_map_same name _ store.artifacts fun _ => rfl

theorem artifact_append_other (store : Store) (name other : String) (chunk : Octets)
    (different : other ≠ name) :
    (store.append name chunk).artifact? other = store.artifact? other :=
  find_map_other name other _ store.artifacts (fun _ => rfl) different

theorem artifact_finish_same (store : Store) (name : String) :
    (store.finish name).artifact? name =
      (store.artifact? name).map fun a => { a with complete := true } :=
  find_map_same name _ store.artifacts fun _ => rfl

theorem artifact_finish_other (store : Store) (name other : String) (different : other ≠ name) :
    (store.finish name).artifact? other = store.artifact? other :=
  find_map_other name other _ store.artifacts (fun _ => rfl) different

theorem artifact_appends_same (store : Store) (name : String) (chunks : List Octets) :
    (chunks.foldl (fun s chunk => s.append name chunk) store).artifact? name =
      (store.artifact? name).map fun a => { a with octets := a.octets ++ chunks.flatten } := by
  induction chunks generalizing store with
  | nil => simp
  | cons chunk rest ih =>
    rw [List.foldl_cons, ih, artifact_append_same, Option.map_map]
    simp [Function.comp_def]

theorem artifact_appends_other (store : Store) (name other : String) (chunks : List Octets)
    (different : other ≠ name) :
    (chunks.foldl (fun s chunk => s.append name chunk) store).artifact? other =
      store.artifact? other := by
  induction chunks generalizing store with
  | nil => rfl
  | cons chunk rest ih =>
    rw [List.foldl_cons, ih, artifact_append_other store name other chunk different]

theorem sealed_appends (store : Store) (name : String) (chunks : List Octets) :
    (chunks.foldl (fun s chunk => s.append name chunk) store).isSealed = store.isSealed := by
  induction chunks generalizing store with
  | nil => rfl
  | cons chunk rest ih => exact ih (store.append name chunk)

theorem artifact_start (store started : Store) (name : String)
    (opened : store.start name = .ok started) :
    started.artifact? name = some ⟨name, [], false⟩ ∧
      (∀ other, other ≠ name → started.artifact? other = store.artifact? other) ∧
      started.isSealed = false := by
  cases sealing : store.isSealed with
  | true => simp [start, sealing] at opened
  | false =>
    simp only [start, sealing, Bool.false_eq_true, if_false, Except.ok.injEq] at opened
    subst started
    exact ⟨find_replace_same ⟨name, [], false⟩ store.artifacts,
      fun other different => find_replace_other ⟨name, [], false⟩ store.artifacts other different,
      rfl⟩

theorem artifact_write (store written : Store) (name : String) (chunks : List Octets) (close : Bool)
    (done : store.write name chunks close = .ok written) :
    written.artifact? name = some ⟨name, chunks.flatten, close⟩ ∧
      (∀ other, other ≠ name → written.artifact? other = store.artifact? other) ∧
      written.isSealed = false := by
  cases opened : store.start name with
  | error fault => simp [write, opened, bind, Except.bind] at done
  | ok started =>
    obtain ⟨fresh, others, unsealed⟩ := artifact_start store started name opened
    simp only [write, opened, bind, Except.bind, pure, Except.pure, Except.ok.injEq] at done
    subst written
    cases close with
    | true =>
      simp only [if_true]
      refine ⟨?_, fun other different => ?_, (sealed_appends started name chunks).trans unsealed⟩
      · rw [artifact_finish_same, artifact_appends_same, fresh]
        rfl
      · rw [artifact_finish_other _ _ _ different, artifact_appends_other _ _ _ _ different,
          others other different]
    | false =>
      simp only [Bool.false_eq_true, if_false]
      refine ⟨?_, fun other different => ?_, (sealed_appends started name chunks).trans unsealed⟩
      · rw [artifact_appends_same, fresh]
        rfl
      · rw [artifact_appends_other _ _ _ _ different, others other different]

theorem write_refused (store : Store) (name : String) (chunks : List Octets) (close : Bool)
    (fault : SealedFault) (refused : store.write name chunks close = .error fault) :
    store.isSealed = true ∧ fault = ⟨name⟩ := by
  cases sealing : store.isSealed with
  | true =>
    simp only [write, start, sealing, if_true, bind, Except.bind, Except.error.injEq] at refused
    exact ⟨rfl, refused.symm⟩
  | false => simp [write, start, sealing, bind, Except.bind, pure, Except.pure] at refused

theorem write_sealed (store : Store) (name : String) (chunks : List Octets) (close : Bool)
    (shut : store.isSealed = true) : store.write name chunks close = .error ⟨name⟩ := by
  rw [write, start, if_pos shut]
  rfl

theorem write_unsealed (store : Store) (name : String) (chunks : List Octets) (close : Bool)
    (unsealed : store.isSealed = false) :
    ∃ written, store.write name chunks close = .ok written := by
  cases answer : store.write name chunks close with
  | ok written => exact ⟨written, rfl⟩
  | error fault =>
    have shut := (write_refused store name chunks close fault answer).1
    rw [unsealed] at shut
    contradiction

theorem octets_of_artifact (store : Store) (name : String) (octets : Octets)
    (found : store.artifact? name = some ⟨name, octets, true⟩) :
    store.octets? name = some octets := by
  simp [octets?, found]

end Fragment.Store
