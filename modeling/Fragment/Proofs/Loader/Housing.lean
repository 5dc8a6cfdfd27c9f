import Fragment.Proofs.Loader.Backing
import Fragment.Proofs.Loader.Resolution
/-!
Paths for the dynamic loader. A loaded unit holds what its backing was made of until it is unloaded,
whatever is defined, resolved and released meanwhile, so a path that is handed over is in use by no
unit that is still loaded. Absolute names are the exception, and a real one.
-/
namespace Fragment

variable {σ : Type}

def LoadedUnit.WellMade (unit : LoadedUnit) : Prop :=
  ∀ x, unit.backing = some x → x.MadeFor unit.name

def LoadedUnit.Apart (unit other : LoadedUnit) : Prop :=
  ∀ x y, unit.backing = some x → other.backing = some y → x.hold ≠ y.hold

structure World.Housed (w : World σ) : Prop where
  made : ∀ unit ∈ w.units, unit.WellMade
  live : ∀ unit ∈ w.units, ∀ x, unit.backing = some x → x.Live w
  apart : ∀ unit ∈ w.units, ∀ other ∈ w.units, unit.serial ≠ other.serial → unit.Apart other

section housed

variable {P : Platform σ} {w w' : World σ}

theorem housed_empty (unloaded : w.units = []) : w.Housed := by
  refine ⟨?_, ?_, ?_⟩
  all_goals simp [unloaded]

theorem housed_fewer (housed : w.Housed) (fewer : ∀ unit ∈ w'.units, unit ∈ w.units)
    (live : ∀ unit ∈ w'.units, ∀ x, unit.backing = some x → x.MadeFor unit.name → x.Live w →
      x.Live w') : w'.Housed where
  made unit member := housed.made unit (fewer unit member)
  live unit member x backed := live unit member x backed
    (housed.made unit (fewer unit member) x backed) (housed.live unit (fewer unit member) x backed)
  apart unit member other member' := housed.apart unit (fewer unit member) other (fewer other member')

theorem housed_add (housed : w.Housed) (unit : LoadedUnit) (made : unit.WellMade)
    (live : ∀ x, unit.backing = some x → x.Live w) (apart : ∀ other ∈ w.units, other.Apart unit) :
    (w.addUnit unit).Housed := by
  have cases_of (one : LoadedUnit) (member : one ∈ (w.addUnit unit).units) :
      one ∈ w.units ∨ one = unit := by
    rcases List.mem_append.mp member with old | new
    · exact .inl old
    · exact .inr (List.mem_singleton.mp new)
  refine ⟨?_, ?_, ?_⟩
  · intro one member
    rcases cases_of one member with old | rfl
    · exact housed.made one old
    · exact made
  · intro one member x backed
    rcases cases_of one member with old | rfl
    · exact housed.live one old x backed
    · exact live x backed
  · intro one member other member' different
    rcases cases_of one member with old | rfl
    · rcases cases_of other member' with old' | rfl
      · exact housed.apart one old other old' different
      · exact apart one old
    · rcases cases_of other member' with old' | rfl
      · exact fun x y backed backed' => (apart other old' y x backed' backed).symm
      · exact absurd rfl different

theorem create_units (P : Platform σ) (mode : ScratchMode) (name : String) (octets : Octets)
    (w : World σ) : (Backing.create P mode name octets w).2.units = w.units :=
  congrArg Ledger.units (Backing.ledger_create P mode name octets w)

theorem unload_units (P : Platform σ) (unit : LoadedUnit) (w : World σ) :
    (LoadedUnit.unload P w unit).units = w.units.filter (·.serial != unit.serial) :=
  congrArg Ledger.units (LoadedUnit.ledger_unload P w unit)

theorem define_housed (fresh : P.Fresh) (mode : ScratchMode) (name : String) (octets : Octets)
    (housed : w.Housed) : (LoadedUnit.define P mode name octets w).2.Housed := by
  have defining := LoadedUnit.define_defining P mode name octets w
  have created := Backing.create_created P mode name octets w
  have units := create_units P mode name octets w
  generalize (LoadedUnit.define P mode name octets w).1 = result,
    (LoadedUnit.define P mode name octets w).2 = w' at defining ⊢
  cases defining with
  | unbacked cause _ answered =>
    rw [answered] at created units
    refine housed_fewer housed (fun unit member => units ▸ member) ?_
    intro unit member x backed made live
    exact create_refused_live fresh mode octets cause created made live
  | refused backing staged answered cause answer =>
    rw [answered] at created units
    have dropped : (backing.discard (staged.handOver P backing.path (backing.content octets))).units =
        w.units := (congrArg Ledger.units (Backing.ledger_discard backing _)).trans units
    refine housed_fewer housed (fun unit member => dropped ▸ member) ?_
    intro unit member x backed made live
    obtain ⟨apart, staying⟩ := create_apart fresh mode octets created made live
    exact discard_live made (create_made fresh mode octets created).1 apart
      (hand_over_live fresh _ _ made staying)
  | loaded backing staged answered library answer =>
    rw [answered] at created units
    obtain ⟨mine, here, -⟩ := create_made fresh mode octets created
    have before : (staged.handOver P backing.path (backing.content octets)).Housed := by
      refine housed_fewer housed (fun unit member => units ▸ member) ?_
      intro unit member x backed made live
      exact hand_over_live fresh _ _ made (create_apart fresh mode octets created made live).2
    refine housed_add before _ ?_ ?_ ?_
    · intro x backed
      obtain rfl := Option.some.inj backed
      exact mine
    · intro x backed
      obtain rfl := Option.some.inj backed
      exact hand_over_live fresh _ _ mine here
    · intro other member x y backed backed'
      obtain rfl := Option.some.inj backed'
      have old : other ∈ w.units := units ▸ member
      exact (create_apart fresh mode octets created (housed.made other old x backed)
        (housed.live other old x backed)).1

theorem resolve_housed (fresh : P.Fresh) (scope : Scope) (name : String) (housed : w.Housed) :
    (scope.resolve P name w).2.2.Housed := by
  have resolved := Scope.resolve_resolved P scope name w
  generalize (scope.resolve P name w).1 = answer, (scope.resolve P name w).2.1 = next,
    (scope.resolve P name w).2.2 = w' at resolved ⊢
  cases resolved with
  | closed | kept | unfinished | registered | missing => exact housed
  | undefined _ artifact _ _ fault _ refused =>
    have kept := define_housed fresh scope.mode name artifact.octets housed
    rwa [refused] at kept
  | defined _ _ artifact _ _ unit _ done =>
    have kept := define_housed fresh scope.mode name artifact.octets housed
    rwa [done] at kept

theorem load_housed (fresh : P.Fresh) (name : String) (path : Path) (housed : w.Housed) :
    (LoadedUnit.ofLibrary P name path w).2.Housed := by
  have handed : (w.handOver P path none).Housed :=
    housed_fewer housed (fun unit member => member) fun unit member x backed made live =>
      hand_over_live fresh path none made live
  unfold LoadedUnit.ofLibrary
  split
  · exact housed
  · rw [load_unit_answer]
    cases (P.load path none w.process).1 with
    | error cause => exact handed
    | ok library =>
      refine housed_add handed _ ?_ ?_ ?_
      · intro x backed
        contradiction
      · intro x backed
        contradiction
      · intro other member x y backed backed'
        contradiction

theorem unload_housed (fresh : P.Fresh) (unit : LoadedUnit) (made : unit.WellMade)
    (apart : ∀ other ∈ w.units, other.serial ≠ unit.serial → other.Apart unit)
    (housed : w.Housed) : (LoadedUnit.unload P w unit).Housed := by
  have left (other : LoadedUnit) (member : other ∈ (LoadedUnit.unload P w unit).units) :
      other ∈ w.units ∧ other.serial ≠ unit.serial := by
    simpa [unload_units] using member
  refine housed_fewer housed (fun other member => (left other member).1) ?_
  intro other member x backed made' live
  have unloaded := unload_live fresh unit.library made' live
  unfold LoadedUnit.unload
  cases held : unit.backing with
  | none => exact unloaded
  | some backing =>
    have different := apart other (left other member).1 (left other member).2 x backing backed held
    exact discard_live made' (made backing held) different unloaded

theorem unload_all_housed (fresh : P.Fresh) (released : List LoadedUnit)
    (made : ∀ unit ∈ released, unit.WellMade)
    (apart : ∀ unit ∈ released, ∀ other ∈ w.units, other.serial ≠ unit.serial → other.Apart unit)
    (housed : w.Housed) : (released.foldl (LoadedUnit.unload P) w).Housed := by
  induction released generalizing w with
  | nil => exact housed
  | cons unit rest ih =>
    have fewer (other : LoadedUnit) (member : other ∈ (LoadedUnit.unload P w unit).units) :
        other ∈ w.units := by
      rw [unload_units] at member
      exact List.mem_of_mem_filter member
    refine ih (fun next member => made next (by simp [member])) ?_
      (unload_housed fresh unit (made unit (by simp)) (apart unit (by simp)) housed)
    intro next member other remaining
    exact apart next (by simp [member]) other (fewer other remaining)

theorem keep_only_housed (fresh : P.Fresh) (held : List Nat) (housed : w.Housed) :
    (w.keepOnly P held).Housed := by
  refine unload_all_housed fresh _ ?_ ?_ housed
  · intro unit member
    exact housed.made unit (List.mem_of_mem_filter member)
  · intro unit member other remaining different
    exact housed.apart other remaining unit (List.mem_of_mem_filter member) different

end housed

-- What a host can do to the loaded units: define one, by itself or through a scope, load a library
-- of its own, close a scope, and let units go.
inductive Step where
  | define (mode : ScratchMode) (name : String) (octets : Octets)
  | resolve (scope : Scope) (name : String)
  | load (name : String) (path : Path)
  | close (scope : Scope) (held : List Nat)
  | release (held : List Nat)

def Step.take (P : Platform σ) (w : World σ) : Step → World σ
  | .define mode name octets => (LoadedUnit.define P mode name octets w).2
  | .resolve scope name => (scope.resolve P name w).2.2
  | .load name path => (LoadedUnit.ofLibrary P name path w).2
  | .close scope held => (scope.close P held w).2
  | .release held => w.keepOnly P held

theorem step_housed {P : Platform σ} (fresh : P.Fresh) (w : World σ) (step : Step)
    (housed : w.Housed) : (step.take P w).Housed := by
  cases step with
  | define mode name octets => exact define_housed fresh mode name octets housed
  | resolve scope name => exact resolve_housed fresh scope name housed
  | load name path => exact load_housed fresh name path housed
  | release held => exact keep_only_housed fresh held housed
  | close scope held =>
    show (scope.close P held w).2.Housed
    unfold Scope.close
    split
    · exact housed_fewer (keep_only_housed fresh held housed) (fun unit member => member)
        fun unit member x backed made live => live
    · exact housed

theorem steps_housed {P : Platform σ} (fresh : P.Fresh) (w : World σ) (steps : List Step)
    (housed : w.Housed) : (steps.foldl (Step.take P) w).Housed := by
  induction steps generalizing w with
  | nil => exact housed
  | cons step rest ih => exact ih (step.take P w) (step_housed fresh w step housed)

theorem define_hands (P : Platform σ) (mode : ScratchMode) (name : String) (octets : Octets)
    (w : World σ) :
    ∃ handed : List Event,
      (LoadedUnit.define P mode name octets w).2.events = w.events ++ handed ∧
      ∀ event ∈ handed, ∃ backing staged,
        Backing.create P mode name octets w = (.ok backing, staged) ∧
        event = .handed backing.path (backing.content octets) := by
  have defining := LoadedUnit.define_defining P mode name octets w
  have events : (Backing.create P mode name octets w).2.events = w.events :=
    congrArg Ledger.events (Backing.ledger_create P mode name octets w)
  generalize (LoadedUnit.define P mode name octets w).1 = result,
    (LoadedUnit.define P mode name octets w).2 = w' at defining ⊢
  cases defining with
  | unbacked cause _ created =>
    rw [created] at events
    exact ⟨[], by simpa using events, by simp⟩
  | refused backing staged created cause answer =>
    rw [created] at events
    refine ⟨[.handed backing.path (backing.content octets)], ?_, ?_⟩
    · rw [← events]
      exact congrArg Ledger.events (Backing.ledger_discard backing _)
    · intro event member
      exact ⟨backing, staged, created, List.mem_singleton.mp member⟩
  | loaded backing staged created library answer =>
    rw [created] at events
    refine ⟨[.handed backing.path (backing.content octets)], ?_, ?_⟩
    · rw [← events]
      rfl
    · intro event member
      exact ⟨backing, staged, created, List.mem_singleton.mp member⟩

theorem handed_path_unused (P : Platform σ) (fresh : P.Fresh) (w : World σ)
    (unloaded : w.units = []) (steps : List Step) (mode : ScratchMode) (name : String)
    (octets : Octets) :
    let now := steps.foldl (Step.take P) w
    ∃ handed : List Event,
      (LoadedUnit.define P mode name octets now).2.events = now.events ++ handed ∧
      ∀ event ∈ handed, ∃ path content, event = .handed path content ∧
        ∀ unit ∈ now.units, ∀ backing, unit.backing = some backing →
          (backing.path = path → mode.resolve P.hasMemoryFiles ≠ .memory ∧ backing.IsPrivate ∧
            (IsAbsoluteName unit.name ∨ IsAbsoluteName name)) ∧
          (mode.resolve P.hasMemoryFiles ≠ .memory → backing.IsPrivate →
            IsAbsoluteName unit.name → IsAbsoluteName name →
              (backing.path = path ↔ unit.name = name)) := by
  intro now
  have housed : now.Housed := steps_housed fresh w steps (housed_empty unloaded)
  obtain ⟨handed, events, only⟩ := define_hands P mode name octets now
  refine ⟨handed, events, fun event member => ?_⟩
  obtain ⟨mine, staged, answered, rfl⟩ := only event member
  refine ⟨mine.path, mine.content octets, rfl, fun unit loaded backing backed => ?_⟩
  have created := Backing.create_created P mode name octets now
  rw [answered] at created
  obtain ⟨made, -, inside⟩ := create_made fresh mode octets created
  have theirs := housed.made unit loaded backing backed
  obtain ⟨apart, -⟩ := create_apart fresh mode octets created theirs
    (housed.live unit loaded backing backed)
  constructor
  · intro same
    obtain ⟨inside', within, absolute⟩ :=
      Backing.path_eq_private backing mine unit.name name theirs made apart same
    exact ⟨inside.mp within, inside', absolute⟩
  · intro elsewhere inside' absolute absolute'
    exact Backing.absolute_path_eq_iff backing mine unit.name name theirs made inside'
      (inside.mpr elsewhere) absolute absolute'

-- A platform that loads every library and names a new directory by more zeros than any name has.
def Platform.tidy : Platform Unit :=
  { Platform.steady .quiet 0 with
    freshDirectory := fun files => Path.ofString "memrun-" ++
      List.replicate (files.entries.flatMap fun entry => entry.1.flatten).length 48 }

theorem lookup_absent (entries : List (Location × Entry)) (location : Location)
    (long : (entries.flatMap fun entry => entry.1.flatten).length < location.flatten.length) :
    entries.lookup location = none := by
  induction entries with
  | nil => rfl
  | cons first rest ih =>
    obtain ⟨found, entry⟩ := first
    rw [List.flatMap_cons, List.length_append] at long
    have different : (location == found) = false := by
      rw [beq_eq_false_iff_ne]
      rintro rfl
      dsimp only at long
      omega
    rw [List.lookup_cons, different]
    exact ih (by dsimp only at long; omega)

theorem le_greatest (numbers : List Nat) (start : Nat) :
    start ≤ numbers.foldl max start ∧ ∀ number ∈ numbers, number ≤ numbers.foldl max start := by
  induction numbers generalizing start with
  | nil => simp
  | cons first rest ih =>
    obtain ⟨above, all⟩ := ih (max start first)
    rw [List.foldl_cons]
    refine ⟨by omega, fun number member => ?_⟩
    rcases List.mem_cons.mp member with rfl | later
    · omega
    · exact all number later

theorem tidy_fresh : Platform.tidy.Fresh where
  descriptor used member := by
    have bound := (le_greatest used 2).2 _ member
    simp only [Platform.tidy, Platform.steady] at bound
    omega
  named files := by
    refine ⟨by simp [Platform.tidy, Path.ofString, Octets.ofString, Octets.ofChars], ?_⟩
    intro member
    rcases List.mem_append.mp member with label | zeros
    · exact absurd label (by decide)
    · exact absurd (List.mem_replicate.mp zeros).2 (by decide)
  directory files := by
    refine lookup_absent files.entries _ ?_
    simp only [Platform.tidy, List.flatten_cons, List.flatten_nil, List.length_append,
      List.length_replicate, List.append_nil]
    have label : (Path.ofString "memrun-").length = 7 := by decide
    omega
  loading _ _ _ _ there := there
  unloading _ _ _ there := there

theorem define_absolute (P : Platform σ) (granted : P.Grants) (library : Library)
    (loads : ∀ path content process, P.load path content process = (.ok library, process))
    (w : World σ) (octets : Octets)
    (spare : FileTree.Writable w.process.files [Path.ofString "x.so"]) :
    ∃ directory w', LoadedUnit.define P .privateDir "/x" octets w =
        (.ok ⟨w.nextSerial, "/x", .compiled, library,
          some (.privateDir directory (Path.ofString "/x.so"))⟩, w') ∧
      w'.units = w.units ++ [⟨w.nextSerial, "/x", .compiled, library,
        some (.privateDir directory (Path.ofString "/x.so"))⟩] ∧
      w'.events = w.events ++ [.handed (Path.ofString "/x.so") none] ∧
      FileTree.Writable w'.process.files [Path.ofString "x.so"] := by
  have named : IsFileName (Path.ofString "x.so") :=
    ⟨by decide, by decide, by decide, by decide, by decide⟩
  have elsewhere : ¬ [Path.ofString "x.so"] <+: (w.openDirectory P).1 := by
    intro within
    have first := (List.cons_prefix_cons.mp within).1
    exact absurd first (by decide)
  have same : FileTree.entry? (w.openDirectory P).2.process.files [Path.ofString "x.so"] =
      w.process.files.entry? [Path.ofString "x.so"] :=
    (FileTree.entry_addDirectory _ _ _).trans (if_neg fun both => elsewhere both.1)
  obtain ⟨mode, written⟩ := FileTree.write_root (w.openDirectory P).2.process.files
    (Path.ofString "x.so") octets named ⟨spare.1, same ▸ spare.2⟩
  have apart : ScratchMode.privateDir.resolve P.hasMemoryFiles ≠ .memory := nofun
  have created := Backing.create_written P .privateDir "/x" octets w _ apart (granted _ _)
    (granted _ _) written
  let unit : LoadedUnit := ⟨w.nextSerial, "/x", .compiled, library,
    some (.privateDir (w.openDirectory P).1 (Path.ofString "/x.so"))⟩
  let files := (w.openDirectory P).2.process.files.put [Path.ofString "x.so"] (.file mode octets)
  let staged := (w.openDirectory P).2.setFiles files
  have handed : staged.handOver P (Path.ofString "/x.so") none =
      staged.record (.handed (Path.ofString "/x.so") none) := by
    rw [World.handOver, loads]
  have defined : LoadedUnit.define P .privateDir "/x" octets w =
      (.ok unit, (staged.record (.handed (Path.ofString "/x.so") none)).addUnit unit) := by
    rw [LoadedUnit.define, created]
    dsimp only
    rw [load_unit_answer, loads]
    exact congrArg (fun w => (Except.ok unit, World.addUnit unit w)) handed
  refine ⟨(w.openDirectory P).1, _, defined, rfl, rfl, by simp, fun entry there => ?_⟩
  have put := FileTree.entry_put_same (w.openDirectory P).2.process.files [Path.ofString "x.so"]
    (.file mode octets) (by simp)
  exact ⟨mode, octets, Option.some.inj (there.symm.trans put)⟩

theorem absolute_name_handed_twice :
    Platform.tidy.Fresh ∧
      let now := [Step.define .privateDir "/x" [1]].foldl (Step.take .tidy) .blank
      World.blank.units = [] ∧ ∃ unit ∈ now.units, ∃ backing, unit.backing = some backing ∧
        (LoadedUnit.define .tidy .privateDir "/x" [2] now).2.events =
          now.events ++ [.handed backing.path none] := by
  refine ⟨tidy_fresh, rfl, ?_⟩
  have bare : FileTree.Writable World.blank.process.files [Path.ofString "x.so"] :=
    ⟨by simp, fun entry there => by cases there⟩
  have tidy_absolute := define_absolute .tidy (fun _ _ => rfl) 0 fun _ _ _ => rfl
  obtain ⟨directory, first, defined, units, -, spare⟩ := tidy_absolute .blank [1] bare
  obtain ⟨directory', second, again, -, events, -⟩ := tidy_absolute first [2] spare
  have now : [Step.define .privateDir "/x" [1]].foldl (Step.take .tidy) .blank = first := by
    rw [List.foldl_cons, List.foldl_nil, Step.take, defined]
  rw [now, again]
  refine ⟨⟨0, "/x", .compiled, 0, some (.privateDir directory (Path.ofString "/x.so"))⟩, ?_,
    .privateDir directory (Path.ofString "/x.so"), rfl, events⟩
  rw [units]
  exact List.mem_singleton.mpr rfl

-- A unit is defined in memory twice, and the first of the two is let go.
def redefinitions : List Step :=
  [.define .memory "Main" [1], .define .memory "Main" [2], .release [1]]

theorem redefined_path_unused :
    Platform.tidy.Fresh ∧ World.blank.units = [] ∧
      let now := redefinitions.foldl (Step.take .tidy) .blank
      now.units = [⟨1, "Main", .compiled, 0, some (.memory 4)⟩] ∧
      (LoadedUnit.define .tidy .memory "Main" [3] now).2.events =
        now.events ++ [.handed (memoryPath 5) (some [3])] ∧
      memoryPath 4 ≠ memoryPath 5 := by
  refine ⟨tidy_fresh, rfl, rfl, rfl, ?_⟩
  obtain ⟨handed, events, only⟩ :=
    handed_path_unused .tidy tidy_fresh .blank rfl redefinitions .memory "Main" [3]
  have hands : handed = [.handed (memoryPath 5) (some [3])] := List.append_cancel_left events.symm
  obtain ⟨path, content, same, apart⟩ := only (.handed (memoryPath 5) (some [3])) (by simp [hands])
  cases same
  intro collides
  have unit : (⟨1, "Main", .compiled, 0, some (.memory 4)⟩ : LoadedUnit) ∈
      (redefinitions.foldl (Step.take .tidy) .blank).units := List.mem_singleton.mpr rfl
  exact ((apart _ unit (.memory 4) rfl).1 collides).1 rfl

end Fragment
