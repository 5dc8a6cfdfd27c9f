import Fragment.Proofs.Files.Directory
import Fragment.Proofs.Definition
import Fragment.Proofs.Scratch
import Fragment.Proofs.Text.Number
/-!
What units are loaded from. A backing holds a descriptor or a directory that nobody else holds, and
keeps it while others come and go; two backings that hold different things have different paths,
unless one of them is in a private directory under an absolute name, which leads out of it.
-/
namespace Fragment

variable {σ : Type}

structure IsDirectoryName (name : Octets) : Prop where
  something : name ≠ []
  slashless : Path.slash ∉ name

def IsAbsoluteName (name : String) : Prop := (Path.ofString name).isAbsolute = true

theorem file_name_absolute (name : String) :
    (Path.ofString (UnitKind.output.fileName name)).isAbsolute = (Path.ofString name).isAbsolute := by
  rw [Path.ofString, file_name_octets, Path.ofString]
  cases Octets.ofString name with
  | nil => rfl
  | cons o rest => rfl

theorem private_path_absolute (directory : Location) (name : String)
    (absolute : IsAbsoluteName name) :
    privatePath directory name = Path.ofString (UnitKind.output.fileName name) := by
  rw [privatePath, Path.join, if_pos ((file_name_absolute name).trans absolute)]

theorem private_path_relative (fresh : Octets) (name : String) (named : IsDirectoryName fresh)
    (relative : ¬ IsAbsoluteName name) :
    privatePath [Scratch.temporary, fresh] name =
      (Path.slash :: Scratch.temporary) ++ Path.slash ::
        (fresh ++ Path.slash :: Path.ofString (UnitKind.output.fileName name)) := by
  have ended : (Scratch.ofLocation [Scratch.temporary, fresh]).endsInSlash = false :=
    Scratch.location_last [Scratch.temporary] fresh named.something named.slashless
  have inside : ¬ (Path.ofString (UnitKind.output.fileName name)).isAbsolute = true := by
    rw [file_name_absolute]
    exact relative
  have below : Scratch.ofLocation [Scratch.temporary, fresh] =
      (Path.slash :: Scratch.temporary) ++ Path.slash :: fresh := by
    rw [Scratch.location_cons, Scratch.location_cons]
    simp [Scratch.ofLocation]
  have something : (Scratch.ofLocation [Scratch.temporary, fresh]).isEmpty = false := by
    rw [below]
    rfl
  rw [privatePath, Path.join, if_neg inside, something, ended, below]
  simp

theorem private_path_last (directory : Location) (name : String) :
    (privatePath directory name).getLast? = some 111 := by
  have label : (Path.ofString (UnitKind.output.fileName name)).getLast? = some 111 := by
    rw [Path.ofString, file_name_octets]
    exact List.getLast?_append_of_ne_nil _ (by simp)
  have something : Path.ofString (UnitKind.output.fileName name) ≠ [] := by
    intro empty
    simp [empty] at label
  rw [privatePath, Path.join]
  split
  · exact label
  · split
    · rw [List.getLast?_append_of_ne_nil _ something, label]
    · rw [List.append_cons, List.getLast?_append_of_ne_nil _ something, label]

theorem memory_path_last (descriptor : Nat) : (memoryPath descriptor).getLast? ≠ some 111 := by
  obtain ⟨something, digits, -⟩ := Text.digits_of_number descriptor
  have numbered : Octets.ofString (toString descriptor) ≠ [] := by
    intro empty
    have same : toString descriptor = "" := (Octets.of_string_inj _ _).mp empty
    rw [same] at something
    exact something rfl
  rw [memoryPath, Path.ofString, Octets.ofString_append, List.getLast?_append_of_ne_nil _ numbered]
  intro last
  have letter := (Octets.ascii_mem_octets (toString descriptor) 'o' (by decide)).mp
    (List.mem_of_getLast? last)
  exact absurd (digits 'o' letter) (by decide)

theorem memory_path_inj (a b : Nat) (same : memoryPath a = memoryPath b) : a = b := by
  have texts := (String.append_right_inj _).mp ((Octets.of_string_inj _ _).mp same)
  have value := (Text.digits_of_number a).2.2
  rw [texts, (Text.digits_of_number b).2.2] at value
  exact value.symm

theorem private_path_directory (fresh fresh' : Octets) (name name' : String)
    (named : IsDirectoryName fresh) (named' : IsDirectoryName fresh') (relative : ¬ IsAbsoluteName name)
    (relative' : ¬ IsAbsoluteName name')
    (same : privatePath [Scratch.temporary, fresh] name =
      privatePath [Scratch.temporary, fresh'] name') : fresh = fresh' := by
  rw [private_path_relative fresh name named relative,
    private_path_relative fresh' name' named' relative'] at same
  have below := (List.cons.inj (List.append_cancel_left same)).2
  have cut (run rest : Octets) (bare : Path.slash ∉ run) :
      Path.splitAt Path.slash (run ++ Path.slash :: rest) = run :: Path.splitAt Path.slash rest := by
    have first : Path.splitAt Path.slash (Path.slash :: rest) = [] :: Path.splitAt Path.slash rest := by
      rw [Path.splitAt, if_pos rfl]
    rw [Path.split_run Path.slash run _ [] _ bare first, List.append_nil]
  have parts := congrArg (Path.splitAt Path.slash) below
  rw [cut fresh _ named.slashless, cut fresh' _ named'.slashless] at parts
  exact (List.cons.inj parts).1

-- What a backing holds so that nobody else gets it.
inductive Hold where
  | descriptor (number : Nat)
  | directory (location : Location)

namespace Backing

def hold : Backing → Hold
  | .memory descriptor => .descriptor descriptor
  | .privateDir directory _ => .directory directory

def IsPrivate : Backing → Prop
  | .memory _ => False
  | .privateDir .. => True

def MadeFor (name : String) : Backing → Prop
  | .memory _ => True
  | .privateDir directory path => ∃ fresh, IsDirectoryName fresh ∧
      directory = [Scratch.temporary, fresh] ∧ path = privatePath directory name

theorem path_eq_private (a b : Backing) (name name' : String) (made : a.MadeFor name)
    (made' : b.MadeFor name') (apart : a.hold ≠ b.hold) (same : a.path = b.path) :
    a.IsPrivate ∧ b.IsPrivate ∧ (IsAbsoluteName name ∨ IsAbsoluteName name') := by
  cases a with
  | memory descriptor =>
    cases b with
    | memory other => exact absurd (congrArg Hold.descriptor (memory_path_inj _ _ same)) apart
    | privateDir directory path =>
      obtain ⟨fresh, -, -, rfl⟩ := made'
      exact absurd (congrArg List.getLast? same |>.trans (private_path_last _ _))
        (memory_path_last descriptor)
  | privateDir directory path =>
    obtain ⟨fresh, named, rfl, rfl⟩ := made
    cases b with
    | memory descriptor =>
      exact absurd (congrArg List.getLast? same.symm |>.trans (private_path_last _ _))
        (memory_path_last descriptor)
    | privateDir directory path =>
      obtain ⟨fresh', named', rfl, rfl⟩ := made'
      refine ⟨trivial, trivial, ?_⟩
      by_cases absolute : IsAbsoluteName name
      · exact .inl absolute
      · by_cases absolute' : IsAbsoluteName name'
        · exact .inr absolute'
        · obtain rfl := private_path_directory fresh fresh' name name' named named' absolute
            absolute' same
          exact absurd rfl apart

theorem absolute_path_eq_iff (a b : Backing) (name name' : String) (made : a.MadeFor name)
    (made' : b.MadeFor name') (inside : a.IsPrivate) (inside' : b.IsPrivate)
    (absolute : IsAbsoluteName name) (absolute' : IsAbsoluteName name') :
    a.path = b.path ↔ name = name' := by
  cases a with
  | memory => exact absurd inside id
  | privateDir directory path =>
    cases b with
    | memory => exact absurd inside' id
    | privateDir directory' path' =>
      obtain ⟨fresh, -, -, rfl⟩ := made
      obtain ⟨fresh', -, -, rfl⟩ := made'
      rw [path, path, private_path_absolute _ _ absolute, private_path_absolute _ _ absolute',
        Path.ofString, Path.ofString, Octets.of_string_inj, UnitKind.fileName, UnitKind.fileName,
        String.append_left_inj, String.append_left_inj]

end Backing

-- What is taken for granted of the system: new descriptors and directories are new, and the code of
-- libraries that are loaded or unloaded leaves private directories alone.
structure Platform.Fresh (P : Platform σ) : Prop where
  descriptor : ∀ used, P.freshDescriptor used ∉ used
  named : ∀ files, IsDirectoryName (P.freshDirectory files)
  directory : ∀ files : FileTree,
    files.entry? [Scratch.temporary, P.freshDirectory files] = none
  loading : ∀ path content (process : Process σ) name,
    process.files.isDirectory [Scratch.temporary, name] = true →
      (P.load path content process).2.files.isDirectory [Scratch.temporary, name] = true
  unloading : ∀ library (process : Process σ) name,
    process.files.isDirectory [Scratch.temporary, name] = true →
      (P.unload library process).files.isDirectory [Scratch.temporary, name] = true

def Backing.Live (w : World σ) : Backing → Prop
  | .memory descriptor => descriptor ∈ w.descriptors
  | .privateDir directory _ => w.process.files.isDirectory directory = true

theorem temporary_apart (fresh fresh' : Octets) (apart : fresh' ≠ fresh) :
    ¬ [Scratch.temporary, fresh] <+: [Scratch.temporary, fresh'] := by
  intro within
  have same := within.eq_of_length rfl
  simp only [List.cons.injEq, and_true, true_and] at same
  exact apart same.symm

section live

variable {P : Platform σ} {w w' : World σ} {x b : Backing} {name other : String}

theorem discard_live (made : x.MadeFor other) (made' : b.MadeFor name) (apart : x.hold ≠ b.hold)
    (live : x.Live w) : x.Live (b.discard w) := by
  cases b with
  | memory descriptor =>
    cases x with
    | memory number =>
      have different : number ≠ descriptor := fun same => apart (congrArg Hold.descriptor same)
      exact (List.mem_erase_of_ne different).mpr live
    | privateDir directory path => exact live
  | privateDir directory path =>
    cases x with
    | memory number => exact live
    | privateDir directory' path' =>
      obtain ⟨fresh, -, rfl, -⟩ := made'
      obtain ⟨fresh', -, rfl, -⟩ := made
      have different : fresh' ≠ fresh := fun same => apart (by rw [same]; rfl)
      show (w.process.files.remove _).isDirectory _ = true
      rw [FileTree.isDirectory, FileTree.entry_remove_other _ _ _ (temporary_apart _ _ different)]
      exact live

theorem fresh_apart (fresh : P.Fresh) (made : x.MadeFor other) (live : x.Live w) :
    x.hold ≠ .descriptor (P.freshDescriptor w.descriptors) ∧
      x.hold ≠ .directory [Scratch.temporary, P.freshDirectory w.process.files] := by
  cases x with
  | memory number =>
    refine ⟨fun same => ?_, by simp [Backing.hold]⟩
    rw [Hold.descriptor.inj same] at live
    exact fresh.descriptor w.descriptors live
  | privateDir directory path =>
    refine ⟨by simp [Backing.hold], fun same => ?_⟩
    have there : w.process.files.isDirectory directory = true := live
    rw [Hold.directory.inj same, FileTree.isDirectory, fresh.directory] at there
    contradiction

theorem open_directory_live (live : x.Live w) : x.Live (w.openDirectory P).2 := by
  cases x with
  | memory number => exact live
  | privateDir directory path => exact FileTree.directory_addDirectory _ _ _ live

theorem open_descriptor_live (live : x.Live w) : x.Live (w.openDescriptor P).2 := by
  cases x with
  | memory number => exact List.mem_append_left _ live
  | privateDir directory path => exact live

theorem create_apart (fresh : P.Fresh) (mode : ScratchMode) (octets : Octets)
    (created : Backing.Created P mode name octets w (.ok b) w') (made : x.MadeFor other)
    (live : x.Live w) : x.hold ≠ b.hold ∧ x.Live w' := by
  obtain ⟨number, location⟩ := fresh_apart fresh made live
  cases created with
  | memory => exact ⟨number, open_descriptor_live live⟩
  | written elsewhere files done =>
    have opened : x.Live (w.openDirectory P).2 := open_directory_live live
    refine ⟨location, ?_⟩
    cases x with
    | memory descriptor => exact opened
    | privateDir directory path => exact FileTree.directory_write _ files _ octets _ done opened

theorem create_refused_live (fresh : P.Fresh) (mode : ScratchMode) (octets : Octets)
    (cause : OsFault) (created : Backing.Created P mode name octets w (.error cause) w')
    (made : x.MadeFor other) (live : x.Live w) : x.Live w' := by
  cases created with
  | refused => exact live
  | unfilled =>
    have mine : (Backing.memory (w.openDescriptor P).1).MadeFor name := trivial
    exact discard_live made mine (fresh_apart fresh made live).1 (open_descriptor_live live)
  | unwritten =>
    have mine : (Backing.privateDir (w.openDirectory P).1
        (privatePath (w.openDirectory P).1 name)).MadeFor name :=
      ⟨P.freshDirectory w.process.files, fresh.named _, rfl, rfl⟩
    exact discard_live made mine (fresh_apart fresh made live).2 (open_directory_live live)

theorem create_made (fresh : P.Fresh) (mode : ScratchMode) (octets : Octets)
    (created : Backing.Created P mode name octets w (.ok b) w') :
    b.MadeFor name ∧ b.Live w' ∧
      (b.IsPrivate ↔ mode.resolve P.hasMemoryFiles ≠ .memory) := by
  cases created with
  | memory inMemory =>
    refine ⟨trivial, List.mem_append_right _ (List.mem_singleton.mpr rfl), ?_⟩
    simp [Backing.IsPrivate, inMemory]
  | written elsewhere files done =>
    refine ⟨⟨_, fresh.named _, rfl, rfl⟩, ?_, by simp [Backing.IsPrivate, elsewhere]⟩
    have there : FileTree.entry? (w.openDirectory P).2.process.files (w.openDirectory P).1 =
        some .directory :=
      (FileTree.entry_addDirectory _ _ _).trans
        (if_pos ⟨List.prefix_rfl, fresh.directory w.process.files⟩)
    exact FileTree.directory_write _ files _ octets _ done (by simp [FileTree.isDirectory, there])

theorem hand_over_live (fresh : P.Fresh) (path : Path) (content : Option Octets)
    (made : x.MadeFor other) (live : x.Live w) : x.Live (w.handOver P path content) := by
  cases x with
  | memory number => exact live
  | privateDir directory path' =>
    obtain ⟨name, -, rfl, -⟩ := made
    exact fresh.loading path content w.process name live

theorem unload_live (fresh : P.Fresh) (library : Library) (made : x.MadeFor other)
    (live : x.Live w) : x.Live { w with process := P.unload library w.process } := by
  cases x with
  | memory number => exact live
  | privateDir directory path' =>
    obtain ⟨name, -, rfl, -⟩ := made
    exact fresh.unloading library w.process name live

end live

end Fragment
