import Fragment.Source
/-!
The output store: what compilations produced, by unit name, kept in memory only. An artifact is
unfinished from its start until it is finished; starting a name again replaces its artifact, and
once the store is sealed nothing starts any more.

`Store.run` folds steps over a store; `Log` is a second account of the same steps, which keeps
what was asked for and answers from the last start of a name before the first seal.
-/
namespace Fragment

structure Artifact where
  name : String
  octets : Octets
  complete : Bool
deriving DecidableEq, Repr

def Artifact.kind (_ : Artifact) : UnitKind := .output

-- Artifacts with distinct names, in the order in which the names were first started.
structure Store where
  artifacts : List Artifact
  isSealed : Bool
deriving DecidableEq, Repr

structure SealedFault where
  name : String
deriving DecidableEq, Repr

namespace Store

def empty : Store := ⟨[], false⟩

def artifact? (store : Store) (name : String) : Option Artifact :=
  store.artifacts.find? (·.name == name)

def octets? (store : Store) (name : String) : Option Octets :=
  (store.artifact? name).bind fun a => if a.complete then some a.octets else none

def replace (a : Artifact) : List Artifact → List Artifact
  | [] => [a]
  | b :: rest => if b.name == a.name then a :: rest else b :: replace a rest

def start (store : Store) (name : String) : Except SealedFault Store :=
  if store.isSealed then .error ⟨name⟩
  else .ok { store with artifacts := replace ⟨name, [], false⟩ store.artifacts }

def update (store : Store) (name : String) (change : Artifact → Artifact) : Store :=
  { store with artifacts := store.artifacts.map fun a => if a.name == name then change a else a }

def append (store : Store) (name : String) (chunk : Octets) : Store :=
  store.update name fun a => { a with octets := a.octets ++ chunk }

def finish (store : Store) (name : String) : Store :=
  store.update name fun a => { a with complete := true }

def write (store : Store) (name : String) (chunks : List Octets) (close : Bool) :
    Except SealedFault Store := do
  let started ← store.start name
  let written := chunks.foldl (fun s chunk => s.append name chunk) started
  return if close then written.finish name else written

def sealUp (store : Store) : Store := { store with isSealed := true }

def names (store : Store) : List String :=
  (store.artifacts.map (·.name)).mergeSort fun a b => !(b < a)

def size (store : Store) : Nat := store.artifacts.length

def isEmpty (store : Store) : Bool := store.artifacts.isEmpty

inductive Step where
  | write (name : String) (chunks : List Octets) (close : Bool)
  | sealUp

def apply (store : Store) : Step → Store
  | .write name chunks close => match store.write name chunks close with
    | .ok written => written
    | .error _ => store
  | .sealUp => store.sealUp

def run (store : Store) (steps : List Step) : Store := steps.foldl apply store

end Store

-- The steps before the first seal that start a name, the latest first.
abbrev Log := List (String × List Octets × Bool)

namespace Log

def ofSteps (steps : List Store.Step) : Log :=
  let beforeSeal := steps.takeWhile fun
    | .write .. => true
    | .sealUp => false
  (beforeSeal.filterMap fun
    | .write name chunks close => some (name, chunks, close)
    | .sealUp => none).reverse

def artifact? (log : Log) (name : String) : Option Artifact :=
  (log.find? (·.1 == name)).map fun entry => ⟨name, entry.2.1.flatten, entry.2.2⟩

def hasSeal (steps : List Store.Step) : Bool := steps.any fun
  | .write .. => false
  | .sealUp => true

end Log
end Fragment
