import Fragment.Text.Blank
import Fragment.Text.Decode
/-!
Configuration: which compiler, flags, template, entry function and kind of scratch files a launcher
is to use. It is read from variables of the environment and then changed field by field.
-/
namespace Fragment

inductive ScratchMode where
  | auto
  | memory
  | privateDir
deriving DecidableEq, Repr

structure EntryPoint where
  unit : String
  function : String
deriving DecidableEq, Repr

namespace EntryPoint

def default : EntryPoint := ⟨"Main", "main"⟩

def symbol (entry : EntryPoint) : String := entry.unit ++ "_" ++ entry.function

def render (entry : EntryPoint) : String := entry.unit ++ "." ++ entry.function

end EntryPoint

-- Variables and their values, which need not be UTF-8; of two settings the later one holds.
abbrev Environment := List (String × Octets)

namespace Environment

def get? (environment : Environment) (name : String) : Option Octets :=
  (environment.reverse.find? (·.1 == name)).map (·.2)

def erase (environment : Environment) (name : String) : Environment :=
  environment.filter (·.1 != name)

def set (environment : Environment) (name : String) (value : Octets) : Environment :=
  environment.erase name ++ [(name, value)]

def usable? (environment : Environment) (name : String) : Option String := do
  let value ← environment.get? name >>= Utf8.decode?
  if value.toList.all Text.isBlank then none else some value

end Environment

structure Config where
  compiler : Option Octets
  flags : List String
  template : Option Octets
  entry : EntryPoint
  scratch : ScratchMode
deriving DecidableEq, Repr

namespace Config

def default : Config := ⟨none, [], none, .default, .auto⟩

-- The compiler of `MEMRUN_CC`, else of `CC`; the words of `MEMRUN_CFLAGS` as flags; the
-- template of `MEMRUN_TEMPLATE`. A variable without a usable value counts as unset.
def ofEnvironment (environment : Environment) : Config :=
  { default with
    compiler := (environment.usable? "MEMRUN_CC" <|> environment.usable? "CC").map Octets.ofString
    flags := match environment.usable? "MEMRUN_CFLAGS" with
      | some flags => (Text.words flags.toList).map String.ofList
      | none => []
    template := (environment.usable? "MEMRUN_TEMPLATE").map Octets.ofString }

end Config
end Fragment
