import Fragment.Fault.Os
import Fragment.Skeleton
import Fragment.Store
import Fragment.Text.Decode
/-!
Everything that can go wrong between a fragment and the end of its run, by stage, and how each is
told: a message, a code, sometimes advice, and the messages of its causes, outermost first.
-/
namespace Fragment

inductive LibraryFault where
  | refused (text : String)
  | silent
  -- The name holds the octet zero at that place, before its last octet.
  | innerNul (position : Nat)
  -- The same, in a name that ends in the octet zero.
  | innerNulTerminated (position : Nat)
deriving DecidableEq, Repr

inductive ConfigFault where
  | templateUnreadable (path : Octets) (cause : OsFault)
  | template (fault : TemplateFault)
deriving DecidableEq, Repr

inductive ToolchainFault where
  | unavailable (searched : List String)
  | spawn (program : Octets) (cause : OsFault)
  | scratch (name : String) (cause : OsFault)
  | store (fault : SealedFault)
deriving DecidableEq, Repr

inductive LoaderFault where
  | closed (name : String)
  | notFound (name : String)
  | incomplete (name : String)
  | define (name : String) (cause : LibraryFault)
  -- The artifact could not be put where the dynamic loader finds it.
  | backing (name : String) (cause : OsFault)
deriving DecidableEq, Repr

inductive InvokeFault where
  | loader (fault : LoaderFault)
  | functionNotFound (unit symbol : String) (cause : LibraryFault)
  | invalidArgument (index : Nat)
  | tooManyArguments (count : Nat)
  | failed (symbol : String) (status : Int)
deriving DecidableEq, Repr

inductive LaunchFault where
  | config (fault : ConfigFault)
  | toolchain (fault : ToolchainFault)
  | loader (fault : LoaderFault)
  | invoke (fault : InvokeFault)
deriving DecidableEq, Repr

structure Account where
  message : String
  code : Option String
  help : Option String
  causes : List String
deriving DecidableEq, Repr

def pathText (path : Octets) : String := Utf8.lossy path

namespace LibraryFault

def messages : LibraryFault → List String
  | .refused text => [text]
  | .silent => ["dlopen failed, but system did not report the error"]
  | .innerNul position =>
    ["could not create a C string from bytes", (OsFault.nulAt position).message]
  | .innerNulTerminated position =>
    ["could not create a C string from bytes with trailing null",
      "data provided contains an interior nul byte at byte pos " ++ toString position]

end LibraryFault

def ConfigFault.account : ConfigFault → Account
  | .templateUnreadable path cause =>
    { message := "Failed to read template '" ++ pathText path ++ "'"
      code := some "memrun::config::template_unreadable"
      help := some "Check the template path, or unset it to use the bundled skeleton."
      causes := [cause.message] }
  | .template (.malformed found offset) =>
    { message := "Template contains an unsupported format sequence '%" ++ found.toString ++
        "' at byte " ++ toString offset
      code := some "memrun::config::malformed_template"
      help := some
        "Only '%s' (the statement placeholder) and '%%' (a literal '%') are recognized."
      causes := [] }
  | .template (.gaps count) =>
    { message := "Template must contain exactly one '%s' placeholder, found " ++ toString count
      code := some "memrun::config::placeholder_count"
      help := none
      causes := [] }

def SealedFault.message (fault : SealedFault) : String :=
  "Output store is sealed, cannot open '" ++ fault.name ++ "' for writing"

def SealedFault.account (fault : SealedFault) : Account :=
  ⟨fault.message, some "memrun::store::sealed", none, []⟩

def ToolchainFault.account : ToolchainFault → Account
  | .unavailable searched =>
    { message := "No C compiler found (searched: " ++ ", ".intercalate searched ++ ")"
      code := some "memrun::toolchain::unavailable"
      help := some "Install a C toolchain or point MEMRUN_CC / CC at one."
      causes := [] }
  | .spawn program cause =>
    { message := "Failed to run compiler '" ++ pathText program ++ "'"
      code := some "memrun::toolchain::spawn"
      help := none
      causes := [cause.message] }
  | .scratch name cause =>
    { message := "Failed to prepare in-memory scratch file for '" ++ name ++ "'"
      code := some "memrun::toolchain::scratch"
      help := none
      causes := [cause.message] }
  | .store fault => ⟨fault.message, some "memrun::toolchain::store", none, []⟩

def LoaderFault.account : LoaderFault → Account
  | .closed name =>
    ⟨"Loader scope is closed, cannot resolve '" ++ name ++ "'", some "memrun::loader::closed",
      none, []⟩
  | .notFound name =>
    ⟨"Unit '" ++ name ++ "' not found", some "memrun::loader::not_found", none, []⟩
  | .incomplete name =>
    ⟨"Unit '" ++ name ++ "' is still being written", some "memrun::loader::incomplete", none, []⟩
  | .define name cause =>
    ⟨"Failed to define unit '" ++ name ++ "'", some "memrun::loader::define", none,
      cause.messages⟩
  | .backing name cause =>
    ⟨"Failed to back unit '" ++ name ++ "' with memory", some "memrun::loader::backing", none,
      [cause.message]⟩

def InvokeFault.account : InvokeFault → Account
  | .loader fault => fault.account
  | .functionNotFound unit symbol cause =>
    { message := "Entry function '" ++ symbol ++ "' not found in unit '" ++ unit ++ "'"
      code := some "memrun::invoke::function_not_found"
      help := some "The skeleton must define the entry function the launcher looks up."
      causes := cause.messages }
  | .invalidArgument index =>
    ⟨"Argument " ++ toString index ++ " contains an interior NUL byte",
      some "memrun::invoke::invalid_argument", none, []⟩
  | .tooManyArguments count =>
    ⟨"Too many arguments (" ++ toString count ++ ")",
      some "memrun::invoke::too_many_arguments", none, []⟩
  | .failed symbol status =>
    ⟨"Entry function '" ++ symbol ++ "' failed", some "memrun::invoke::failed", none,
      ["exited with status " ++ toString status]⟩

namespace LaunchFault

def account : LaunchFault → Account
  | .config fault => fault.account
  | .toolchain fault => fault.account
  | .loader fault => fault.account
  | .invoke fault => fault.account

-- A unit that cannot be loaded is told as such, also when it was wanted for a call.
def ofInvoke : InvokeFault → LaunchFault
  | .loader fault => .loader fault
  | fault => .invoke fault

def isToolchainUnavailable : LaunchFault → Bool
  | .toolchain (.unavailable _) => true
  | _ => false

end LaunchFault
end Fragment
