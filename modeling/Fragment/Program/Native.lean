import Fragment.Program.Compiler
import Fragment.Program.Evaluation
/-!
The platform on which fragments run: its compiler is the one of this library, its loader takes the
objects that this compiler writes, and it calls their functions by evaluating them.
-/
namespace Fragment.Program.Native

def compilers : List Path := ["/usr/bin/cc", "/usr/bin/gcc"].map Path.ofString

def installed : FileTree :=
  compilers.foldl (fun tree path => tree.add path (.file 0o755 [])) .empty

def spawn (i : Invocation) (p : Process Machine) : Except OsFault Run × Process Machine :=
  match p.files.locate i.program with
  | .error cause => (.error cause, p)
  | .ok location =>
    let path : Path := location.flatMap fun name => Path.slash :: name
    if compilers.contains path then (.ok (compileRun p.files i.arguments i.input), p)
    else (.error .execFormat, p)

-- Does an action, unless the process has ended. An end of the process is noted, and what is
-- still in the buffers of standard output is lost.
def perform {α : Type} (act : Act α) (p : Process Machine) : Option α × Process Machine :=
  if p.ended.isSome then (none, p)
  else match act.run p with
    | .ok a p => (some a, p)
    | .error ending p =>
      (none, { p with ended := some ending, stdout := { p.stdout with host := [], loaded := [] } })

-- Names that libraries of the system offer beyond the functions that can be called here.
def otherNames : List String := ["environ", "errno", "fork", "execve", "execvp", "waitpid", "wait",
  "open", "close", "lseek", "stat", "fstat", "mkdir", "rmdir", "chdir", "getcwd", "dup", "dup2", "pipe",
  "mmap", "munmap", "mprotect", "memfd_create", "dlopen", "dlsym", "dlclose", "dlerror",
  "pthread_create", "pthread_join", "pthread_mutex_lock", "pthread_mutex_unlock", "socket", "bind",
  "listen", "accept", "connect", "send", "recv", "select", "poll", "epoll_create", "gettimeofday",
  "clock_gettime", "nanosleep", "localtime", "gmtime", "mktime", "strftime", "popen", "pclose", "fdopen",
  "getline", "getdelim", "strtok_r", "strsep", "strtof", "strtold", "wcslen", "mbstowcs", "setlocale",
  "qsort_r", "getpid", "getppid", "getuid", "geteuid", "getgid", "gethostname", "uname", "sysconf",
  "setjmp", "longjmp", "_setjmp", "sigaction", "sigprocmask", "alarm", "pause", "kill", "killpg",
  "malloc_usable_size", "posix_memalign", "aligned_alloc", "memalign", "vdprintf", "asprintf",
  "vasprintf", "fputs_unlocked", "index", "rindex", "bcopy", "bzero", "ffs", "mempcpy", "memrchr",
  "memmem", "rawmemchr", "strchrnul", "getopt", "optarg", "optind", "gnu_get_libc_version",
  "__libc_start_main", "secure_getenv", "abs", "syscall", "readlink", "symlink", "link", "opendir",
  "readdir", "closedir", "scandir", "ftruncate", "truncate", "chmod", "fchmod", "chown", "umask"]

def otherMathematics : List String := ["sinh", "cosh", "tanh", "asinh", "acosh", "atanh", "exp2",
  "expm1", "log1p", "hypot", "lround", "llround", "rint", "nearbyint", "lrint", "fmin", "fmax", "fdim",
  "fma", "erf", "erfc", "tgamma", "lgamma", "ldexp", "frexp", "modf", "scalbn", "ilogb", "logb",
  "copysign", "nextafter", "remainder", "remquo", "sinf", "cosf", "tanf", "sqrtf", "powf", "expf", "logf",
  "fabsf", "floorf", "ceilf", "fmodf", "roundf", "truncf", "sinl", "cosl", "sqrtl", "powl", "sincos",
  "j0", "y0", "signgam"]

def inGeneral (name : String) : Bool :=
  (Library.functions.lookup name).isSome && name != "alloca" || Machine.streamNames.contains name ||
    otherNames.contains name

def inMathematics (name : String) : Bool :=
  (Library.mathematics.lookup name).isSome || otherMathematics.contains name

def libraries : List (String × (String → Bool)) := [
  ("libc.so.6", inGeneral),
  ("libm.so.6", fun name => inMathematics name || inGeneral name),
  ("libpthread.so.0", inGeneral), ("libdl.so.2", inGeneral), ("librt.so.1", inGeneral),
  ("libgcc_s.so.1", inGeneral), ("libutil.so.1", inGeneral),
  ("ld-linux-x86-64.so.2", fun _ => false), ("", inGeneral)]

def directories : List String := ["/lib/x86_64-linux-gnu/", "/usr/lib/x86_64-linux-gnu/"]

def library? (path : Path) : Option (String → Bool) :=
  let name := Utf8.lossy path
  libraries.findSome? fun (library, offers) =>
    if name == library || library != "" && directories.any (fun d => name == d ++ library) then
      some offers
    else none

/-! Loading. -/

def standardAddress (name : String) : Act Nat := do
  match (← Act.machine).standards[name]? with
  | some address => return address
  | none =>
    let address ← Act.addBlock (.standard name)
    Act.modifyMachine fun m => { m with standards := m.standards.insert name address }
    return address

def isStandard (name : String) : Bool :=
  (Library.allFunctions.lookup name).isSome || Machine.streamNames.contains name

def placeAll (n : Nat) (image : Image) : Act (List (String × Nat)) := do
  let mut places : List (String × Nat) := []
  for r in image.routines do
    places := (r.name, ← Act.addBlock (.routine n r.name [])) :: places
  for d in image.data do
    places := (d.name, ← Act.allocate d.size) :: places
  return places

-- What names stand for in the code of an image: a name that others can see, and that the
-- standard library has, is that of the standard library.
def bindAll (image : Image) (places : List (String × Nat)) : Act (Std.HashMap String Nat) := do
  let mut symbols : Std.HashMap String Nat := ∅
  for (name, address) in places do
    let link := image.linkName name
    if image.exported.contains name && isStandard link then
      symbols := symbols.insert name (← standardAddress link)
    else symbols := symbols.insert name address
  for name in image.needed do
    let link := image.linkName name
    if isStandard link then symbols := symbols.insert name (← standardAddress link)
  return symbols

def runConstructors (n : Nat) (l : Loaded) : Act Unit := do
  for d in l.image.data do
    for code in d.content do
      let _ ← Act.eval (fun _ _ => Act.badAccess) ⟨n, 0, [], 0⟩ code
  for name in l.image.constructors do
    match l.symbols[name]? with
    | some address => let _ ← Act.enter n address []
    | none => pure ()

def freshLibrary (path : Path) (offers : String → Bool) : Act (Nat × Loaded) := do
  let n := (← Act.machine).nextLibrary
  let l : Loaded := { path, holders := 1, image := default, routines := ∅, symbols := ∅, texts := #[],
                      offers, exports := ∅ }
  Act.modifyMachine fun m => { m with
    nextLibrary := n + 1
    libraries := m.libraries ++ [(n, l)] }
  return (n, l)

def setLibrary (n : Nat) (l : Loaded) : Act Unit := Act.modifyMachine fun m =>
  { m with libraries := m.libraries.map fun (k, old) => (k, if k = n then l else old) }

def loadImage (path : Path) (needed : List String) (image : Image) : Act Nat := do
  let offers (name : String) : Bool :=
    inGeneral name || needed.contains "m" && inMathematics name
  let (n, l) ← freshLibrary path offers
  let places ← placeAll n image
  let symbols ← bindAll image places
  let mut texts : Array Nat := #[]
  for octets in image.texts do
    texts := texts.push (← Act.allocateWith octets)
  let l := { l with
    image
    routines := Std.HashMap.ofList (image.routines.map fun r => (r.name, r))
    symbols
    texts
    exports := Std.HashMap.ofList (places.filterMap fun (name, address) =>
      if image.exported.contains name then some (image.linkName name, address) else none) }
  setLibrary n l
  runConstructors n l
  return n

def imageOf (payload : Octets) : List String × Image :=
  let text := Utf8.lossyChars payload
  let first := text.takeWhile (· != '\n')
  let tokens := (tokenLines "" (text.drop (first.length + 1))).flatten
  (((String.ofList first).splitOn " ").filter (!·.isEmpty), (readUnit tokens).1)

def loaded? (path : Path) (p : Process Machine) : Option (Nat × Loaded) :=
  p.code.libraries.find? fun (_, l) => l.path == path

def load (path : Path) (content : Option Octets) (p : Process Machine) :
    Except LibraryFault Library × Process Machine :=
  let enter (act : Act Nat) : Except LibraryFault Library × Process Machine :=
    match perform act p with
    | (some n, p) => (.ok n, p)
    | (none, p) => (.ok p.code.nextLibrary.pred, p)
  match loaded? path p with
  | some (n, l) => enter do
      setLibrary n { l with holders := l.holders + 1 }
      return n
  | none => match library? path with
    | some offers => enter do return (← freshLibrary path offers).1
    | none =>
      let found : Except OsFault Octets := match content with
        | some octets => .ok octets
        | none => if path.contains Path.slash then p.files.read path else .error .noSuchFile
      match found with
      | .error cause =>
        let text := match cause with
          | .number n => (errorTexts.lookup n).getD ""
          | .text t => t
        (.error (.refused (Utf8.lossy path ++ ": cannot open shared object file: " ++ text)), p)
      | .ok octets => match Object.read path octets with
        | .error fault => (.error fault, p)
        | .ok payload =>
          let (needed, image) := imageOf payload
          enter (loadImage path needed image)

def symbol (n : Library) (name : Octets) (p : Process Machine) : Except LibraryFault Unit :=
  let refuse := .error (.refused ("undefined symbol: " ++ Utf8.lossy name))
  match p.code.libraries.lookup n, Utf8.decode? name with
  | some l, some name =>
    if (l.exports[name]?).isSome || l.offers name then .ok () else refuse
  | _, _ => refuse

def placeArguments : List (Option Octets) → Act Octets
  | [] => return []
  | a :: rest => do
    let address ← match a with
      | some octets => Act.allocateWith octets
      | none => pure 0
    return littleEndian 8 address ++ (← placeArguments rest)

def call (n : Library) (name : Octets) (count : Nat) (arguments : List (Option Octets))
    (p : Process Machine) : Int × Process Machine :=
  let act : Act Int := do
    let own := ((← Act.library? n).bind fun l => (Utf8.decode? name).bind fun s => l.exports[s]?)
    let address ← match own with
      | some address => pure address
      | none => standardAddress (Utf8.lossy name)
    let vector ← Act.allocateWith (← placeArguments arguments)
    let v ← Act.enter n address [.integer count, .integer vector]
    return (Shape.integer 4 true).wrap v.toInt
  match perform act p with
  | (some status, p) => (status, p)
  | (none, p) => (0, p)

def unload (n : Library) (p : Process Machine) : Process Machine :=
  let act : Act Unit := do
    match ← Act.library? n with
    | none => return
    | some l =>
      if 1 < l.holders then setLibrary n { l with holders := l.holders - 1 }
      else
        Act.modifyMachine fun m => { m with current := n }
        Library.runDestructors (Act.call Act.depthLimit) l
        Library.runAtEnd (Act.call Act.depthLimit) (some n) 1000
        Act.modifyMachine fun m =>
          { m with libraries := m.libraries.filter fun (k, _) => k != n }
  (perform act p).2

def freshDescriptor (used : List Nat) : Nat :=
  ((List.range (used.length + 1)).map (· + 3)).find? (!used.contains ·) |>.getD 3

def freshDirectory (files : FileTree) : Octets :=
  let name (n : Nat) : Octets :=
    let digits := Nat.toDigits 16 (n + Nat.pow 16 5)
    Octets.ofString ("memrun-" ++ String.ofList digits)
  let taken (n : Nat) : Bool := (files.entry? [Path.ofString "tmp", name n]).isSome
  name (((List.range (files.entries.length + 1)).find? fun n => !taken n).getD 0)

def platform : Platform Machine where
  spawn := spawn
  load := load
  symbol := symbol
  call := call
  unload := unload
  hasMemoryFiles := true
  refusal _ _ := none
  freshDescriptor := freshDescriptor
  freshDirectory := freshDirectory

end Fragment.Program.Native
