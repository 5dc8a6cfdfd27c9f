import Fragment.Proofs.Command.Grammar
import Fragment.Proofs.Text.Encoding
import Fragment.Proofs.Text.Words
import Fragment.Proofs.Toolchain.Search
/-!
The configuration that the command runs with. A path comes from the first of its sources that gives
one, the flags of the environment stand before those of the command line, and each field is settled
by its own variables and options alone.
-/
namespace Fragment.Command

-- Where a path can come from: the command line, or a variable. A variable gives its value as it is,
-- if that is a text with something in it that is not white space.
inductive PathSource where
  | option (given : Option Octets)
  | named (name : String)

def PathSource.Gives (environment : Environment) : PathSource → Octets → Prop
  | .option given, path => given = some path
  | .named name, path => environment.get? name = some path ∧
    ∃ text : String, path = Octets.ofString text ∧ ∃ c ∈ text.toList, Text.isBlank c = false

-- The path is that of the first source that gives any.
def Chosen (environment : Environment) (sources : List PathSource) (path : Octets) : Prop :=
  ∃ source, Toolchain.IsFirst (fun other => ∃ any, other.Gives environment any) sources source ∧
    source.Gives environment path

-- The flags are the runs of the variable's text without white space, if it has a text.
def Flagged (environment : Environment) (name : String) (flags : List String) : Prop :=
  (∀ text : String, environment.get? name = some (Octets.ofString text) →
    ∃ lead parts, Text.Apart lead parts ∧ text.toList = Text.spread lead parts ∧
      flags = parts.map fun part => String.ofList part.1) ∧
  ((∀ text : String, environment.get? name ≠ some (Octets.ofString text)) → flags = [])

structure Configured (environment : Environment) (o : Options) (config : Config) : Prop where
  compiler : ∀ path, config.compiler = some path ↔
    Chosen environment [.option o.compiler, .named "MEMRUN_CC", .named "CC"] path
  template : ∀ path, config.template = some path ↔
    Chosen environment [.option o.template, .named "MEMRUN_TEMPLATE"] path
  flags : ∃ own, Flagged environment "MEMRUN_CFLAGS" own ∧ config.flags = own ++ o.flags
  scratch : config.scratch = if o.privateDir then .privateDir else .auto
  entry : config.entry = .default

section environment

variable (environment : Environment)

theorem usable_iff (name text : String) :
    environment.usable? name = some text ↔ environment.get? name = some (Octets.ofString text) ∧
      ∃ c ∈ text.toList, Text.isBlank c = false := by
  have decoded (value : String) : environment.get? name >>= Utf8.decode? = some value ↔
      environment.get? name = some (Octets.ofString value) := by
    simp [Option.bind_eq_some_iff, Utf8.decode_iff]
  rw [Environment.usable?, Option.bind_eq_bind, Option.bind_eq_some_iff]
  constructor
  · rintro ⟨value, known, kept⟩
    split at kept
    · cases kept
    · rename_i visible
      obtain rfl := Option.some.inj kept
      exact ⟨(decoded value).mp known, by simpa using visible⟩
  · rintro ⟨known, c, member, visible⟩
    refine ⟨text, (decoded text).mpr known, if_neg fun all => ?_⟩
    rw [List.all_eq_true.mp all c member] at visible
    cases visible

theorem usable_same (environment' : Environment) (name : String)
    (same : environment'.get? name = environment.get? name) :
    environment'.usable? name = environment.usable? name := by
  rw [Environment.usable?, Environment.usable?, same]

def PathSource.read? : PathSource → Option Octets
  | .option given => given
  | .named name => (environment.usable? name).map Octets.ofString

theorem gives_iff (source : PathSource) (path : Octets) :
    source.Gives environment path ↔ source.read? environment = some path := by
  cases source with
  | option given => exact Iff.rfl
  | named name =>
    rw [PathSource.read?, Option.map_eq_some_iff]
    simp only [usable_iff, PathSource.Gives]
    constructor
    · rintro ⟨known, text, rfl, visible⟩
      exact ⟨text, ⟨known, visible⟩, rfl⟩
    · rintro ⟨text, ⟨known, visible⟩, rfl⟩
      exact ⟨known, text, rfl, visible⟩

theorem chosen_iff (sources : List PathSource) (path : Octets) :
    sources.findSome? (PathSource.read? environment) = some path ↔
      Chosen environment sources path := by
  have silent (source : PathSource) : source.read? environment = none ↔
      ¬ ∃ any, source.Gives environment any := by
    simp [gives_iff, Option.eq_none_iff_forall_ne_some]
  rw [List.findSome?_eq_some_iff]
  constructor
  · rintro ⟨before, source, behind, shape, read, missed⟩
    have gives := (gives_iff environment source path).mpr read
    exact ⟨source, ⟨before, behind, shape, ⟨path, gives⟩,
      fun other member => (silent other).mp (missed other member)⟩, gives⟩
  · rintro ⟨source, ⟨before, behind, shape, -, missed⟩, gives⟩
    exact ⟨before, source, behind, shape, (gives_iff environment source path).mp gives,
      fun other member => (silent other).mpr (missed other member)⟩

theorem environment_flags (text : String)
    (known : environment.get? "MEMRUN_CFLAGS" = some (Octets.ofString text)) :
    (Config.ofEnvironment environment).flags = (Text.words text.toList).map String.ofList := by
  by_cases visible : ∃ c ∈ text.toList, Text.isBlank c = false
  · have usable := (usable_iff environment "MEMRUN_CFLAGS" text).mpr ⟨known, visible⟩
    simp only [Config.ofEnvironment, usable]
  · have blank : ∀ c ∈ text.toList, Text.isBlank c = true := by simpa using visible
    rw [Text.words_none text.toList blank, Config.ofEnvironment]
    dsimp only
    split
    · rename_i other usable
      obtain ⟨known', c, member, solid⟩ := (usable_iff environment _ other).mp usable
      rw [known, Option.some.injEq, Octets.of_string_inj] at known'
      rw [blank c (known' ▸ member)] at solid
      cases solid
    · rfl

theorem environment_flagged :
    Flagged environment "MEMRUN_CFLAGS" (Config.ofEnvironment environment).flags := by
  constructor
  · intro text known
    obtain ⟨lead, parts, apart, shape, cut⟩ := (Text.words_iff text.toList _).mp rfl
    refine ⟨lead, parts, apart, shape, ?_⟩
    rw [environment_flags environment text known, cut, List.map_map]
    rfl
  · intro unread
    rw [Config.ofEnvironment]
    dsimp only
    split
    · rename_i text usable
      exact absurd ((usable_iff environment _ text).mp usable).1 (unread text)
    · rfl

theorem flagged_unique (name : String) (flags flags' : List String)
    (one : Flagged environment name flags) (other : Flagged environment name flags') :
    flags = flags' := by
  by_cases known : ∃ text, environment.get? name = some (Octets.ofString text)
  · obtain ⟨text, known⟩ := known
    obtain ⟨lead, parts, apart, shape, rfl⟩ := one.1 text known
    obtain ⟨lead', parts', apart', shape', rfl⟩ := other.1 text known
    have words := Text.words_spread lead parts apart
    rw [← shape, shape', Text.words_spread lead' parts' apart'] at words
    have same := congrArg (List.map String.ofList) words
    rw [List.map_map, List.map_map] at same
    exact same.symm
  · have unread : ∀ text : String, environment.get? name ≠ some (Octets.ofString text) := by
      simpa using known
    rw [one.2 unread, other.2 unread]

end environment

section configuration

variable (environment : Environment) (o : Options)

theorem config_compiler : (o.config environment).compiler =
    [.option o.compiler, .named "MEMRUN_CC", .named "CC"].findSome?
      (PathSource.read? environment) := by
  simp only [Options.config, Config.ofEnvironment, List.findSome?_cons, PathSource.read?]
  cases o.compiler <;> cases environment.usable? "MEMRUN_CC" <;> cases environment.usable? "CC" <;> rfl

theorem config_template : (o.config environment).template =
    [.option o.template, .named "MEMRUN_TEMPLATE"].findSome? (PathSource.read? environment) := by
  simp only [Options.config, Config.ofEnvironment, List.findSome?_cons, PathSource.read?]
  cases o.template <;> cases environment.usable? "MEMRUN_TEMPLATE" <;> rfl

theorem config_configured : Configured environment o (o.config environment) where
  compiler path := by rw [config_compiler, chosen_iff]
  template path := by rw [config_template, chosen_iff]
  flags := ⟨_, environment_flagged environment, rfl⟩
  scratch := rfl
  entry := rfl

theorem configured_unique (config : Config) (configured : Configured environment o config) :
    config = o.config environment := by
  have own := config_configured environment o
  obtain ⟨flags, flagged, joined⟩ := configured.flags
  obtain ⟨flags', flagged', joined'⟩ := own.flags
  have same := flagged_unique environment _ flags flags' flagged flagged'
  have compiler : config.compiler = (o.config environment).compiler :=
    Option.ext fun path => (configured.compiler path).trans (own.compiler path).symm
  have template : config.template = (o.config environment).template :=
    Option.ext fun path => (configured.template path).trans (own.template path).symm
  have listed : config.flags = (o.config environment).flags := by rw [joined, joined', same]
  cases config
  exact (Config.mk.injEq ..).mpr ⟨compiler, listed, template,
    configured.entry.trans own.entry.symm, configured.scratch.trans own.scratch.symm⟩

end configuration

-- Fields that agree wherever the settings agree that they are made of.
structure Separate (environment environment' : Environment) (o o' : Options) : Prop where
  compiler : environment'.get? "MEMRUN_CC" = environment.get? "MEMRUN_CC" →
    environment'.get? "CC" = environment.get? "CC" → o'.compiler = o.compiler →
    (o'.config environment').compiler = (o.config environment).compiler
  template : environment'.get? "MEMRUN_TEMPLATE" = environment.get? "MEMRUN_TEMPLATE" →
    o'.template = o.template → (o'.config environment').template = (o.config environment).template
  flags : environment'.get? "MEMRUN_CFLAGS" = environment.get? "MEMRUN_CFLAGS" →
    o'.flags = o.flags → (o'.config environment').flags = (o.config environment).flags
  scratch : o'.privateDir = o.privateDir →
    (o'.config environment').scratch = (o.config environment).scratch
  entry : (o'.config environment').entry = (o.config environment).entry

theorem config_separate (environment environment' : Environment) (o o' : Options) :
    Separate environment environment' o o' := by
  refine ⟨fun first second given => ?_, fun known given => ?_, fun known given => ?_,
    fun given => ?_, rfl⟩
  · simp only [Options.config, Config.ofEnvironment, usable_same _ _ _ first,
      usable_same _ _ _ second, given]
  · simp only [Options.config, Config.ofEnvironment, usable_same _ _ _ known, given]
  · simp only [Options.config, Config.ofEnvironment, usable_same _ _ _ known, given]
  · simp only [Options.config, Config.ofEnvironment, given]

theorem configuration_settled (environment : Environment) (o : Options) :
    (∀ config, config = o.config environment ↔ Configured environment o config) ∧
    (∀ lead parts, Text.Apart lead parts →
      environment.get? "MEMRUN_CFLAGS" =
        some (Octets.ofString (String.ofList (Text.spread lead parts))) →
      (o.config environment).flags = parts.map (fun part => String.ofList part.1) ++ o.flags) ∧
    (∀ environment' o', Separate environment environment' o o') ∧
    ∀ line, Options.parse line = .ok o →
      ∃ given, Options.Spells none line given ∧ Options.Gathers .default given o := by
  refine ⟨fun config => ⟨?_, configured_unique environment o config⟩, ?_,
    fun environment' o' => config_separate environment environment' o o', ?_⟩
  · rintro rfl
    exact config_configured environment o
  · intro lead parts apart known
    have own := environment_flags environment _ known
    rw [String.toList_ofList, Text.words_spread lead parts apart, List.map_map] at own
    exact congrArg (· ++ o.flags) own
  · exact fun line parsed => Options.parse_told line o parsed

def unevenEnvironment : Environment :=
  [("CC", Octets.ofString " clang"), ("MEMRUN_CC", Octets.ofString "\u00A0"),
    ("MEMRUN_CFLAGS", Octets.ofString "\t-O2\u2003 -lm"), ("MEMRUN_TEMPLATE", [0xFF])]

def unevenLine : List String :=
  ["--cflag", "--", "--private-dir", "--template=t.c", "--cflag=-a b", "x"]

def unevenOptions : Options :=
  { Options.default with
    statements := some "x"
    template := some (Octets.ofString "t.c")
    flags := ["--", "-a b"]
    privateDir := true }

def unevenConfig : Config where
  compiler := some (Octets.ofString " clang")
  flags := ["-O2", "-lm", "--", "-a b"]
  template := some (Octets.ofString "t.c")
  entry := .default
  scratch := .privateDir

theorem uneven_configuration_settled :
    Options.parse unevenLine = .ok unevenOptions ∧
    Configured unevenEnvironment unevenOptions unevenConfig ∧
    (unevenOptions.config unevenEnvironment).flags = ["-O2", "-lm"] ++ ["--", "-a b"] ∧
    (Options.default.config (unevenEnvironment.erase "MEMRUN_CFLAGS")).compiler =
      some (Octets.ofString " clang") ∧
    ∃ given, Options.Spells none unevenLine given ∧
      Options.Gathers .default given unevenOptions := by
  have parsed : Options.parse unevenLine = .ok unevenOptions := by rfl
  have apart : Text.Apart ['\t'] [(['-', 'O', '2'], ['\u2003', ' ']), (['-', 'l', 'm'], [])] := by
    refine ⟨by simp [Text.isBlank], ?_, by simp [Text.isBlank], by decide⟩
    simp only [List.forall_mem_cons]
    exact ⟨⟨by decide, by simp [Text.isBlank]⟩, ⟨by decide, by simp [Text.isBlank]⟩, by simp⟩
  obtain ⟨settled, joined, separate, told⟩ := configuration_settled unevenEnvironment unevenOptions
  exact ⟨parsed, (settled unevenConfig).mp (by decide +kernel), joined _ _ apart (by decide +kernel),
    (separate (unevenEnvironment.erase "MEMRUN_CFLAGS") .default).compiler (by decide) (by decide) rfl,
    told unevenLine parsed⟩

end Fragment.Command
