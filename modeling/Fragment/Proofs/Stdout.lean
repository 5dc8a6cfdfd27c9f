import Fragment.Proofs.Invoke
/-!
The order of output. A `Scene` is standard output in the middle of things: with all that has been
printed so far, and whether an entry function is running. Each moment keeps it in order, provided that
the host's buffer is empty when a call begins and that of loaded code when it ends; the two flushes
of an invocation see to both.
-/
namespace Fragment

variable {σ : Type}

namespace Stdout

def Action.printed : Action → Octets
  | .hostPrint octets | .loadedPrint octets => octets
  | .hostSpill _ | .loadedSpill _ => []

-- Whose turn it is to print: that of loaded code while it is called, else the host's.
def Action.fits (calling : Bool) : Action → Prop
  | .hostPrint _ => calling = false
  | .loadedPrint _ => calling = true
  | .hostSpill _ | .loadedSpill _ => True

-- Nothing was printed meanwhile, and the host's buffer may have been passed on in part.
def Idle (before after : Stdout) : Prop := ∃ count, after = before.act (.hostSpill count)

theorem idle_refl (out : Stdout) : Idle out out := ⟨0, by simp [act]⟩

theorem idle_trans (a b c : Stdout) (first : Idle a b) (second : Idle b c) : Idle a c := by
  obtain ⟨n, rfl⟩ := first
  obtain ⟨m, rfl⟩ := second
  refine ⟨n + m, ?_⟩
  simp [act, List.take_add, List.drop_drop]

-- The one spill that accounts for an idle time.
def spill (before after : Stdout) : Action := .hostSpill (before.host.length - after.host.length)

theorem idle_spill (before after : Stdout) (idle : Idle before after) :
    before.act (spill before after) = after := by
  obtain ⟨count, rfl⟩ := idle
  by_cases short : before.host.length ≤ count
  · simp [act, spill, List.take_of_length_le short, List.drop_eq_nil_of_le short]
  · have exact_count : before.host.length - (before.host.length - count) = count := by omega
    simp [act, spill, exact_count]

end Stdout

inductive Moment where
  | act (action : Stdout.Action)
  | enter
  | leave

def Moment.printed : Moment → Octets
  | .act action => action.printed
  | .enter | .leave => []

structure Scene where
  out : Stdout
  printed : Octets
  calling : Bool

namespace Scene

-- Before anything is printed that is not in the buffers already.
def start (out : Stdout) : Scene := ⟨out, out.written ++ out.host, false⟩

def after (scene : Scene) : Moment → Scene
  | .act action =>
    { scene with out := scene.out.act action, printed := scene.printed ++ action.printed }
  | .enter => { scene with calling := true }
  | .leave => { scene with calling := false }

def follow (scene : Scene) (moments : List Moment) : Scene := moments.foldl after scene

theorem follow_append (scene : Scene) (a b : List Moment) :
    scene.follow (a ++ b) = (scene.follow a).follow b := List.foldl_append ..

theorem follow_printed (scene : Scene) (moments : List Moment) :
    (scene.follow moments).printed = scene.printed ++ moments.flatMap Moment.printed := by
  induction moments generalizing scene with
  | nil => simp [follow]
  | cons moment rest ih =>
    have next : (scene.after moment).printed = scene.printed ++ moment.printed := by
      cases moment with
      | act action => rfl
      | enter | leave => exact (List.append_nil _).symm
    rw [List.flatMap_cons, ← List.append_assoc, ← next]
    exact ih (scene.after moment)

-- All that was printed went out or is in one of the buffers, in this order.
structure InOrder (scene : Scene) : Prop where
  kept : scene.out.written ++ scene.out.host ++ scene.out.loaded = scene.printed
  quiet : scene.calling = false → scene.out.loaded = []
  passed : scene.calling = true → scene.out.host = []

def Allows (scene : Scene) : Moment → Prop
  | .act action => action.fits scene.calling
  | .enter => scene.calling = false ∧ scene.out.host = []
  | .leave => scene.calling = true ∧ scene.out.loaded = []

theorem in_order_after (scene : Scene) (moment : Moment) (inOrder : scene.InOrder)
    (allowed : scene.Allows moment) : (scene.after moment).InOrder := by
  obtain ⟨kept, quiet, passed⟩ := inOrder
  cases moment with
  | enter =>
    obtain ⟨idle, empty⟩ := allowed
    exact ⟨kept, by simp [after], fun _ => empty⟩
  | leave =>
    obtain ⟨running, empty⟩ := allowed
    exact ⟨kept, fun _ => empty, by simp [after]⟩
  | act action =>
    cases action with
    | hostPrint octets =>
      have idle : scene.calling = false := allowed
      have empty := quiet idle
      refine ⟨?_, fun _ => empty, fun running => ?_⟩
      · simp [after, Stdout.act, Stdout.Action.printed, ← kept, empty]
      · simp [after, idle] at running
    | loadedPrint octets =>
      have running : scene.calling = true := allowed
      refine ⟨?_, fun idle => ?_, passed⟩
      · simp [after, Stdout.act, Stdout.Action.printed, ← kept]
      · simp [after, running] at idle
    | hostSpill count =>
      refine ⟨?_, quiet, fun running => ?_⟩
      · simp [after, Stdout.act, Stdout.Action.printed, ← kept]
      · simp [after, Stdout.act, passed running]
    | loadedSpill count =>
      -- What loaded code printed may go out only past an empty buffer of the host's.
      cases running : scene.calling with
      | false =>
        have empty := quiet running
        refine ⟨?_, fun _ => ?_, fun now => ?_⟩
        · simp [after, Stdout.act, Stdout.Action.printed, ← kept, empty]
        · simp [after, Stdout.act, empty]
        · simp [after, running] at now
      | true =>
        have empty := passed running
        refine ⟨?_, fun now => ?_, fun _ => empty⟩
        · simp [after, Stdout.act, Stdout.Action.printed, ← kept, empty]
        · simp [after, running] at now

def Lawful : Scene → List Moment → Prop
  | _, [] => True
  | scene, moment :: rest => scene.Allows moment ∧ Lawful (scene.after moment) rest

theorem lawful_append (scene : Scene) (a b : List Moment) :
    Lawful scene (a ++ b) ↔ Lawful scene a ∧ Lawful (scene.follow a) b := by
  induction a generalizing scene with
  | nil => simp [Lawful, follow]
  | cons moment rest ih =>
    rw [List.cons_append, Lawful, Lawful, ih, and_assoc]
    rfl

theorem in_order_follow (scene : Scene) (moments : List Moment) (inOrder : scene.InOrder)
    (lawful : Lawful scene moments) : (scene.follow moments).InOrder := by
  induction moments generalizing scene with
  | nil => exact inOrder
  | cons moment rest ih =>
    exact ih (scene.after moment) (in_order_after scene moment inOrder lawful.1) lawful.2

theorem follow_acts (scene : Scene) (actions : List Stdout.Action) :
    (scene.follow (actions.map .act)).out = actions.foldl Stdout.act scene.out ∧
      (scene.follow (actions.map .act)).calling = scene.calling := by
  induction actions generalizing scene with
  | nil => exact ⟨rfl, rfl⟩
  | cons action rest ih => exact ih (scene.after (.act action))

theorem lawful_acts (scene : Scene) (actions : List Stdout.Action)
    (fit : ∀ action ∈ actions, action.fits scene.calling) :
    Lawful scene (actions.map .act) := by
  induction actions generalizing scene with
  | nil => trivial
  | cons action rest ih =>
    exact ⟨fit action (by simp), ih (scene.after (.act action)) fun other member =>
      fit other (by simp [member])⟩

-- A call that does this to standard output, between two flushes. It runs until what it left in the
-- buffer of loaded code is out.
def call (out : Stdout) (said : List Stdout.Action) : List Moment :=
  [.act (.hostSpill out.host.length), .enter] ++ said.map .act ++
    [.act (.loadedSpill (said.foldl Stdout.act out.flushHost).loaded.length), .leave]

theorem follow_call (scene : Scene) (said : List Stdout.Action) (idle : scene.calling = false)
    (own : ∀ action ∈ said, action.fits true) :
    Lawful scene (call scene.out said) ∧
      (scene.follow (call scene.out said)).out =
        (said.foldl Stdout.act scene.out.flushHost).flushLoaded ∧
      (scene.follow (call scene.out said)).calling = false := by
  let entered := scene.follow [.act (.hostSpill scene.out.host.length), .enter]
  have out_entered : entered.out = scene.out.flushHost := rfl
  have running : entered.calling = true := rfl
  obtain ⟨spoken, still⟩ := entered.follow_acts said
  rw [out_entered] at spoken
  rw [running] at still
  have flushed : (entered.follow (said.map .act)).out.act
      (.loadedSpill (said.foldl Stdout.act scene.out.flushHost).loaded.length) =
      (said.foldl Stdout.act scene.out.flushHost).flushLoaded := by
    rw [spoken]
    rfl
  refine ⟨?_, ?_, ?_⟩
  · rw [call, lawful_append, lawful_append, follow_append]
    refine ⟨⟨⟨trivial, ⟨idle, ?_⟩, trivial⟩, ?_⟩, ⟨trivial, ⟨still, ?_⟩, trivial⟩⟩
    · exact Stdout.host_flushHost _
    · exact lawful_acts entered said own
    · exact (congrArg Stdout.loaded flushed).trans (Stdout.loaded_flushLoaded _)
  · rw [call, follow_append, follow_append]
    exact flushed
  · rw [call, follow_append]
    rfl

theorem in_order_start (out : Stdout) (unheld : out.loaded = []) : (start out).InOrder :=
  ⟨by simp [start, unheld], fun _ => unheld, by simp [start]⟩

end Scene

-- Loaded code prints only while it is called, and what a call does to standard output is a matter of
-- single actions. At all times the buffers may be passed on in part.
structure OnlyCallsPrint (P : Platform σ) where
  said : Library → Octets → Nat → List (Option Octets) → Process σ → List Stdout.Action
  called : ∀ library function count vector (process : Process σ),
    (P.call library function count vector process).2.stdout =
      (said library function count vector process).foldl Stdout.act process.stdout
  own : ∀ library function count vector process,
    ∀ action ∈ said library function count vector process, action.fits true
  loading : ∀ path content (process : Process σ),
    process.stdout.Idle (P.load path content process).2.stdout
  unloading : ∀ library (process : Process σ),
    process.stdout.Idle (P.unload library process).stdout

section idle

theorem Backing.create_stdout (P : Platform σ) (mode : ScratchMode) (unit : String)
    (octets : Octets) (w : World σ) :
    (create P mode unit octets w).2.process.stdout = w.process.stdout := by
  have created := create_created P mode unit octets w
  generalize (create P mode unit octets w).1 = made, (create P mode unit octets w).2 = w' at created ⊢
  cases created with
  | refused | unfilled | memory | unwritten | written => rfl

theorem Backing.discard_stdout (backing : Backing) (w : World σ) :
    (backing.discard w).process.stdout = w.process.stdout := by
  cases backing <;> rfl

variable {P : Platform σ} (V : OnlyCallsPrint P)
include V

theorem define_idle (mode : ScratchMode) (name : String) (octets : Octets) (w : World σ) :
    w.process.stdout.Idle (LoadedUnit.define P mode name octets w).2.process.stdout := by
  have defining := LoadedUnit.define_defining P mode name octets w
  have staged := Backing.create_stdout P mode name octets w
  generalize (LoadedUnit.define P mode name octets w).1 = made,
    (LoadedUnit.define P mode name octets w).2 = w' at defining ⊢
  cases defining with
  | unbacked cause _ created =>
    rw [created] at staged
    rw [staged]
    exact Stdout.idle_refl _
  | refused backing w'' created cause answer =>
    rw [created] at staged
    rw [Backing.discard_stdout, ← staged]
    exact V.loading backing.path (backing.content octets) w''.process
  | loaded backing w'' created library answer =>
    rw [created] at staged
    rw [← staged]
    exact V.loading backing.path (backing.content octets) w''.process

theorem resolve_idle (scope : Scope) (name : String) (w : World σ) :
    w.process.stdout.Idle (scope.resolve P name w).2.2.process.stdout := by
  have resolved := Scope.resolve_resolved P scope name w
  generalize (scope.resolve P name w).1 = answer, (scope.resolve P name w).2.1 = next,
    (scope.resolve P name w).2.2 = w' at resolved ⊢
  cases resolved with
  | closed | kept | unfinished | registered | missing => exact Stdout.idle_refl _
  | undefined _ artifact _ _ fault _ refused =>
    have idle := define_idle V scope.mode name artifact.octets w
    rwa [refused] at idle
  | defined _ _ artifact _ _ unit _ done =>
    have idle := define_idle V scope.mode name artifact.octets w
    rwa [done] at idle

theorem unload_idle (unit : LoadedUnit) (w : World σ) :
    w.process.stdout.Idle (LoadedUnit.unload P w unit).process.stdout := by
  have idle := V.unloading unit.library w.process
  unfold LoadedUnit.unload
  cases unit.backing with
  | none => exact idle
  | some backing =>
    show Stdout.Idle _ (backing.discard _).process.stdout
    rw [Backing.discard_stdout]
    exact idle

theorem unload_all_idle (released : List LoadedUnit) (w : World σ) :
    w.process.stdout.Idle (released.foldl (LoadedUnit.unload P) w).process.stdout := by
  induction released generalizing w with
  | nil => exact Stdout.idle_refl _
  | cons unit rest ih =>
    exact Stdout.idle_trans _ _ _ (unload_idle V unit w) (ih (LoadedUnit.unload P w unit))

theorem close_idle (scope : Scope) (held : List Nat) (w : World σ) :
    w.process.stdout.Idle (scope.close P held w).2.process.stdout := by
  unfold Scope.close
  split
  · exact unload_all_idle V _ w
  · exact Stdout.idle_refl _

end idle

-- What a host can do: print, wait while a buffer is passed on in part, invoke, and close a scope.
inductive Turn where
  | print (octets : Octets)
  | hostSpill (count : Nat)
  | loadedSpill (count : Nat)
  | invoke (scope : Scope) (entry : EntryPoint) (arguments : List String)
  | close (scope : Scope) (held : List Nat)

def Turn.take (P : Platform σ) (w : World σ) : Turn → World σ
  | .print octets => w.setStdout (w.process.stdout.act (.hostPrint octets))
  | .hostSpill count => w.setStdout (w.process.stdout.act (.hostSpill count))
  | .loadedSpill count => w.setStdout (w.process.stdout.act (.loadedSpill count))
  | .invoke scope entry arguments => (Fragment.invoke P scope entry arguments w).2.2
  | .close scope held => (scope.close P held w).2

namespace OnlyCallsPrint

variable {P : Platform σ} (V : OnlyCallsPrint P)

def during (unit : LoadedUnit) (function : Octets) (arguments : List String) (w : World σ) :
    List Moment :=
  Scene.call w.process.stdout (V.said unit.library function arguments.length
    (argumentVector arguments) (w.setStdout w.process.stdout.flushHost).process)

def moments (w : World σ) : Turn → List Moment
  | .print octets => [.act (.hostPrint octets)]
  | .hostSpill count => [.act (.hostSpill count)]
  | .loadedSpill count => [.act (.loadedSpill count)]
  | .invoke scope entry arguments =>
    let w' := (scope.resolve P entry.unit w).2.2
    .act (w.process.stdout.spill w'.process.stdout) ::
      match callee? P scope entry arguments w with
      | some (unit, function) => V.during unit function arguments w'
      | none => []
  | .close scope held =>
    [.act (w.process.stdout.spill (scope.close P held w).2.process.stdout)]

def timeline (w : World σ) : List Turn → List Moment
  | [] => []
  | turn :: rest => V.moments w turn ++ timeline (turn.take P w) rest

-- The scene between two turns of the host, in this world.
structure Between (scene : Scene) (w : World σ) : Prop where
  out_eq : scene.out = w.process.stdout
  idle : scene.calling = false

theorem between_act (scene : Scene) (w : World σ) (action : Stdout.Action)
    (between : Between scene w) :
    Between (scene.after (.act action)) (w.setStdout (w.process.stdout.act action)) :=
  ⟨congrArg (Stdout.act · action) between.out_eq, between.idle⟩

theorem between_idle (scene : Scene) (w w' : World σ) (between : Between scene w)
    (idle : w.process.stdout.Idle w'.process.stdout) :
    Between (scene.after (.act (w.process.stdout.spill w'.process.stdout))) w' := by
  refine ⟨?_, between.idle⟩
  have spilt := Stdout.idle_spill _ _ idle
  rw [← between.out_eq] at spilt ⊢
  exact spilt

theorem follow_during (scene : Scene) (unit : LoadedUnit) (symbol : String) (function : Octets)
    (arguments : List String) (w : World σ) (between : Between scene w) :
    Scene.Lawful scene (V.during unit function arguments w) ∧
      Between (scene.follow (V.during unit function arguments w))
        (callEntry P unit symbol function arguments w).2 := by
  obtain ⟨out, idle⟩ := between
  let asked := (w.setStdout w.process.stdout.flushHost).process
  have called := V.called unit.library function arguments.length (argumentVector arguments) asked
  have own := V.own unit.library function arguments.length (argumentVector arguments) asked
  obtain ⟨lawful, spoken, ended⟩ := Scene.follow_call scene _ idle own
  rw [out] at lawful spoken ended
  refine ⟨lawful, spoken.trans ?_, ended⟩
  exact congrArg Stdout.flushLoaded called.symm

theorem follow_invoke (scene : Scene) (asked : Scope) (entry : EntryPoint)
    (arguments : List String) (w : World σ) (between : Between scene w) :
    Scene.Lawful scene (V.moments w (.invoke asked entry arguments)) ∧
      Between (scene.follow (V.moments w (.invoke asked entry arguments)))
        (Turn.take P w (.invoke asked entry arguments)) := by
  have rested := between_idle scene w _ between (resolve_idle V asked entry.unit w)
  unfold moments Turn.take
  dsimp only
  cases reached : callee? P asked entry arguments w with
  | none =>
    have left := (invoke_not_called P asked entry arguments w
      (callee_none P asked entry arguments w reached)).left
    rw [left]
    exact ⟨⟨trivial, trivial⟩, rested⟩
  | some found =>
    obtain ⟨unit, function⟩ := found
    obtain ⟨linked, passable⟩ := callee_some P asked entry arguments w unit function reached
    rw [invoke_called P asked entry arguments w unit function _ linked passable]
    obtain ⟨lawful, ended⟩ := V.follow_during _ unit entry.symbol function arguments _ rested
    exact ⟨⟨trivial, lawful⟩, ended⟩

theorem follow_turn (scene : Scene) (w : World σ) (turn : Turn) (between : Between scene w) :
    Scene.Lawful scene (V.moments w turn) ∧
      Between (scene.follow (V.moments w turn)) (turn.take P w) := by
  cases turn with
  | print octets => exact ⟨⟨between.idle, trivial⟩, between_act scene w _ between⟩
  | hostSpill count | loadedSpill count =>
    exact ⟨⟨trivial, trivial⟩, between_act scene w _ between⟩
  | invoke asked entry arguments => exact V.follow_invoke scene asked entry arguments w between
  | close closed held =>
    exact ⟨⟨trivial, trivial⟩, between_idle scene w _ between (close_idle V closed held w)⟩

theorem follow_timeline (scene : Scene) (w : World σ) (turns : List Turn)
    (between : Between scene w) :
    Scene.Lawful scene (V.timeline w turns) ∧
      Between (scene.follow (V.timeline w turns)) (turns.foldl (Turn.take P) w) := by
  induction turns generalizing scene w with
  | nil => exact ⟨trivial, between⟩
  | cons turn rest ih =>
    obtain ⟨lawful, next⟩ := V.follow_turn scene w turn between
    obtain ⟨lawful', last⟩ := ih (scene.follow (V.moments w turn)) (turn.take P w) next
    rw [timeline, Scene.lawful_append, Scene.follow_append]
    exact ⟨⟨lawful, lawful'⟩, last⟩

theorem output_in_order (w : World σ) (turns : List Turn) (unheld : w.process.stdout.loaded = []) :
    (∀ past, past <+: V.timeline w turns →
      let scene := (Scene.start w.process.stdout).follow past
      scene.printed = w.process.stdout.written ++ w.process.stdout.host ++
          past.flatMap Moment.printed ∧
        scene.out.written <+: scene.printed ∧
        scene.out.written ++ scene.out.host ++ scene.out.loaded = scene.printed ∧
        (scene.calling = false → scene.out.loaded = []) ∧
        (scene.calling = true → scene.out.host = [])) ∧
    Between ((Scene.start w.process.stdout).follow (V.timeline w turns))
      (turns.foldl (Turn.take P) w) := by
  have begun : Between (Scene.start w.process.stdout) w := ⟨rfl, rfl⟩
  obtain ⟨lawful, ended⟩ := V.follow_timeline _ w turns begun
  refine ⟨?_, ended⟩
  rintro past ⟨future, whole⟩
  rw [← whole, Scene.lawful_append] at lawful
  obtain ⟨kept, quiet, passed⟩ :=
    Scene.in_order_follow _ past (Scene.in_order_start _ unheld) lawful.1
  exact ⟨Scene.follow_printed _ past, ⟨_, (List.append_assoc ..).symm.trans kept⟩, kept, quiet,
    passed⟩

end OnlyCallsPrint

-- A platform whose calls print two octets, one of which goes out at once, and return three.
def Platform.talking : Platform Unit :=
  { Platform.steady .quiet 3 with
    call := fun _ _ _ _ process =>
      (3, { process with stdout := (process.stdout.act (.loadedPrint [98, 99])).act (.loadedSpill 1) }) }

def OnlyCallsPrint.talking : OnlyCallsPrint .talking where
  said _ _ _ _ _ := [.loadedPrint [98, 99], .loadedSpill 1]
  called _ _ _ _ _ := rfl
  own _ _ _ _ _ action member := by
    simp only [List.mem_cons, List.not_mem_nil, or_false] at member
    rcases member with rfl | rfl
    · rfl
    · trivial
  loading _ _ _ := Stdout.idle_refl _
  unloading _ _ := Stdout.idle_refl _

-- The host prints, a call that fails prints, an invocation is refused, and the host prints again.
def someTurns : List Turn :=
  [.print [97], .invoke .served .default ["x"], .invoke .served .default ["\x00"], .print [100]]

theorem talking_in_order :
    World.blank.process.stdout.loaded = [] ∧
      (someTurns.foldl (Turn.take .talking) .blank).process.stdout = ⟨[97, 98, 99], [100], []⟩ ∧
      ∀ past, past <+: OnlyCallsPrint.talking.timeline .blank someTurns →
        ((Scene.start .empty).follow past).out.written <+: past.flatMap Moment.printed := by
  refine ⟨rfl, by decide, fun past early => ?_⟩
  obtain ⟨printed, ordered, -⟩ :=
    (OnlyCallsPrint.talking.output_in_order .blank someTurns rfl).1 past early
  rw [printed] at ordered
  exact ordered

end Fragment
