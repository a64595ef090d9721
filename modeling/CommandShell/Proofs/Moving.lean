import Mathlib
import CommandShell.Proofs.Lines
import CommandShell.Proofs.Lookups
import CommandShell.Proofs.Sides

/-!
# Moving between folders

The builtins that move can stand anywhere in a line, and the stages behind them find the folder to
which they have come. The folder in which a line ends is what the calls of these builtins come to,
one after the other, and of those only that were made: a stage that fails or leaves is the last one.
The source of a line is looked up before any of them, its targets after all of them, and nothing
that a line does reaches the history or the registry.
-/
namespace CommandShell
open Text

/-! ## One move -/

namespace World

/-- The folder in which one is who follows a path from a given folder: the one to which the path
leads, if it is a folder that may be entered, and otherwise still the same. -/
def reached (w : World) (place : Place) (target : Path) : Place :=
  if target.hasNull then place
  else
    match { w with place }.locate target with
    | .ok (.folder there) => if (w.files.admits there .search).isOk then there else place
    | _ => place

/-- The folder to which some arguments move from a given folder: exactly one argument moves. -/
def movedBy (w : World) (place : Place) : List String → Place
  | [target] => w.reached place (.ofString target)
  | _ => place

end World

namespace Builtin

/-- Moving leads to the folder that is named, if it may be entered, and a message leads nowhere. -/
lemma moveTo_place (target : Path) (w : World) :
    (moveTo target w).2.place = w.reached w.place target := by
  cases hnull : target.hasNull with
  | true =>
    simp [moveTo, World.isFolder, World.isFile, World.reached, hnull, World.say, World.print]
  | false =>
    simp only [moveTo, World.isFolder, World.isFile, World.enter, World.reached, hnull,
      Bool.false_eq_true, if_false]
    cases hlocate : w.locate target with
    | error fault =>
      cases hnowhere : World.leadsNowhere fault <;> simp [hnowhere, World.say, World.print]
    | ok spot =>
      cases spot with
      | folder there =>
        cases hadmits : w.files.admits there .search <;>
          simp [hadmits, World.say, World.print, Except.isOk, Except.toBool]
      | _ => simp [World.say, World.print]

lemma handler_place (b : Builtin) (s : Surroundings) (args : List String) (w : World) :
    (b.handler s (args.map Path.ofString) w).2.place =
      if b = changeFolder then w.movedBy w.place args else w.place := by
  cases b with
  | leave | history =>
    simp only [handler]
    split <;> rfl
  | clear | help => rfl
  | changeFolder =>
    obtain _ | ⟨target, _ | ⟨second, more⟩⟩ := args
    · rfl
    · exact moveTo_place (.ofString target) w
    · rfl

lemma builtin?_eq_changeFolder_iff {aliases : Table String} {name : String} :
    (registry aliases).builtin? name = some changeFolder ↔ name = "cd" ∨ name = "cf" := by
  constructor
  · intro h
    simpa using mem_of_builtin? h
  · rintro (rfl | rfl) <;> rfl

end Builtin

/-! ## One stage after the other -/

namespace Action

/-- Whether an action is a call of a builtin that moves. -/
def isMove : Action → Bool
  | .call name _ => name = "cd" || name = "cf"
  | _ => false

/-- Whether an action is one behind which no stage is sent off: a failure or a call to leave. -/
def isLast : Action → Bool
  | .call name _ => name = "exit"
  | a => a.isFailure

lemma isMove_of_isHandling {a : Action} (h : a.isHandling = true) : a.isMove = false := by
  cases a with
  | call => cases h
  | _ => rfl

lemma IsDelivery.isMove {a : Action} (h : a.IsDelivery) : a.isMove = false := by
  cases h <;> rfl

end Action

section
variable (reg : Registry Handler) (spawner : Spawner)

/-- The actions of a run, each with the world that it finds. -/
def meetings (w : World) : List Action → List (World × Action)
  | [] => []
  | a :: later => (w, a) :: meetings (changed reg spawner w a) later

/-- The folder to which a call of a builtin moves from a given folder. -/
def moved (place : Place) : World × Action → Place
  | (w, .call _ args) => w.movedBy place args
  | _ => place

/-- The folder after an action: a builtin that moves leads to another one, and so may a program. -/
def wandered (place : Place) : World × Action → Place
  | (w, .spawn argv stdin _) => (spawner argv stdin { w with place }).2.place
  | meeting => if meeting.2.isMove then moved place meeting else place

/-- A program leaves the folder of the shell where it is. No program moves the shell that starts it;
it can only take away or rename the folder in which the shell is, or one above it. -/
def KeepsPlace : World × Action → Prop
  | (w, .spawn argv stdin _) => (spawner argv stdin w).2.place = w.place
  | _ => True

end

section
variable {spawner : Spawner} {aliases : Table String} {history : Option (List String)}
  {policy : LeavePolicy}

/-- Programs apart, only the builtins that move change the folder, and they move from where the
shell is. -/
lemma changed_place (w : World) (a : Action) :
    (changed (Builtin.handlers aliases history policy) spawner w a).place =
      wandered spawner w.place (w, a) := by
  cases a with
  | call name args =>
    have hmove : (name = "cd" ∨ name = "cf") ↔ (Builtin.registry aliases).builtin? name =
        some .changeFolder := Builtin.builtin?_eq_changeFolder_iff.symm
    simp only [changed, wandered, Action.isMove, moved, Builtin.handlers, Registry.builtin?_map,
      Bool.or_eq_true, decide_eq_true_eq, hmove]
    cases hbuiltin : (Builtin.registry aliases).builtin? name with
    | none => rfl
    | some b => simpa using Builtin.handler_place b _ args w
  | _ => rfl

/-- So the folder after some actions is reached from the first one by all of them in order. -/
theorem worldLeft_place (w : World) (actions : List Action) :
    (worldLeft (Builtin.handlers aliases history policy) spawner w actions).place =
      (meetings (Builtin.handlers aliases history policy) spawner w actions).foldl
        (wandered spawner) w.place := by
  induction actions generalizing w with
  | nil => rfl
  | cons a later ih =>
    rw [worldLeft, List.foldl_cons, ← worldLeft, ih, changed_place]
    rfl

/-- Where programs leave the folder of the shell alone, only the builtins that move count. -/
theorem worldLeft_place_of_kept (w : World) (actions : List Action)
    (hkept : ∀ meeting ∈ meetings (Builtin.handlers aliases history policy) spawner w actions,
      KeepsPlace spawner meeting) :
    (worldLeft (Builtin.handlers aliases history policy) spawner w actions).place =
      ((meetings (Builtin.handlers aliases history policy) spawner w actions).filter
        (·.2.isMove)).foldl moved w.place := by
  induction actions generalizing w with
  | nil => rfl
  | cons a later ih =>
    obtain ⟨hfirst, hlater⟩ := List.forall_mem_cons.1 hkept
    have hstep : (changed (Builtin.handlers aliases history policy) spawner w a).place =
        if a.isMove then moved w.place (w, a) else w.place := by
      rw [changed_place]
      cases a with
      | spawn argv stdin started => exact hfirst
      | _ => rfl
    rw [worldLeft, List.foldl_cons, ← worldLeft, ih _ hlater, hstep, meetings, List.filter_cons]
    cases a.isMove <;> rfl

/-- The actions behind others are met in the world that those leave. -/
lemma meetings_append (reg : Registry Handler) (spawner : Spawner) (w : World)
    (actions more : List Action) :
    meetings reg spawner w (actions ++ more) = meetings reg spawner w actions ++
      meetings reg spawner (worldLeft reg spawner w actions) more := by
  induction actions generalizing w with
  | nil => rfl
  | cons a later ih => exact congrArg ((w, a) :: ·) (ih _)

lemma filter_meetings_of_no_move {actions : List Action} (h : ∀ a ∈ actions, a.isMove = false)
    (reg : Registry Handler) (spawner : Spawner) (w : World) :
    (meetings reg spawner w actions).filter (·.2.isMove) = [] := by
  induction actions generalizing w with
  | nil => rfl
  | cons a later ih =>
    obtain ⟨hfirst, hlater⟩ := List.forall_mem_cons.1 h
    rw [meetings, List.filter_cons_of_neg (by simp [hfirst]), ih hlater]

end

/-! ## Where a run stops -/

section
variable {reg : Registry Handler} {spawner : Spawner} {p : Pipeline} {w : World}
  {actions : List Action}

lemma Reported.halts {ended : Outcome × Run} (h : Reported reg spawner p w actions ended) :
    ∃ first last, actions = first ++ last ∧ (∀ a ∈ first, a.isFailure = false) ∧
      ∀ a ∈ last, a.isDispatch = false := by
  cases h with
  | unnamed hbefore => exact ⟨actions, [], by simp, hbefore.neither.isFailure, by simp⟩
  | @unreadable front calls before source e messages r hsource hread hnext hsent =>
    exact ⟨before, [.openSource source false], rfl, hsent.faultless, by simp [Action.isDispatch]⟩
  | @left front stage calls before handler e v r hnext hsent =>
    refine ⟨before ++ [.call stage.command stage.args], [.returned (.left e)], by simp, ?_, ?_⟩
    · simpa [or_imp, forall_and, Action.isFailure] using hsent.faultless
    · simp [Action.isDispatch]
  | @notStarted front stage calls before after stdin fault halt v r hnext hsent hprogram hspawn
      hafter =>
    refine ⟨before ++ [.spawn (reg.argv stage.command stage.args) stdin none],
      .notStarted fault :: after, by simp [spawnActions], ?_, ?_⟩
    · simpa [or_imp, forall_and, Action.isFailure] using hsent.faultless
    · have hidle := List.filter_eq_nil_iff.1 (filter_isDispatch_of_idle hafter.neither.isSending)
      simpa [Action.isDispatch] using hidle
  | @uncollected stage before stdin number process v r hstages hsent =>
    refine ⟨before, [.uncollected number], rfl, hsent.faultless, ?_⟩
    simp [Action.isDispatch]
  | @delivered calls before delivery code r hsent hdelivery =>
    refine ⟨before ++ delivery, [], by simp, fun a ha => ?_, by simp⟩
    exact (List.mem_append.1 ha).elim (hsent.faultless a) fun ha => (hdelivery a ha).isFailure

lemma not_isDispatch_behind_failure {before after : List Action} {a : Action} {r : Run}
    (h : actionsOf reg spawner p r = before ++ a :: after) (hfails : a.isFailure = true) :
    ∀ b ∈ after, b.isDispatch = false := by
  obtain ⟨first, last, hactions, hfirst, hlast⟩ := (execute_reported reg spawner p r).halts
  have hnot : a ∉ first := by
    intro hmem
    rw [hfirst a hmem] at hfails
    cases hfails
  obtain ⟨between, -, rfl⟩ := split_behind (hactions.symm.trans h) hnot
  exact fun b hb => hlast b (List.mem_append_right _ (List.mem_cons_of_mem _ hb))

end

/-- Behind a failure or a call to leave no stage is sent off. -/
lemma not_isDispatch_behind_last {spawner : Spawner} {aliases : Table String}
    {history : Option (List String)} {p : Pipeline} {r : Run} {before after : List Action}
    {a : Action}
    (h : actionsOf (Builtin.handlers aliases history .quit) spawner p r = before ++ a :: after)
    (hlast : a.isLast = true) : ∀ b ∈ after, b.isDispatch = false := by
  cases a with
  | call name args =>
    obtain rfl : name = "exit" := by simpa [Action.isLast] using hlast
    obtain ⟨handler, hbuiltin, hreturned⟩ := execute_answered h
    have hleave : (Builtin.handlers aliases history .quit).builtin? "exit" =
        some (Builtin.leave.handler ⟨Builtin.registry aliases, history, .quit⟩) := rfl
    obtain rfl := Option.some.inj (hbuiltin.symm.trans hleave)
    obtain ⟨later, rfl⟩ : ∃ later, after = .returned (.left (.exit 0)) :: later :=
      List.head?_eq_some_iff.1 hreturned
    rw [List.append_cons] at h
    intro b hb
    obtain rfl | hb := List.mem_cons.1 hb
    · rfl
    · exact not_isDispatch_behind_failure h rfl b hb
  | _ => exact not_isDispatch_behind_failure h hlast

/-! ## Lines -/

/-- What a run of a pipeline has to do with the working folder, from the world in which it starts to
its end. -/
structure Moves (reg : Registry Handler) (spawner : Spawner) (p : Pipeline) (w : World)
    (actions : List Action) (ended : Outcome × Run) : Prop where
  /-- Its calls are those of its first stages, in order, and of all of them unless one fails. -/
  routed : ∃ front back, p.stages = front ++ back ∧
    Routed reg spawner w front (actions.filter Action.isDispatch)
      (worldLeft reg spawner w actions) ∧
    (back = [] ∨ (∃ a ∈ actions, a.isFailure = true) ∨ ∃ e, inputSource p.clause = .error e)
  halts : ∀ before a after, actions = before ++ a :: after → a.isLast = true →
    ∀ b ∈ after, b.isDispatch = false
  place : ended.2.world.place =
    (meetings reg spawner w actions).foldl (wandered spawner) w.place
  kept : (∀ meeting ∈ meetings reg spawner w actions, KeepsPlace spawner meeting) →
    ended.2.world.place =
      ((meetings reg spawner w actions).filter (·.2.isMove)).foldl moved w.place
  /-- The source is looked up in the world in which the run starts. -/
  source : ReadsSource p.clause w [] actions
  /-- The targets are looked up in the folder that is reached. -/
  targets : TriesTargets p.clause (lastOutput actions) (worldLeft reg spawner w actions) actions
    ended

lemma execute_moves (aliases : Table String) (history : Option (List String)) (spawner : Spawner)
    (p : Pipeline) (r : Run) :
    Moves (Builtin.handlers aliases history .quit) spawner p r.world
      (actionsOf (Builtin.handlers aliases history .quit) spawner p r)
      (execute (Builtin.handlers aliases history .quit) spawner p r) := by
  have htargets := execute_triesTargets (Builtin.handlers aliases history .quit) spawner p r
  exact {
    routed := (execute_reported _ spawner p r).routed
    halts := fun before a after => not_isDispatch_behind_last
    place := htargets.place.trans (worldLeft_place _ _)
    kept := fun hkept => htargets.place.trans (worldLeft_place_of_kept _ _ hkept)
    source := execute_readsSource _ spawner p r
    targets := htargets }

/-- Whether an action looks at no file and sends no stage off. -/
def Action.IsIdle (a : Action) : Prop :=
  a.isDispatch = false ∧ a.isReading = false ∧ ¬ a.IsDelivery

/-- A line that has no pipeline does nothing but say what has been read of it. -/
lemma runLine_of_unplanned {line : String}
    (h : ∀ tree p, parse (words line) = .ok tree → Pipeline.ofNode tree ≠ .ok p)
    (reg : Registry Handler) (spawner : Spawner) (r : Run) :
    (runLine reg spawner line r).2.world = r.world ∧
      ∀ a ∈ lineActions reg spawner line r, a.IsIdle := by
  have hidle {actions : List Action} (hrun : (runLine reg spawner line r).2 = r.logAll actions)
      (hactions : ∀ a ∈ actions, a.IsIdle) :
      (runLine reg spawner line r).2.world = r.world ∧
        ∀ a ∈ lineActions reg spawner line r, a.IsIdle := by
    rw [lineActions, hrun, Run.logAll_trace, List.drop_left]
    exact ⟨rfl, hactions⟩
  have hwords : (Action.readWords (words line)).IsIdle := ⟨rfl, rfl, by rintro ⟨⟩⟩
  by_cases hnil : words line = []
  · have hrun : (runLine reg spawner line r).2 = r.logAll [] := by
      simp only [runLine, hnil, Run.logAll_nil]
    exact hidle hrun (by simp)
  cases hparse : parse (words line) with
  | error refusal =>
    exact hidle (congrArg Prod.snd (runLine_of_refusal hnil hparse reg spawner r))
      (by simpa using hwords)
  | ok tree =>
    cases hplan : Pipeline.ofNode tree with
    | error fault =>
      have hrun : (runLine reg spawner line r).2 =
          r.logAll [.readWords (words line), .readTree (words line) tree] := by
        unfold runLine
        split
        · contradiction
        · simp [runWords, hparse, runTree, hplan, Run.log, Run.logAll]
      have htree : (Action.readTree (words line) tree).IsIdle := ⟨rfl, rfl, by rintro ⟨⟩⟩
      exact hidle hrun (by simpa using ⟨hwords, htree⟩)
    | ok p => exact absurd hplan (h tree p hparse)

namespace Repl
variable (host : Host) (settings : Settings) (line : String) (s : Repl)

lemma runLine_place : (runLine host settings line s).2.world.place =
    (CommandShell.runLine s.registry host.spawner line
      { s.run with trace := [] }).2.world.place := by
  obtain ⟨-, text, hworld⟩ := runLine_shows host settings line s
  rw [hworld, World.print]

end Repl

/-- What a line changes in a shell. If it has a pipeline, that is what is run, and the folder in
which the line ends is what its calls come to from the first to the last one: those of the builtins
that move, each from the folder that has been reached, to the one folder that its arguments name
from there, if it may be entered. Nobody is called behind a failure or a call to leave. The source
is looked up in the world in which the line starts, and the targets, all of them if nothing has
failed, in the folder in which it ends. A line without a pipeline changes nothing, and the loop
keeps the history and the registry either way. -/
theorem line_moves (aliases : Table String) (history : Option (List String)) (spawner : Spawner)
    (line : String) (r : Run) :
    let reg := Builtin.handlers aliases history .quit
    (∀ tree p, parse (words line) = .ok tree → Pipeline.ofNode tree = .ok p →
      let planned := r.logAll
        [.readWords (words line), .readTree (words line) tree, .planned p, .showTree tree]
      runLine reg spawner line r = execute reg spawner p planned ∧
        Moves reg spawner p r.world (actionsOf reg spawner p planned)
          (runLine reg spawner line r)) ∧
    ((∀ tree p, parse (words line) = .ok tree → Pipeline.ofNode tree ≠ .ok p) →
      (runLine reg spawner line r).2.world = r.world ∧
        ∀ a ∈ lineActions reg spawner line r, a.IsIdle) ∧
    ∀ host settings s, Repl.SameRecords s (Repl.runLine host settings line s).2 ∧
      (Repl.runLine host settings line s).2.registry = s.registry ∧
      (Repl.runLine host settings line s).2.world.place =
        (runLine s.registry host.spawner line { s.run with trace := [] }).2.world.place := by
  intro reg
  refine ⟨fun tree p hparse hp => ?_, fun hnone => runLine_of_unplanned hnone reg spawner r,
    fun host settings s => ?_⟩
  · obtain ⟨hwf, hwords⟩ := parse_eq_ok_iff.1 hparse
    have hrun : runLine reg spawner line r = _ :=
      runLine_of_plan (words_ne_nil_of_tree hwf hwords) hparse hp
    refine ⟨hrun, ?_⟩
    rw [hrun]
    exact execute_moves aliases history spawner p (r.logAll _)
  · have hsame := Repl.runLine_sameRecords host settings line s
    refine ⟨hsame, ?_, Repl.runLine_place host settings line s⟩
    rw [Repl.registry, Repl.registry, hsame.history]

namespace Downward

def line : String := "cd d | cat | cf g | cf e > f"

def tree : Node := .expr (.ofCall ("cd", ["d"])) (some (.pipeExpr .pipe (.ofCall ("cat", []))
  (some (.pipeExpr .pipe (.ofCall ("cf", ["g"])) (some (.pipeExpr .pipe (.ofCall ("cf", ["e"]))
    (some (.redirectExpr (.redirect .output) (.file "f") []))))))))

def pipeline : Pipeline := ⟨[⟨"cd", ["d"], none⟩, ⟨"cat", [], none⟩, ⟨"cf", ["g"], none⟩,
  ⟨"cf", ["e"], some ⟨.output, [⟨.here, ["f"]⟩]⟩⟩], by decide⟩

def reg : Registry Handler := Builtin.handlers [] none .quit

def spawner : Spawner := fun _ _ w => (.ok (.writing .empty true 0), w)

/-- A world with a folder in a folder. -/
def world : World := .ofEntries [(["d"], .usualFolder), (["d", "e"], .usualFolder)]

def inOuter : World := { world with place := ⟨["d"], 0⟩ }

def told : World := { inOuter with printed := "\"g\" no such file or directory\n" }

def inInner : World := { told with place := ⟨["d", "e"], 0⟩ }

/-- What the line does until its programs are reaped. -/
def calls : List Action :=
  [.call "cd" ["d"], .returned .done, .spawn ["cat"] (.fed .empty) (some 0),
    .started 0 (.writing .empty true 0), .closeStdin 0, .closeStdout 0, .call "cf" ["g"],
    .returned .done, .call "cf" ["e"], .returned .done]

def dispatched (trace : List Action) : Chain :=
  ⟨⟨inInner, 1, trace ++ calls⟩, [chainBroken "cd", chainBroken "cf", chainBroken "cf"], [0], none⟩

lemma plan_line : parse (words line) = .ok tree ∧ Pipeline.ofNode tree = .ok pipeline := by
  constructor <;> cbv

lemma moveTo_eq : Builtin.moveTo (.ofString "d") world = (.done, inOuter) ∧
    Builtin.moveTo (.ofString "g") inOuter = (.done, told) ∧
    Builtin.moveTo (.ofString "e") told = (.done, inInner) := by
  refine ⟨?_, ?_, ?_⟩ <;> cbv

lemma builtin?_cd : reg.builtin? "cd" =
    some (Builtin.changeFolder.handler ⟨Builtin.registry [], none, .quit⟩) := rfl

lemma builtin?_cf : reg.builtin? "cf" =
    some (Builtin.changeFolder.handler ⟨Builtin.registry [], none, .quit⟩) := rfl

lemma steps_eq (trace : List Action) :
    Chain.steps reg spawner ⟨⟨world, 0, trace⟩, [], [], none⟩ none pipeline.stages =
      .ok (dispatched trace) := by
  have hbuiltin : reg.builtin? "cat" = none := rfl
  have hargv : reg.argv "cat" [] = ["cat"] := rfl
  simp [pipeline, Chain.steps, Chain.step, builtin?_cd, builtin?_cf, hbuiltin, hargv, callBuiltin,
    Run.call, Builtin.handler, moveTo_eq, spawnStage, spawnFresh, Run.spawn, spawner,
    Chain.pending, Run.log, Run.logAll, Process.writing, calls, dispatched]

lemma execute_eq (trace : List Action) : execute reg spawner pipeline ⟨world, 0, trace⟩ =
    (dispatched (trace ++ [Action.execute pipeline.stages])).finish pipeline.clause := by
  have hchain : execute reg spawner pipeline ⟨world, 0, trace⟩ =
      runChain reg spawner ⟨"cd", ["d"], none⟩ pipeline.stages.tail pipeline.clause
        ⟨world, 0, trace ++ [Action.execute pipeline.stages]⟩ := rfl
  have hnoticed : Noticed reg ⟨"cd", ["d"], none⟩ world none [] [] := .sourceless builtin?_cd
  rw [hchain, runChain_of_noticed rfl hnoticed, Run.logAll_nil]
  exact congrArg (Chain.conclude pipeline.clause) (steps_eq _)

lemma moves_of_line (trace : List Action) :
    (meetings reg spawner world (actionsOf reg spawner pipeline ⟨world, 0, trace⟩)).filter
      (·.2.isMove) =
    [(world, .call "cd" ["d"]), (inOuter, .call "cf" ["g"]), (told, .call "cf" ["e"])] := by
  obtain ⟨delivery, htrace, hdelivery⟩ :=
    (dispatched (trace ++ [Action.execute pipeline.stages])).finish_trace pipeline.clause
  rw [← execute_eq] at htrace
  generalize hlast : dispatched (trace ++ [Action.execute pipeline.stages]) = last at htrace
  have hactions : actionsOf reg spawner pipeline ⟨world, 0, trace⟩ =
      (Action.execute pipeline.stages :: calls) ++ (last.reaping ++ delivery) := by
    refine actionsOf_eq _ _ (htrace.trans ?_)
    simp [← hlast, dispatched]
  have hrest : ∀ a ∈ last.reaping ++ delivery, a.isMove = false := fun a ha =>
    (List.mem_append.1 ha).elim
      (fun ha => Action.isMove_of_isHandling (last.reaping_handles.isHandling a ha))
      fun ha => (hdelivery a ha).isMove
  rw [hactions, meetings_append, List.filter_append, filter_meetings_of_no_move hrest]
  simp [calls, meetings, changed, builtin?_cd, builtin?_cf, spawner, Builtin.handler, moveTo_eq,
    Action.isMove]

lemma moved_twice : [(world, Action.call "cd" ["d"]), (inOuter, .call "cf" ["g"]),
    (told, .call "cf" ["e"])].foldl moved world.place = ⟨["d", "e"], 0⟩ := by
  obtain ⟨houter, hmissing, hinner⟩ := moveTo_eq
  have hfirst : world.reached world.place (.ofString "d") = inOuter.place := by
    rw [← Builtin.moveTo_place, houter]
  have hsecond : inOuter.reached inOuter.place (.ofString "g") = told.place := by
    rw [← Builtin.moveTo_place, hmissing]
  have hthird : told.reached told.place (.ofString "e") = inInner.place := by
    rw [← Builtin.moveTo_place, hinner]
  simp [moved, World.movedBy, hfirst, hsecond, hthird, inInner]

end Downward

/-- Two folders down, past a program and a folder that is not there, and then into a file. -/
theorem line_moves_down :
    let line := "cd d | cat | cf g | cf e > f"
    let reg := Builtin.handlers [] none .quit
    let spawner : Spawner := fun _ _ w => (.ok (.writing .empty true 0), w)
    let r := Run.begin (.ofEntries [(["d"], .usualFolder), (["d", "e"], .usualFolder)])
    ∃ tree p, parse (words line) = .ok tree ∧ Pipeline.ofNode tree = .ok p ∧
      let planned := r.logAll
        [.readWords (words line), .readTree (words line) tree, .planned p, .showTree tree]
      ((meetings reg spawner r.world (actionsOf reg spawner p planned)).filter
        (·.2.isMove)).map Prod.snd = [.call "cd" ["d"], .call "cf" ["g"], .call "cf" ["e"]] ∧
      (runLine reg spawner line r).2.world.place = ⟨["d", "e"], 0⟩ := by
  intro line reg spawner r
  have hkept (meeting : World × Action) : KeepsPlace spawner meeting := by
    obtain ⟨w, a⟩ := meeting
    cases a <;> trivial
  obtain ⟨-, hmoves⟩ := (line_moves [] none spawner line r).1 Downward.tree Downward.pipeline
    Downward.plan_line.1 Downward.plan_line.2
  have hplace := hmoves.kept fun meeting _ => hkept meeting
  refine ⟨Downward.tree, Downward.pipeline, Downward.plan_line.1, Downward.plan_line.2, ?_, ?_⟩
  · exact congrArg (List.map Prod.snd) (Downward.moves_of_line _)
  · exact hplace.trans ((congrArg (List.foldl moved Downward.world.place)
      (Downward.moves_of_line _)).trans Downward.moved_twice)

/-- A world with a folder that nobody may enter. -/
def World.closed : World :=
  { World.ofEntries [] with files := ⟨[(["d"], .folder 0)], .byMode fun _ => true⟩ }

lemma World.locate_closed : closed.locate (.ofString "d") = .ok (.folder ⟨["d"], 0⟩) := rfl

lemma World.hasNull_d : (Path.ofString "d").hasNull = false := by
  have hpath : Path.ofString "d" = ⟨.here, ["d"]⟩ := rfl
  simp [hpath, Path.hasNull]

lemma World.isFolder_closed : closed.isFolder (.ofString "d") = .ok true := by
  simp [isFolder, hasNull_d, locate_closed]

lemma moveTo_closed : (Builtin.moveTo (.ofString "d") .closed).1 = .done ∧
    (Builtin.moveTo (.ofString "d") .closed).2.place = .top := by
  have hadmits : World.closed.files.admits ⟨["d"], 0⟩ .search = .error .denied := rfl
  have henter : World.closed.enter (.ofString "d") =
      .error (World.failure (.ofString "d") .denied) := by
    simp [World.enter, World.hasNull_d, World.locate_closed, hadmits]
  simp only [Builtin.moveTo, World.isFolder_closed, henter]
  exact ⟨trivial, rfl⟩

/-- A folder that is named, but may not be entered: the line ends where it has started. -/
theorem line_stays_before_closed_folder :
    let reg := Builtin.handlers [] none .quit
    let spawner : Spawner := fun _ _ w => (.ok (.writing .empty true 0), w)
    let w : World :=
      { World.ofEntries [] with files := ⟨[(["d"], .folder 0)], .byMode fun _ => true⟩ }
    w.isFolder (.ofString "d") = .ok true ∧
      w.locate (.ofString "d") = .ok (.folder ⟨["d"], 0⟩) ∧
      (runLine reg spawner "cd d" (.begin w)).2.world.place = .top := by
  intro reg spawner w
  have hwords : words "cd d" = ["cd", "d"] := by decide
  obtain ⟨hdone, hstays⟩ := moveTo_closed
  have hcall : Builtin.moveTo (.ofString "d") .closed = (.done, _) := Prod.ext hdone rfl
  have hbuiltin : reg.builtin? "cd" =
      some (Builtin.changeFolder.handler ⟨Builtin.registry [], none, .quit⟩) := rfl
  obtain ⟨r, hrun, hworld⟩ := runLine_of_builtin (r := .begin .closed) hwords (by decide)
    (by decide) hbuiltin hcall spawner
  have hplace : (runLine reg spawner "cd d" (.begin .closed)).2.world.place = .top := by
    rw [hrun, hworld]
    exact hstays
  exact ⟨World.isFolder_closed, World.locate_closed, hplace⟩

end CommandShell
