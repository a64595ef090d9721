import CommandShell.Proofs.Effects
import CommandShell.Proofs.Unreadable
import Mathlib.Data.List.Nodup

/-!
# In which order programs are started and waited for

A chain sends its stages off from left to right, each of them once, and waits for no program before
all of them have been sent off. The last program, if the last stage is one, is then read to its end
and waited for before the others, which are waited for in the order in which they were started. The
numbers of programs count up as they start, so none is waited for twice.
-/
namespace CommandShell
open Text

namespace Action

/-- The program that a call of the spawner has started. -/
def program? : Action → Option Nat
  | .spawn _ _ program => program
  | _ => none

/-- Whether an action reads a program to its end or waits for it. -/
def isReaping : Action → Bool
  | .readStdout _ => true
  | .wait _ => true
  | .communicate .. => true
  | _ => false

end Action

/-- The programs that some actions have started, in order. -/
def programsOf (actions : List Action) : List Nat := actions.filterMap Action.program?

/-- What is done to read a program to its end; one without an output handle is not read. -/
def Process.reading (process : Process) (number : Nat) : List Action :=
  if process.output.isSome then [.readStdout number, .closeStdout number] else []

section
variable {actions : List Action}

lemma programsOf_append (actions more : List Action) :
    programsOf (actions ++ more) = programsOf actions ++ programsOf more :=
  List.filterMap_append

lemma programsOf_of_idle (h : ∀ a ∈ actions, a.isSending = false) : programsOf actions = [] := by
  rw [programsOf, List.filterMap_eq_nil_iff]
  intro a ha
  cases a with
  | spawn => cases h _ ha
  | _ => rfl

end

/-! ## Stages one after the other -/

section
variable {reg : Registry Handler} {spawner : Spawner} {c d e : Chain} {source : Option Path}
  {stage : Stage} {stages : List Stage} {actions more : List Action}
  {result : Except (Outcome × Run) Chain} {halted : Outcome × Run}

/-- Stages that have been sent off one after the other end with the last of them. -/
lemma Chain.Steps.exists_last (h : Chain.Steps reg spawner c source stages actions result)
    (hresult : result = .ok d) (hne : stages ≠ []) :
    ∃ front last b source' earlier lastly, stages = front ++ [last] ∧
      actions = earlier ++ lastly ∧ Chain.Steps reg spawner c source front earlier (.ok b) ∧
      Chain.Step reg spawner b source' last lastly (.ok d) := by
  induction h with
  | nil => exact absurd rfl hne
  | halt => cases hresult
  | @step c b source stage rest first more result hstep hrest ih =>
    cases rest with
    | nil =>
      cases hrest
      cases hresult
      exact ⟨[], stage, c, source, [], first, rfl, by simp, .nil c source, hstep⟩
    | cons second rest =>
      obtain ⟨front, last, b', source', earlier, lastly, hstages, rfl, hfront, hlast⟩ :=
        ih hresult (List.cons_ne_nil _ _)
      exact ⟨stage :: front, last, b', source', first ++ earlier, lastly, by rw [hstages]; rfl,
        (List.append_assoc ..).symm, .step hstep hfront, hlast⟩

/-- A chain halts at one stage, after it has sent off those before. Only the first stage has the
source. -/
lemma Chain.Steps.exists_halt (h : Chain.Steps reg spawner c source stages actions result)
    (hresult : result = .error halted) :
    ∃ front stage back b source' earlier lastly, stages = front ++ stage :: back ∧
      actions = earlier ++ lastly ∧ Chain.Steps reg spawner c source front earlier (.ok b) ∧
      Chain.Step reg spawner b source' stage lastly (.error halted) ∧
      (source' = none ∨ front = [] ∧ b = c ∧ source' = source) := by
  induction h with
  | nil => cases hresult
  | @halt c source stage rest actions ended hstep =>
    cases hresult
    exact ⟨[], stage, rest, c, source, [], actions, rfl, rfl, .nil c source, hstep,
      .inr ⟨rfl, rfl, rfl⟩⟩
  | @step c b source stage rest first more result hstep hrest ih =>
    obtain ⟨front, at', back, b', source', earlier, lastly, rfl, rfl, hfront, hhalt, hsource⟩ :=
      ih hresult
    refine ⟨stage :: front, at', back, b', source', first ++ earlier, lastly, rfl,
      (List.append_assoc ..).symm, .step hstep hfront, hhalt, .inl ?_⟩
    obtain hnone | ⟨-, -, hnone⟩ := hsource <;> exact hnone

/-- The programs that are started between two states of a chain are listed and counted, and none is
waited for. -/
structure Chain.Counts (c d : Chain) (actions : List Action) : Prop where
  started : d.started = c.started ++ programsOf actions
  next : d.run.started = c.run.started + (programsOf actions).length
  numbers : programsOf actions = List.range' c.run.started (programsOf actions).length
  unreaped : ∀ a ∈ actions, a.isReaping = false

lemma Chain.Counts.of_none (hstarted : d.started = c.started)
    (hrun : d.run.started = c.run.started) (hnone : programsOf actions = [])
    (hunreaped : ∀ a ∈ actions, a.isReaping = false) : c.Counts d actions where
  started := by rw [hnone, hstarted, List.append_nil]
  next := by rw [hnone, hrun, List.length_nil, Nat.add_zero]
  numbers := by rw [hnone, List.length_nil, List.range'_zero]
  unreaped := hunreaped

lemma Chain.Counts.trans (h : c.Counts d actions) (hmore : d.Counts e more) :
    c.Counts e (actions ++ more) where
  started := by rw [hmore.started, h.started, programsOf_append, List.append_assoc]
  next := by rw [hmore.next, h.next, programsOf_append, List.length_append, Nat.add_assoc]
  numbers := by
    rw [programsOf_append, List.length_append, ← List.range'_append_1, ← h.next, ← h.numbers,
      ← hmore.numbers]
  unreaped a ha := (List.mem_append.1 ha).elim (h.unreaped a) (hmore.unreaped a)

lemma Wiring.programsOf_actions (wiring : Wiring) (argv : List String)
    (answer : Except SpawnFault (Nat × Process)) :
    programsOf (wiring.actions argv answer) =
      programsOf (spawnActions argv wiring.stdin answer) := by
  rw [Wiring.actions, programsOf_append, programsOf_append,
    programsOf_of_idle wiring.opening_handles.neither.isSending,
    programsOf_of_idle (wiring.closing_handles answer).neither.isSending, List.nil_append,
    List.append_nil]

lemma Wiring.opening_unreaped (wiring : Wiring) : ∀ a ∈ wiring.opening, a.isReaping = false := by
  cases wiring <;> simp [opening, Action.isReaping]

lemma Wiring.actions_unreaped (wiring : Wiring) (argv : List String)
    (answer : Except SpawnFault (Nat × Process)) :
    ∀ a ∈ wiring.actions argv answer, a.isReaping = false := by
  have hspawn : ∀ a ∈ spawnActions argv wiring.stdin answer, a.isReaping = false := by
    cases answer <;> simp [spawnActions, Action.isReaping]
  have hclosing : ∀ a ∈ wiring.closing answer, a.isReaping = false := by
    cases wiring with
    | fresh =>
      obtain hnil | ⟨number, hclose⟩ := closing_fresh answer
      · simp [hnil]
      · simp [hclose, Action.isReaping]
    | _ => simp [closing, Action.isReaping]
  intro a ha
  obtain ha | ha := List.mem_append.1 ha
  · exact (List.mem_append.1 ha).elim (wiring.opening_unreaped a) (hspawn a)
  · exact hclosing a ha

lemma callActions_unreaped (pending : Option (Nat × ByteArray)) (stage : Stage)
    (ended : HandlerEnd) : ∀ a ∈ callActions pending stage ended, a.isReaping = false := by
  cases pending <;> simp [callActions, closePending, Action.isReaping]

lemma programsOf_callActions (pending : Option (Nat × ByteArray)) (stage : Stage)
    (ended : HandlerEnd) : programsOf (callActions pending stage ended) = [] := by
  cases pending <;> rfl

lemma Noticed.unreaped {first : Stage} {w : World} {opening : List Action} {notices : List String}
    (h : Noticed reg first w source opening notices) : ∀ a ∈ opening, a.isReaping = false := by
  cases h <;> simp [Action.isReaping]

/-- Sending a stage off starts at most one program. -/
theorem Chain.Step.counts (h : Chain.Step reg spawner c source stage actions (.ok d)) :
    c.Counts d actions := by
  cases h with
  | called =>
    exact .of_none rfl rfl (programsOf_callActions _ _ _) (callActions_unreaped _ _ _)
  | @started wiring process w hprogram hwired hspawn =>
    have hone : programsOf (wiring.actions (reg.argv stage.command stage.args)
        (.ok (c.run.started, process))) = [c.run.started] := wiring.programsOf_actions _ _
    exact ⟨by rw [hone], by rw [hone]; rfl, by rw [hone]; rfl, wiring.actions_unreaped _ _⟩

theorem Chain.Steps.counts (h : Chain.Steps reg spawner c source stages actions result)
    (hresult : result = .ok d) : c.Counts d actions := by
  induction h with
  | nil =>
    cases hresult
    exact .of_none rfl rfl rfl (by simp)
  | halt => cases hresult
  | step hstep hrest ih => exact hstep.counts.trans (ih hresult)

/-- What a chain knows of its last stage: nothing of a builtin, and of a program its number. -/
lemma Chain.Step.previous (h : Chain.Step reg spawner c source stage actions (.ok d)) :
    (reg.isBuiltin stage.command = true ∧ d.previous = none) ∨
      (reg.isBuiltin stage.command = false ∧ ∃ argv stdin number process,
        d.previous = some (number, process) ∧ programsOf actions = [number] ∧
          spawnActions argv stdin (.ok (number, process)) <:+: actions) := by
  cases h with
  | called hbuiltin => exact .inl ⟨isBuiltin_of_eq hbuiltin, rfl⟩
  | @started wiring process w hprogram =>
    exact .inr ⟨isBuiltin_of_eq_none hprogram, _, wiring.stdin, _, process, rfl,
      wiring.programsOf_actions _ _, wiring.opening, _, rfl⟩

end

/-! ## Waiting -/

namespace Chain
variable {c : Chain} {number : Nat} {process : Process} {others : List Nat}

lemma reaping_of_builtin (h : c.previous = none) : c.reaping = c.started.map .wait := by
  simp only [reaping, draining, waited, h, List.nil_append]

lemma reaping_of_program (h : c.previous = some (number, process))
    (hstarted : c.started = others ++ [number]) (hnodup : c.started.Nodup) :
    c.reaping = process.reading number ++ .wait number :: others.map .wait := by
  have hdraining : c.draining = process.reading number ++ [.wait number] := by
    obtain ⟨_ | bytes, hasInput, status⟩ := process <;> simp [draining, h, Process.reading]
  have hwaited : c.waited = others := by
    rw [hstarted] at hnodup
    have hother : ∀ n ∈ others, n ≠ number := by
      rintro n hn rfl
      exact (List.disjoint_of_nodup_append hnodup) hn (List.mem_singleton_self n)
    simp only [waited, h, hstarted, List.filter_append]
    simpa [List.filter_eq_self] using hother
  rw [reaping, hdraining, hwaited, List.append_assoc, List.singleton_append]

end Chain

/-- How the programs of a chain are waited for when its stages have been sent off. -/
inductive Reaped (reg : Registry Handler) (last : Stage) (sending : List Action) :
    List Action → Prop
  | builtin (hbuiltin : reg.isBuiltin last.command = true) :
      Reaped reg last sending ((programsOf sending).map .wait)
  | program {argv : List String} {stdin : Stdin} {others : List Nat} {number : Nat}
      {process : Process} (hprogram : reg.isBuiltin last.command = false)
      (hprograms : programsOf sending = others ++ [number])
      (hstarted : spawnActions argv stdin (.ok (number, process)) <:+: sending) :
      Reaped reg last sending (process.reading number ++ .wait number :: others.map .wait)

section
variable {reg : Registry Handler} {spawner : Spawner} {first : Stage} {rest : List Stage}
  {clause : Option Clause} {r : Run} {source : Option Path} {c : Chain}
  {opening actions : List Action} {notices : List String} {ended : Outcome × Run}

/-- A chain whose stages have been sent off waits for its programs as it should. -/
lemma Chain.Steps.reaped
    (h : Chain.Steps reg spawner ⟨r.logAll opening, notices, [], none⟩ source (first :: rest)
      actions (.ok c)) (hnoticed : Noticed reg first r.world source opening notices) :
    (programsOf (opening ++ actions)).Nodup ∧
      ∃ last, (first :: rest).getLast? = some last ∧
        Reaped reg last (opening ++ actions) c.reaping := by
  have hprograms : programsOf (opening ++ actions) = programsOf actions := by
    rw [programsOf_append, programsOf_of_idle hnoticed.handles.neither.isSending, List.nil_append]
  have hcounts := h.counts rfl
  have hstarted : c.started = programsOf actions := hcounts.started
  have hnodup : c.started.Nodup := by
    rw [hstarted, hcounts.numbers]
    exact List.nodup_range'
  obtain ⟨front, last, b, source', earlier, lastly, hstages, rfl, hfront, hlast⟩ :=
    h.exists_last rfl (List.cons_ne_nil _ _)
  rw [hprograms, ← hstarted]
  refine ⟨hnodup, last, by rw [hstages, List.getLast?_concat], ?_⟩
  obtain ⟨hbuiltin, hnone⟩ | ⟨hprogram, argv, stdin, number, process, hsome, hone, hspawned⟩ :=
    hlast.previous
  · rw [Chain.reaping_of_builtin hnone, hstarted, ← hprograms]
    exact .builtin hbuiltin
  · rw [programsOf_append earlier, hone] at hprograms hstarted
    rw [Chain.reaping_of_program hsome hstarted hnodup]
    refine .program hprogram hprograms (hspawned.trans ?_)
    rw [← List.append_assoc]
    exact (List.suffix_append _ _).isInfix

/-- A chain only halts over a source that cannot be read, over a program that does not start or over
a builtin that leaves. -/
lemma Chain.Steps.halts_over {stages : List Stage} {outcome : Outcome} {r' : Run}
    (h : Chain.Steps reg spawner c source stages actions (.error (outcome, r'))) :
    (∃ path ∈ source, ∃ e, c.run.world.read path = .error e) ∨
      (∃ fault, .notStarted fault ∈ actions) ∨ ∃ e, outcome = .left e := by
  obtain ⟨front, stage, back, b, source', earlier, lastly, rfl, rfl, hfront, hhalt, hsource⟩ :=
    h.exists_halt rfl
  cases hhalt with
  | left => exact .inr (.inr ⟨_, rfl⟩)
  | unopened hprogram hpending hpath hread =>
    obtain hnone | ⟨-, rfl, hsame⟩ := hsource
    · rw [hpath] at hnone
      cases hnone
    · exact .inl ⟨_, hsame ▸ hpath, _, hread⟩
  | @notStarted wiring fault =>
    exact .inr (.inl ⟨fault, by simp [Wiring.actions, spawnActions]⟩)

/-- A chain in whose way nothing stands comes to its delivery in order. -/
theorem ChainCourse.ordered (h : ChainCourse reg spawner first rest clause r actions ended)
    (hreadable : ∀ path more, clause = some ⟨.input, path :: more⟩ →
      ∃ bytes, r.world.read path = .ok bytes)
    (hstarts : ∀ fault, .notStarted fault ∉ actions) (hstays : ∀ e, ended.1 ≠ .left e) :
    ∃ sending last reaping delivery, actions = sending ++ reaping ++ delivery ∧
      List.Forall₂ (Dispatches reg) (first :: rest) (sending.filter Action.isDispatch) ∧
      (∀ a ∈ sending, a.isReaping = false) ∧ (programsOf sending).Nodup ∧
      (first :: rest).getLast? = some last ∧ Reaped reg last sending reaping ∧
      ∀ a ∈ delivery, a.IsDelivery := by
  have hopens {path : Path} {e : Escape} (hsource : inputSource clause = .ok (some path)) :
      r.world.read path ≠ .error e := by
    obtain ⟨_, more, ⟨⟩, hclause⟩ | ⟨⟨⟩, -⟩ := inputSource_eq_ok hsource
    obtain ⟨bytes, hread⟩ := hreadable path more hclause
    simp [hread]
  cases h with
  | sourceless => exact absurd rfl (hstays _)
  | unreadable hsource hbuiltin hread => exact absurd hread (hopens hsource)
  | halted hsource hnoticed hsteps =>
    obtain ⟨path, rfl, e, hread⟩ | ⟨fault, hmem⟩ | ⟨e, hleft⟩ := hsteps.halts_over
    · exact absurd hread (hopens hsource)
    · exact absurd (List.mem_append_right _ hmem) (hstarts fault)
    · exact absurd hleft (hstays e)
  | @finished source opening actions delivery notices c hsource hnoticed hsteps hdelivery =>
    obtain ⟨hnodup, last, hlast, hreaped⟩ := hsteps.reaped hnoticed
    have hsent :=
      (hsteps.sent rfl).between hnoticed.handles.neither HandlesWithoutFailure.nil.neither
    rw [List.append_nil] at hsent
    refine ⟨opening ++ actions, last, c.reaping, delivery, rfl, hsent.dispatched, fun a ha => ?_,
      hnodup, hlast, hreaped, hdelivery⟩
    exact (List.mem_append.1 ha).elim (hnoticed.unreaped a) ((hsteps.counts rfl).unreaped a)

end

/-- When the source of a chain can be read, every program starts and nothing is left, every stage is
sent off once, from left to right, and no program is waited for before that. Then the last program,
if the last stage is one, is read to its end and waited for, and all the others are waited for in
the order in which they were started, each of them once. Delivery comes last. -/
theorem chain_reaps_in_order (reg : Registry Handler) (spawner : Spawner) (p : Pipeline) (r : Run)
    (hchain : 2 ≤ p.stages.length)
    (hreadable : ∀ path more, p.clause = some ⟨.input, path :: more⟩ →
      ∃ bytes, r.world.read path = .ok bytes)
    (hstarts : ∀ fault, .notStarted fault ∉ actionsOf reg spawner p r)
    (hstays : ∀ e, (execute reg spawner p r).1 ≠ .left e) :
    ∃ sending last reaping delivery,
      actionsOf reg spawner p r = .execute p.stages :: (sending ++ reaping ++ delivery) ∧
      List.Forall₂ (Dispatches reg) p.stages (sending.filter Action.isDispatch) ∧
      (∀ a ∈ sending, a.isReaping = false) ∧ (programsOf sending).Nodup ∧
      p.stages.getLast? = some last ∧ Reaped reg last sending reaping ∧
      ∀ a ∈ delivery, a.IsDelivery := by
  obtain ⟨first, rest, hstages, hrun⟩ := execute_of_two_le reg spawner hchain r
  obtain ⟨actions, hcourse⟩ :=
    runChain_course reg spawner first rest p.clause (r.log (.execute p.stages))
  have htrace := hcourse.trace
  rw [← hrun, Run.log_trace, List.append_assoc] at htrace
  rw [actionsOf_eq reg spawner htrace] at hstarts ⊢
  rw [hrun] at hstays
  obtain ⟨sending, last, reaping, delivery, rfl, hordered⟩ := hcourse.ordered hreadable
    (fun fault hmem => hstarts fault (List.mem_cons_of_mem _ hmem)) hstays
  exact ⟨sending, last, reaping, delivery, rfl, hstages ▸ hordered⟩

/-- A builtin in the middle: the program before it is waited for in its turn. -/
theorem chain_reaps_in_order_around_builtin :
    let reg : Registry Handler := ⟨[("cd", fun _ w => (.done, w))], [], []⟩
    let spawner : Spawner := fun _ _ w => (.ok (.writing .empty true 0), w)
    let p : Pipeline := ⟨[⟨"seq", [], none⟩, ⟨"cd", [], none⟩, ⟨"sort", [], none⟩,
      ⟨"cat", [], none⟩], by decide⟩
    let r := Run.begin (.ofEntries [])
    2 ≤ p.stages.length ∧ (∀ fault, .notStarted fault ∉ actionsOf reg spawner p r) ∧
      (∀ e, (execute reg spawner p r).1 ≠ .left e) ∧
      ∃ sending last reaping delivery,
        actionsOf reg spawner p r = .execute p.stages :: (sending ++ reaping ++ delivery) ∧
        List.Forall₂ (Dispatches reg) p.stages (sending.filter Action.isDispatch) ∧
        (∀ a ∈ sending, a.isReaping = false) ∧ (programsOf sending).Nodup ∧
        p.stages.getLast? = some last ∧ Reaped reg last sending reaping ∧
        ∀ a ∈ delivery, a.IsDelivery := by
  intro reg spawner p r
  have hrun : execute reg spawner p r = (.finished ⟨"", unlines [chainBroken "cd"], 0⟩,
      ⟨r.world, 3, [.execute p.stages,
        .spawn ["seq"] (.fed .empty) (some 0), .started 0 (.writing .empty true 0), .closeStdin 0,
        .closeStdout 0, .call "cd" [], .returned .done,
        .spawn ["sort"] (.fed .empty) (some 1), .started 1 (.writing .empty true 0), .closeStdin 1,
        .spawn ["cat"] (.handoff 1 .empty) (some 2), .started 2 (.writing .empty true 0),
        .closeStdout 1, .readStdout 2, .closeStdout 2, .wait 2, .wait 0, .wait 1]⟩) := by
    have hdecode : Utf8.decode .empty = .ok "" := Utf8.decode_toByteArray ""
    simp [execute, runChain, p, r, Run.begin, Pipeline.clause, inputSource, noticeFirst, reg,
      Registry.isBuiltin, Registry.builtin?, Chain.steps, Chain.step, Chain.pending, callBuiltin,
      Run.call, Run.log, Run.logAll, spawnStage, spawnFresh, spawnHandoff, Run.spawn, spawner,
      Registry.argv, Registry.expand, Registry.alias?, Chain.finish, drain, deliver, hdecode,
      List.lookup_cons, Process.writing]
  have hactions := actionsOf_eq reg spawner (congrArg (·.2.trace) hrun)
  have hstarts : ∀ fault, .notStarted fault ∉ actionsOf reg spawner p r := by simp [hactions]
  have hstays : ∀ e, (execute reg spawner p r).1 ≠ .left e := by simp [hrun]
  exact ⟨by decide, hstarts, hstays, chain_reaps_in_order reg spawner p r (by decide)
    (by simp [p, Pipeline.clause]) hstarts hstays⟩

/-- A source that cannot be read keeps every stage from being sent off, though no program fails to
start and nothing is left; and a last program without an output handle is not read. -/
theorem chain_order_has_exceptions :
    (¬ ∀ (reg : Registry Handler) (spawner : Spawner) (p : Pipeline) (r : Run),
      2 ≤ p.stages.length → (∀ fault, .notStarted fault ∉ actionsOf reg spawner p r) →
      (∀ e, (execute reg spawner p r).1 ≠ .left e) →
        List.Forall₂ (Dispatches reg) p.stages
          ((actionsOf reg spawner p r).filter Action.isDispatch)) ∧
    ¬ ∀ (reg : Registry Handler) (spawner : Spawner) (p : Pipeline) (r : Run),
      2 ≤ p.stages.length → (∀ fault, .notStarted fault ∉ actionsOf reg spawner p r) →
      (∀ e, (execute reg spawner p r).1 ≠ .left e) →
        ∀ last ∈ p.stages.getLast?, reg.isBuiltin last.command = false →
          ∃ number, .readStdout number ∈ actionsOf reg spawner p r := by
  let reg : Registry Handler := ⟨[], [], []⟩
  let spawner : Spawner := fun _ _ w => (.ok ⟨none, true, true, 0⟩, w)
  let r := Run.begin (.ofEntries [])
  constructor
  · intro h
    let source : Path := ⟨.here, ["missing"]⟩
    let first : Stage := ⟨"cat", [], some ⟨.input, [source]⟩⟩
    let p : Pipeline := ⟨[first, ⟨"wc", [], none⟩], by decide⟩
    have hread : (r.log (.execute p.stages)).world.read source =
        .error (.system (.file .notFound (some "missing"))) := by
      have hlocate : r.world.locate source = .ok (.free ["missing"]) := by
        rw [World.locate, World.locateFrom, if_neg (by decide)]
        rfl
      have hnull : source.hasNull = false := by simp [source, Path.hasNull]
      have htext : source.text = "missing" := by decide
      rw [World.read, if_neg (by simp [hnull]), Run.log_world, hlocate]
      simp [World.readAt, World.failure, htext]
    have hrun : execute reg spawner p r =
        (.aborted [unreadable source (.file .notFound (some "missing"))] streamFailed,
          ⟨r.world, 0, [.execute p.stages, .openSource source false]⟩) := by
      have hclause : p.clause = some ⟨.input, [source]⟩ := rfl
      have hend : runChain reg spawner first [⟨"wc", [], none⟩] p.clause
          (r.log (.execute p.stages)) = unreadableEnd source _ _ :=
        runChain_unreadable hread _ hclause
      exact hend
    have hactions := actionsOf_eq reg spawner (congrArg (·.2.trace) hrun)
    have hsent := h reg spawner p r (by decide) (by simp [hactions])
      (by simp [hrun, Outcome.aborted])
    rw [hactions] at hsent
    cases hsent
  · intro h
    let p : Pipeline := ⟨[⟨"cat", [], none⟩, ⟨"wc", [], none⟩], by decide⟩
    have hrun : execute reg spawner p r = (.finished ⟨"", "", 0⟩,
        ⟨r.world, 2, [.execute p.stages,
          .spawn ["cat"] (.fed .empty) (some 0), .started 0 ⟨none, true, true, 0⟩, .closeStdin 0,
          .spawn ["wc"] (.fed .empty) (some 1), .started 1 ⟨none, true, true, 0⟩, .closeStdin 1,
          .wait 1, .wait 0]⟩) := by
      have hdecode : Utf8.decode .empty = .ok "" := Utf8.decode_toByteArray ""
      simp [execute, runChain, p, r, Run.begin, Pipeline.clause, inputSource, noticeFirst, reg,
        Registry.isBuiltin, Registry.builtin?, Chain.steps, Chain.step, Chain.pending, Run.log,
        spawnStage, spawnFresh, Run.spawn, spawner, Run.logAll,
        Registry.argv, Registry.expand, Registry.alias?, Chain.finish, drain, deliver, hdecode]
      rfl
    have hactions := actionsOf_eq reg spawner (congrArg (·.2.trace) hrun)
    obtain ⟨number, hread⟩ := h reg spawner p r (by decide) (by simp [hactions]) (by simp [hrun])
      ⟨"wc", [], none⟩ rfl rfl
    simp [hactions] at hread

end CommandShell
