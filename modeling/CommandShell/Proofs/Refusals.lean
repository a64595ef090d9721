import CommandShell.Proofs.Reaping
import CommandShell.Proofs.Targets

/-!
# Programs that are refused

When the spawner refuses a program, the run ends at its stage: the stages before it have been sent
off, those behind it are not, no program is waited for and no target is opened. The result says what
the builtins before it have given rise to, and then who was refused and why.
-/
namespace CommandShell
open Text

namespace Action

/-- Whether an action gives a handle up. -/
def isClosing : Action → Bool
  | .closeSource _ => true
  | .closeStdin _ => true
  | .closeStdout _ => true
  | _ => false

end Action

/-! ## What builtins give rise to -/

/-- The diagnostics of the builtins in a chain after one more action, with the name of the builtin
that was called last. -/
def trackNotices (noticed : String × List String) : Action → String × List String
  | .call name _ => (name, noticed.2 ++ [chainBroken name])
  | .returned ended => (noticed.1, noticed.2 ++ ended.failures noticed.1)
  | _ => noticed

/-- The diagnostics of the builtins in a chain: that each of them breaks the chain, and why it
failed if it did. -/
def builtinNotices (actions : List Action) : List String := (actions.foldl trackNotices ("", [])).2

/-- The diagnostic about the source of a clause in front of a builtin. -/
def sourceNotice (reg : Registry Handler) (first : Stage) : Option Clause → List String
  | some ⟨.input, source :: _⟩ =>
    if reg.isBuiltin first.command then [ignoredInput source first.command] else []
  | _ => []

/-- The diagnostic about the source of a pipeline whose first stage is a builtin. -/
def Pipeline.sourceNotice (reg : Registry Handler) (p : Pipeline) : List String :=
  CommandShell.sourceNotice reg (p.stages.head p.stages_ne_nil) p.clause

lemma Pipeline.sourceNotice_of_cons {p : Pipeline} {first : Stage} {rest : List Stage}
    (hstages : p.stages = first :: rest) (reg : Registry Handler) :
    p.sourceNotice reg = CommandShell.sourceNotice reg first p.clause := by
  simp only [sourceNotice, hstages, List.head_cons]

/-- There is none in front of a program. -/
lemma sourceNotice_of_program {reg : Registry Handler} {stage : Stage}
    (hprogram : reg.isBuiltin stage.command = false) (clause : Option Clause) :
    sourceNotice reg stage clause = [] := by
  simp only [sourceNotice, hprogram]
  split <;> rfl

section
variable {actions : List Action}

lemma foldl_trackNotices_of_isHandling (h : ∀ a ∈ actions, a.isHandling = true)
    (noticed : String × List String) : actions.foldl trackNotices noticed = noticed := by
  refine List.foldlRecOn (motive := (· = noticed)) actions trackNotices rfl ?_
  intro _ hnoticed a ha
  cases a with
  | call | returned => cases h _ ha
  | _ => exact hnoticed

lemma notStarted_notMem {fault : SpawnFault} (h : ∀ a ∈ actions, a.isFailure = false) :
    .notStarted fault ∉ actions := fun hmem => Bool.noConfusion (h _ hmem)

lemma not_isDelivery_of_isHandling (h : ∀ a ∈ actions, a.isHandling = true) :
    ∀ a ∈ actions, ¬ a.IsDelivery := by
  intro a ha hdelivery
  cases hdelivery <;> cases h _ ha

lemma Wiring.foldl_trackNotices (wiring : Wiring) (argv : List String)
    (answer : Except SpawnFault (Nat × Process)) (noticed : String × List String) :
    (wiring.actions argv answer).foldl trackNotices noticed = noticed := by
  have hspawn : (spawnActions argv wiring.stdin answer).foldl trackNotices noticed = noticed := by
    cases answer <;> rfl
  rw [Wiring.actions, List.foldl_append, List.foldl_append,
    foldl_trackNotices_of_isHandling wiring.opening_handles.isHandling, hspawn,
    foldl_trackNotices_of_isHandling (wiring.closing_handles answer).isHandling]

variable {reg : Registry Handler} {spawner : Spawner} {c d : Chain} {source : Option Path}
  {stage : Stage} {stages : List Stage} {result : Except (Outcome × Run) Chain}
  {notices seen : List String}

lemma Chain.Step.messages (h : Chain.Step reg spawner c source stage actions (.ok d))
    (hseen : c.messages = notices ++ seen) (name : String) :
    d.messages = notices ++ (actions.foldl trackNotices (name, seen)).2 := by
  cases h with
  | called =>
    rw [callActions, List.foldl_append,
      foldl_trackNotices_of_isHandling (closePending_handles c.pending).isHandling]
    simp [trackNotices, hseen]
  | @started wiring => rw [wiring.foldl_trackNotices, hseen]

lemma Chain.Steps.messages (h : Chain.Steps reg spawner c source stages actions result)
    (hresult : result = .ok d) (hseen : c.messages = notices ++ seen) (name : String) :
    d.messages = notices ++ (actions.foldl trackNotices (name, seen)).2 := by
  induction h generalizing name seen with
  | nil =>
    cases hresult
    exact hseen
  | halt => cases hresult
  | step hstep hrest ih =>
    rw [List.foldl_append]
    exact ih hresult (hstep.messages hseen name) _

lemma Noticed.notices_eq {first : Stage} {w : World} {clause : Option Clause}
    {opening : List Action} (hsource : inputSource clause = .ok source)
    (h : Noticed reg first w source opening notices) : notices = sourceNotice reg first clause := by
  obtain ⟨path, more, rfl, rfl⟩ | ⟨rfl, hop⟩ := inputSource_eq_ok hsource
  · cases h with
    | program _ hprogram => simp [sourceNotice, Registry.isBuiltin, hprogram]
    | ignored hbuiltin => simp [sourceNotice, isBuiltin_of_eq hbuiltin]
  · have hnone : sourceNotice reg first clause = [] := by
      unfold sourceNotice
      split
      · exact absurd rfl (hop _ rfl)
      · rfl
    rw [hnone]
    cases h <;> rfl

end

/-! ## Where a program is refused -/

/-- A run of some stages from a world has ended at one of them, whose program was refused: the
stages in front of it have been sent off, and what comes after the refusal is the closing of
handles. -/
structure RefusedAt (reg : Registry Handler) (spawner : Spawner) (stages : List Stage) (w : World)
    (notices : List String) (program reason : String) (actions : List Action)
    (ended : Outcome × Run) (front : List Stage) (stage : Stage) (stdin : Stdin)
    (before after : List Action) : Prop where
  isNext : front ++ [stage] <+: stages
  isProgram : reg.isBuiltin stage.command = false
  actions_eq : actions = before ++ spawnActions (reg.argv stage.command stage.args) stdin
    (.error (.refused program reason)) ++ after
  refused : spawner (reg.argv stage.command stage.args) stdin (worldLeft reg spawner w before) =
    (.error (.refused program reason), ended.2.world)
  dispatched : List.Forall₂ (Dispatches reg) front (before.filter Action.isDispatch)
  faultless : ∀ a ∈ before, a.isFailure = false
  unreaped : ∀ a ∈ before, a.isReaping = false
  undelivered : ∀ a ∈ before, ¬ a.IsDelivery
  closing : ∀ a ∈ after, a.isClosing = true
  outcome_eq : ended.1 = .finished ⟨"",
    unlines (notices ++ builtinNotices before) ++ (program ++ ": " ++ reason ++ "\n"), 127⟩

section
variable {reg : Registry Handler} {spawner : Spawner} {program reason : String}
  {stages front : List Stage} {stage : Stage} {w : World} {notices messages : List String}
  {first actions before after : List Action} {ended : Outcome × Run} {stdin : Stdin}

/-- What is done about handles ahead of a run makes no difference to where it ends. -/
lemma RefusedAt.behind (h : RefusedAt reg spawner stages w notices program reason actions ended
      front stage stdin before after) (hfirst : HandlesWithoutFailure first)
    (hunreaped : ∀ a ∈ first, a.isReaping = false) :
    RefusedAt reg spawner stages w notices program reason (first ++ actions) ended front stage
      stdin (first ++ before) after where
  isNext := h.isNext
  isProgram := h.isProgram
  actions_eq := by rw [h.actions_eq, List.append_assoc, List.append_assoc, List.append_assoc]
  refused := by rw [worldLeft_append, worldLeft_of_idle hfirst.neither.isSending, h.refused]
  dispatched := by
    rw [List.filter_append, filter_isDispatch_of_idle hfirst.neither.isSending]
    exact h.dispatched
  faultless a ha := (List.mem_append.1 ha).elim (hfirst.neither.isFailure a) (h.faultless a)
  unreaped a ha := (List.mem_append.1 ha).elim (hunreaped a) (h.unreaped a)
  undelivered a ha := (List.mem_append.1 ha).elim
    (not_isDelivery_of_isHandling hfirst.isHandling a) (h.undelivered a)
  closing := h.closing
  outcome_eq := by
    rw [h.outcome_eq, builtinNotices, builtinNotices, List.foldl_append,
      foldl_trackNotices_of_isHandling hfirst.isHandling]

lemma Wiring.closing_isClosing (wiring : Wiring) (fault : SpawnFault) :
    ∀ a ∈ wiring.closing (.error fault), a.isClosing = true := by
  cases wiring <;> simp [closing, Action.isClosing]

lemma spawnFault_refused (messages : List String) :
    (spawnFault (.refused program reason)).outcome messages =
      .finished ⟨"", unlines messages ++ (program ++ ": " ++ reason ++ "\n"), 127⟩ := by
  simp [spawnFault, StageFault.outcome, Outcome.aborted, unlines_append, SpawnFault.message,
    spawnFailed]
  rfl

lemma Wiring.fault_refused (wiring : Wiring) :
    wiring.fault (.refused program reason) = spawnFault (.refused program reason) := by
  cases wiring <;> rfl

lemma Wiring.eq_of_notStarted_mem {wiring : Wiring} {argv : List String}
    {fault other : SpawnFault} (h : .notStarted other ∈ wiring.actions argv (.error fault)) :
    fault = other := by
  simp only [actions, List.mem_append, notStarted_notMem wiring.opening_handles.neither.isFailure,
    notStarted_notMem (wiring.closing_handles _).neither.isFailure, false_or, or_false] at h
  simpa [spawnActions, eq_comm] using h

lemma notStarted_notMem_callActions (pending : Option (Nat × ByteArray)) (stage : Stage)
    (ended : HandlerEnd) (fault : SpawnFault) :
    .notStarted fault ∉ callActions pending stage ended := by
  cases pending <;> simp [callActions, closePending]

/-- A chain with a refusal in it has halted there. -/
theorem Chain.Steps.refused {c : Chain} {source : Option Path}
    (h : Chain.Steps reg spawner c source stages actions (.error ended))
    (hrefused : .notStarted (.refused program reason) ∈ actions) :
    ∃ front stage stdin before after, RefusedAt reg spawner stages c.run.world c.messages program
      reason actions ended front stage stdin before after := by
  obtain ⟨front, stage, back, b, source', earlier, lastly, rfl, rfl, hfront, hhalt, -⟩ :=
    h.exists_halt rfl
  have hsent := hfront.sent rfl
  have hleads := hfront.leads
  have hlastly : .notStarted (.refused program reason) ∈ lastly :=
    (List.mem_append.1 hrefused).resolve_left (notStarted_notMem hsent.faultless)
  cases hhalt with
  | left => exact absurd hlastly (notStarted_notMem_callActions _ _ _ _)
  | unopened => simp at hlastly
  | @notStarted wiring fault w hprogram hwired hspawn =>
    obtain rfl := Wiring.eq_of_notStarted_mem hlastly
    have hopening := wiring.opening_handles
    refine ⟨front, stage, wiring.stdin, earlier ++ wiring.opening,
      wiring.closing (.error (.refused program reason)),
      { isNext := ⟨back, by simp⟩
        isProgram := isBuiltin_of_eq_none hprogram
        actions_eq := by simp only [Wiring.actions, List.append_assoc]
        refused := ?_
        dispatched := ?_
        faultless := fun a ha => ?_
        unreaped := fun a ha => ?_
        undelivered := fun a ha => ?_
        closing := wiring.closing_isClosing _
        outcome_eq := ?_ }⟩
    · have hworld := hleads.world
      rw [worldLeft_append, worldLeft_of_idle hopening.neither.isSending, ← hworld]
      exact hspawn
    · rw [List.filter_append, filter_isDispatch_of_idle hopening.neither.isSending, List.append_nil]
      exact hsent.dispatched
    · exact (List.mem_append.1 ha).elim (hsent.faultless a) (hopening.neither.isFailure a)
    · exact (List.mem_append.1 ha).elim ((hfront.counts rfl).unreaped a)
        (wiring.opening_unreaped a)
    · exact (List.mem_append.1 ha).elim (hleads.quiet a)
        (not_isDelivery_of_isHandling hopening.isHandling a)
    · have hmessages := hfront.messages rfl (List.append_nil _).symm ""
      rw [wiring.fault_refused, spawnFault_refused, hmessages, builtinNotices, List.foldl_append,
        foldl_trackNotices_of_isHandling hopening.isHandling]

end

/-! ## A stage alone -/

section
variable {reg : Registry Handler} {spawner : Spawner} {program reason : String} {stage : Stage}
  {r : Run} {actions : List Action} {ended : Outcome × Run}

/-- Nothing is waited for to find out what a program alone reads. -/
lemma Fed.unreaped {clause : Option Clause} {w : World} {stdin : Stdin} {opening : List Action}
    (h : Fed clause w stdin opening) : ∀ a ∈ opening, a.isReaping = false := by
  cases h <;> simp [Action.isReaping]

/-- A run of a stage alone whose program is refused ends there. -/
theorem SingleCourse.refused (h : SingleCourse reg spawner stage r actions ended)
    (hrefused : .notStarted (.refused program reason) ∈ actions) :
    ∃ stdin before after, RefusedAt reg spawner [stage] r.world
      (sourceNotice reg stage stage.clause) program reason actions ended [] stage stdin before
      after := by
  cases h with
  | sourceless => cases hrefused
  | unreadable => simp at hrefused
  | left hsource hnoticed =>
    simp [notStarted_notMem hnoticed.handles.neither.isFailure] at hrefused
  | uncollected hfed =>
    simp [spawnActions, notStarted_notMem hfed.handles.neither.isFailure] at hrefused
  | delivered hcomes hdelivery =>
    simp [notStarted_notMem hcomes.completed.faultless,
      notStarted_notMem (neither_of_delivery hdelivery).isFailure] at hrefused
  | @notStarted stdin opening fault w hfed hprogram hspawn =>
    obtain rfl : fault = .refused program reason := by
      simpa [spawnActions, notStarted_notMem hfed.handles.neither.isFailure, eq_comm]
        using hrefused
    have hbuiltin : reg.isBuiltin stage.command = false := isBuiltin_of_eq_none hprogram
    rw [sourceNotice_of_program hbuiltin]
    have hhere : RefusedAt reg spawner [stage] r.world [] program reason
        (spawnActions (reg.argv stage.command stage.args) stdin (.error (.refused program reason)))
        ((spawnFault (.refused program reason)).outcome [], ⟨w, r.started, r.trace ++
          (opening ++ spawnActions (reg.argv stage.command stage.args) stdin
            (.error (.refused program reason)))⟩) [] stage stdin [] [] :=
      { isNext := List.prefix_rfl
        isProgram := hbuiltin
        actions_eq := (List.append_nil _).symm
        refused := hspawn
        dispatched := .nil
        faultless := by simp
        unreaped := by simp
        undelivered := by simp
        closing := by simp
        outcome_eq := spawnFault_refused [] }
    exact ⟨stdin, _, [], hhere.behind hfed.handles hfed.unreaped⟩

end

/-! ## Any run -/

section
variable {reg : Registry Handler} {spawner : Spawner} {first : Stage} {rest : List Stage}
  {clause : Option Clause} {r : Run} {actions : List Action} {ended : Outcome × Run}
  {program reason : String}

/-- A chain in whose course a program is refused ends there. -/
theorem ChainCourse.refused (h : ChainCourse reg spawner first rest clause r actions ended)
    (hrefused : .notStarted (.refused program reason) ∈ actions) :
    ∃ front stage stdin before after,
      RefusedAt reg spawner (first :: rest) r.world (sourceNotice reg first clause) program reason
        actions ended front stage stdin before after := by
  cases h with
  | sourceless => cases hrefused
  | unreadable => simp at hrefused
  | @halted source opening actions notices ended hsource hnoticed hsteps =>
    have hopening : .notStarted (.refused program reason) ∉ opening :=
      notStarted_notMem hnoticed.handles.neither.isFailure
    obtain ⟨front, stage, stdin, before, after, hat⟩ :=
      hsteps.refused ((List.mem_append.1 hrefused).resolve_left hopening)
    obtain rfl := hnoticed.notices_eq hsource
    exact ⟨front, stage, stdin, _, after, hat.behind hnoticed.handles hnoticed.unreaped⟩
  | @finished source opening actions delivery notices c hsource hnoticed hsteps hdelivery =>
    simp only [List.mem_append, notStarted_notMem hnoticed.handles.neither.isFailure,
      notStarted_notMem (hsteps.sent rfl).faultless,
      notStarted_notMem c.reaping_handles.neither.isFailure,
      notStarted_notMem (neither_of_delivery hdelivery).isFailure, or_false] at hrefused

end

/-- When a program of a run is refused, the run ends at its stage. The stages in front of it have
been sent off, in order and each of them once, and none behind it is; no program is waited for, no
target is opened, and the world is left as the spawner has left it. The result says what the
builtins in front have given rise to, and last who was refused and why. -/
theorem refused_program_ends_run (reg : Registry Handler) (spawner : Spawner) (p : Pipeline)
    (r : Run) (program reason : String)
    (hrefused : .notStarted (.refused program reason) ∈ actionsOf reg spawner p r) :
    ∃ front stage stdin before after,
      RefusedAt reg spawner p.stages r.world (p.sourceNotice reg) program reason
        (actionsOf reg spawner p r) (execute reg spawner p r) front stage stdin before after := by
  have hfirst : HandlesWithoutFailure [.execute p.stages] := by
    simp [HandlesWithoutFailure, Action.isHandling, Action.isFailure]
  have hunreaped : ∀ a ∈ [Action.execute p.stages], a.isReaping = false := by
    simp [Action.isReaping]
  obtain ⟨actions, hactions, hcourse⟩ := execute_course reg spawner p r
  rw [hactions] at hrefused ⊢
  replace hrefused := (List.mem_cons.1 hrefused).resolve_left Action.noConfusion
  cases hcourse with
  | chain hstages hchain hcourse =>
    obtain ⟨front, stage, stdin, before, after, hat⟩ := hcourse.refused hrefused
    rw [p.sourceNotice_of_cons hstages]
    rw [← hstages] at hat
    exact ⟨front, stage, stdin, _, after, hat.behind hfirst hunreaped⟩
  | @single stage hstages hclause hcourse =>
    obtain ⟨stdin, before, after, hat⟩ := hcourse.refused hrefused
    rw [p.sourceNotice_of_cons hstages, hclause]
    rw [← hstages] at hat
    exact ⟨[], stage, stdin, _, after, hat.behind hfirst hunreaped⟩

/-- A program that is refused between a builtin that fails and a program, in front, and a builtin
that leaves and a target, behind. -/
theorem refused_program_ends_run_in_middle :
    let reg : Registry Handler := ⟨[("cd", fun _ w => (.failed "no folder", w.say "moved")),
      ("exit", fun _ w => (.left (.exit 0), w))], [], []⟩
    let spawner : Spawner := fun argv _ w =>
      if argv = ["lost"] then (.error (.refused "lost" "command not found"), w)
      else (.ok (.writing .empty true 0), w.say "started")
    let p : Pipeline := ⟨[⟨"cd", [], none⟩, ⟨"seq", [], none⟩, ⟨"lost", [], none⟩,
      ⟨"exit", [], some ⟨.output, [⟨.here, ["f"]⟩]⟩⟩], by decide⟩
    let r := Run.begin (.ofEntries [])
    .notStarted (.refused "lost" "command not found") ∈ actionsOf reg spawner p r ∧
      ∃ front stage stdin before after,
        RefusedAt reg spawner p.stages r.world (p.sourceNotice reg) "lost" "command not found"
          (actionsOf reg spawner p r) (execute reg spawner p r) front stage stdin before after := by
  intro reg spawner p r
  have hlost : spawner ["lost"] =
      fun _ w => (.error (.refused "lost" "command not found"), w) := rfl
  have hseq : spawner ["seq"] = fun _ w => (.ok (.writing .empty true 0), w.say "started") := rfl
  have hrefused : .notStarted (.refused "lost" "command not found") ∈
      actionsOf reg spawner p r := by
    simp [actionsOf, execute, runChain, p, r, Run.begin, Pipeline.clause, inputSource, noticeFirst,
      reg, Registry.isBuiltin, Registry.builtin?, Chain.steps, Chain.step, Chain.pending,
      callBuiltin, Run.call, Run.log, Run.logAll, spawnStage, spawnFresh, spawnHandoff, Run.spawn,
      hlost, hseq, Registry.argv, Registry.expand, Registry.alias?, List.lookup_cons,
      noticeIgnored, Process.writing]
  exact ⟨hrefused, refused_program_ends_run reg spawner p r _ _ hrefused⟩

end CommandShell
