import CommandShell.Proofs.Endings
import CommandShell.Proofs.Planning

/-!
# Runs without a source

Without a source a run does not look at its clause before delivery. What it comes to until then
depends on the calls of its stages and on the world alone, whatever its trace says: nobody reads the
trace. So pipelines of the same calls come to the same, and only hand it over differently.
-/
namespace CommandShell

/-! ## More in front -/

/-- A run with more in front of its trace. -/
def Run.behind (earlier : List Action) (r : Run) : Run := { r with trace := earlier ++ r.trace }

/-- A chain with more in front of its trace. -/
def Chain.behind (earlier : List Action) (c : Chain) : Chain :=
  { c with run := c.run.behind earlier }

/-- What dispatching has come to, with more in front of the trace. -/
def behind (earlier : List Action) :
    Except (Outcome × Run) Chain → Except (Outcome × Run) Chain
  | .error halted => .error (halted.1, halted.2.behind earlier)
  | .ok c => .ok (c.behind earlier)

section
variable {reg : Registry Handler} {spawner : Spawner} (earlier : List Action)

lemma Run.log_behind (r : Run) (a : Action) :
    (r.behind earlier).log a = (r.log a).behind earlier := by
  simp [behind, log]

lemma Run.logAll_behind (r : Run) (actions : List Action) :
    (r.behind earlier).logAll actions = (r.logAll actions).behind earlier := by
  simp [behind, logAll]

lemma Run.spawn_behind (argv : List String) (stdin : Stdin) (r : Run) :
    (r.behind earlier).spawn spawner argv stdin =
      Prod.map id (behind earlier) (r.spawn spawner argv stdin) := by
  cases hspawn : spawner argv stdin r.world with
  | mk answer w =>
    have hbehind : spawner argv stdin (r.behind earlier).world = (answer, w) := hspawn
    cases answer with
    | ok process =>
      rw [spawn_of_ok hspawn, spawn_of_ok hbehind]
      simp [behind]
    | error fault =>
      rw [spawn_of_error hspawn, spawn_of_error hbehind]
      simp [behind]

lemma callBuiltin_behind (handler : Handler) (stage : Stage) (r : Run) :
    callBuiltin handler stage (r.behind earlier) =
      Prod.map id (Run.behind earlier) (callBuiltin handler stage r) := by
  cases hcall : handler (stage.args.map Path.ofString) r.world with
  | mk ended w =>
    have hbehind : handler (stage.args.map Path.ofString) (r.behind earlier).world = (ended, w) :=
      hcall
    rw [callBuiltin_of_eq hcall, callBuiltin_of_eq hbehind]
    simp [Run.behind]

lemma Run.openSource_behind (path : Path) (r : Run) :
    (r.behind earlier).openSource path = Prod.map id (behind earlier) (r.openSource path) := by
  simp [openSource, behind, log]

lemma spawnStage_behind (argv : List String) (pending : Option (Nat × ByteArray))
    (source : Option Path) (r : Run) :
    spawnStage spawner argv pending source (r.behind earlier) =
      Prod.map id (Run.behind earlier) (spawnStage spawner argv pending source r) := by
  cases pending with
  | some handle =>
    simp only [spawnStage, spawnHandoff, Run.spawn_behind]
    obtain ⟨answer, r'⟩ := r.spawn spawner argv (.handoff handle.1 handle.2)
    cases answer <;> simp [Run.log_behind]
  | none =>
    cases source with
    | some path =>
      simp only [spawnStage, spawnSource, Run.openSource_behind]
      obtain ⟨contents, r'⟩ := r.openSource path
      cases contents with
      | error e => rfl
      | ok bytes =>
        have hworld : (r'.behind earlier).world = r'.world := rfl
        simp only [Prod.map, id, hworld, Run.spawn_behind]
        obtain ⟨answer, s⟩ := r'.spawn spawner argv (.source (r'.world.identity? path) bytes)
        cases answer with
        | ok started => simp [Run.log_behind]
        | error fault => cases fault <;> simp [Run.log_behind]
    | none =>
      simp only [spawnStage, spawnFresh, Run.spawn_behind]
      obtain ⟨answer, r'⟩ := r.spawn spawner argv (.fed .empty)
      cases answer with
      | ok started => cases hinput : started.2.hasInput <;> simp [hinput, Run.log_behind]
      | error fault => rfl

lemma Chain.step_behind (c : Chain) (source : Option Path) (stage : Stage) :
    (c.behind earlier).step reg spawner source stage =
      CommandShell.behind earlier (c.step reg spawner source stage) := by
  have hrun : (c.behind earlier).run = c.run.behind earlier := rfl
  have hpending : (c.behind earlier).pending = c.pending := rfl
  cases hbuiltin : reg.builtin? stage.command with
  | some handler =>
    rw [step_of_builtin reg spawner hbuiltin, step_of_builtin reg spawner hbuiltin, hrun, hpending,
      Run.logAll_behind, callBuiltin_behind]
    obtain ⟨answer, r⟩ := callBuiltin handler stage (c.run.logAll (closePending c.pending))
    cases answer <;> rfl
  | none =>
    simp only [step, hbuiltin, hrun, hpending, spawnStage_behind]
    obtain ⟨answer, r⟩ :=
      spawnStage spawner (reg.argv stage.command stage.args) c.pending source c.run
    cases answer <;> rfl

lemma Chain.steps_behind (c : Chain) (source : Option Path) (stages : List Stage) :
    (c.behind earlier).steps reg spawner source stages =
      CommandShell.behind earlier (c.steps reg spawner source stages) := by
  induction stages generalizing c source with
  | nil => rfl
  | cons stage rest ih =>
    rw [steps, steps, step_behind]
    cases c.step reg spawner source stage with
    | error halted => rfl
    | ok d => exact ih d none

lemma Chain.steps_eq_calls (c : Chain) (source : Option Path) (stages : List Stage) :
    c.steps reg spawner source stages =
      c.steps reg spawner source ((stages.map Stage.call).map Stage.ofCall) := by
  induction stages generalizing c source with
  | nil => rfl
  | cons stage rest ih =>
    have hstep : c.step reg spawner source stage =
        c.step reg spawner source (Stage.ofCall stage.call) := rfl
    rw [List.map_cons, List.map_cons, steps, steps, hstep]
    cases c.step reg spawner source (Stage.ofCall stage.call) with
    | error halted => rfl
    | ok d => exact ih d none

end

/-! ## Dispatch and delivery apart -/

/-- A chain of which every program has been waited for. -/
def Chain.reaped (c : Chain) : Chain := { c with run := c.run.logAll c.reaping }

/-- What dispatching has come to is handed over; after a halt there is nothing to hand over. -/
def handOver (clause : Option Clause) : Except (Outcome × Run) Chain → Outcome × Run
  | .error halted => halted
  | .ok c => deliver c.output.1 c.output.2 clause c.messages c.run

/-- Dispatching has halted at a failure, or it has met none and has what the last stage wrote.
Nothing has been delivered. -/
inductive Dispatched : Except (Outcome × Run) Chain → Prop
  | halted {outcome : Outcome} {r : Run} (hquiet : ∀ a ∈ r.trace, ¬ a.IsDelivery)
      (hfailure : ∃ a ∈ r.trace, a.isFailure = true) : Dispatched (.error (outcome, r))
  | done {c : Chain} (hquiet : ∀ a ∈ c.run.trace, ¬ a.IsDelivery)
      (hnone : ∀ a ∈ c.run.trace, a.isFailure = false)
      (houtput : c.output.1 = lastOutput c.run.trace) : Dispatched (.ok c)

section
variable {reg : Registry Handler} {spawner : Spawner} {c : Chain} {source : Option Path}
  {actions : List Action} {result : Except (Outcome × Run) Chain} {halted : Outcome × Run}

lemma Chain.Step.fails {stage : Stage}
    (h : Chain.Step reg spawner c source stage actions (.error halted)) :
    ∃ a ∈ actions, a.isFailure = true := by
  cases h with
  | @left handler e => exact ⟨.returned (.left e), by simp [callActions], rfl⟩
  | unopened => exact ⟨_, List.mem_singleton_self _, rfl⟩
  | @notStarted wiring fault =>
    exact ⟨.notStarted fault, by simp [Wiring.actions, spawnActions], rfl⟩

lemma Chain.Steps.fails {stages : List Stage}
    (h : Chain.Steps reg spawner c source stages actions result)
    (hresult : result = .error halted) : ∃ a ∈ actions, a.isFailure = true := by
  induction h with
  | nil => cases hresult
  | halt hstep => exact hstep.fails
  | step hstep hrest ih =>
    obtain ⟨a, ha, hfails⟩ := ih hresult
    exact ⟨a, List.mem_append_right _ ha, hfails⟩

lemma Dispatched.of_steps {stages : List Stage} {w : World} {started : Nat}
    (h : Chain.Steps reg spawner ⟨⟨w, started, []⟩, [], [], none⟩ none stages actions result) :
    Dispatched (result.map Chain.reaped) := by
  have htrace : (reached result).trace = actions := h.trace
  cases result with
  | error halted =>
    obtain ⟨outcome, r⟩ := halted
    obtain rfl : r.trace = actions := htrace
    exact .halted h.leads.quiet (h.fails rfl)
  | ok c =>
    obtain rfl : c.run.trace = actions := htrace
    have hsent := (h.sent rfl).between HandlesWithoutFailure.nil.neither c.reaping_handles.neither
    have hquiet := h.leads.append (.of_handling c.reaping_handles.isHandling)
    exact .done hquiet.quiet hsent.faultless hsent.output

lemma conclude_behind (earlier : List Action) (clause : Option Clause) :
    Chain.conclude clause (behind earlier result) =
      handOver clause (behind earlier (result.map Chain.reaped)) := by
  cases result with
  | error halted => rfl
  | ok c =>
    have hreaping : (c.behind earlier).reaping = c.reaping := rfl
    have hrun : (c.behind earlier).run = c.run.behind earlier := rfl
    rw [behind, Chain.conclude, Chain.finish_eq, hreaping, hrun, Run.logAll_behind]
    rfl

lemma inputSource_eq_none {clause : Option Clause} (h : ∀ c ∈ clause, c.op ≠ .input) :
    inputSource clause = .ok none := by
  cases clause with
  | none => rfl
  | some c => exact if_neg (h c rfl)

variable (reg spawner)

/-- What a chain comes to until delivery depends on its calls, not on its clause. -/
lemma exists_dispatched_chain (calls : List Call) (w : World) (started : Nat) :
    ∃ result, Dispatched result ∧ ∀ first rest clause trace,
      (first :: rest).map Stage.call = calls → (∀ c ∈ clause, Clause.op c ≠ .input) →
      runChain reg spawner first rest clause ⟨w, started, trace⟩ =
        handOver clause (behind trace result) := by
  obtain ⟨actions, hsteps⟩ := Chain.steps_spec reg spawner ⟨⟨w, started, []⟩, [], [], none⟩ none
    (calls.map Stage.ofCall)
  refine ⟨_, .of_steps hsteps, ?_⟩
  rintro first rest clause trace rfl hclause
  have hnoticed : Noticed reg first w none [] [] := by
    cases hbuiltin : reg.builtin? first.command with
    | none => exact .program none hbuiltin
    | some handler => exact .sourceless hbuiltin
  have hstart : (⟨Run.logAll ⟨w, started, trace⟩ [], [], [], none⟩ : Chain) =
      Chain.behind trace ⟨⟨w, started, []⟩, [], [], none⟩ := by
    simp [Chain.behind, Run.behind, Run.logAll]
  rw [runChain_of_noticed (inputSource_eq_none hclause) hnoticed, hstart, Chain.steps_eq_calls,
    Chain.steps_behind, conclude_behind]

section
variable {stage : Stage} {w w' : World} {started : Nat} {trace : List Action}
  (hclause : ∀ c ∈ stage.clause, c.op ≠ .input)
include hclause

lemma runSingle_of_call {handler : Handler} {ended : HandlerEnd}
    (hbuiltin : reg.builtin? stage.command = some handler)
    (hcall : handler (stage.args.map Path.ofString) w = (ended, w')) :
    runSingle reg spawner stage ⟨w, started, trace⟩ =
      let r : Run :=
        ⟨w', started, trace ++ [.call stage.command stage.args, .returned ended]⟩
      match ended.handedBack stage.command with
      | .error e => (.left e, r)
      | .ok failures => deliver .empty 0 stage.clause failures r := by
  have hback := callBuiltin_of_eq (r := ⟨w, started, trace⟩) hcall
  simp only [runSingle, hbuiltin, runBuiltin, inputSource_eq_none hclause, noticeIgnored, hback]
  cases ended <;> rfl

lemma runSingle_of_spawn {reply : Except SpawnFault Process}
    (hprogram : reg.builtin? stage.command = none)
    (hspawn : spawner (reg.argv stage.command stage.args) .inherited w = (reply, w')) :
    runSingle reg spawner stage ⟨w, started, trace⟩ =
      match reply with
      | .error fault => ((spawnFault fault).outcome [], ⟨w', started,
          trace ++ spawnActions (reg.argv stage.command stage.args) .inherited (.error fault)⟩)
      | .ok process => collect started process none stage.clause
          ⟨w', started + 1, trace ++ spawnActions (reg.argv stage.command stage.args) .inherited
            (.ok (started, process))⟩ := by
  have hinput : singleInput stage.clause ⟨w, started, trace⟩ =
      (.ok .inherited, ⟨w, started, trace⟩) := by
    cases hc : stage.clause with
    | none => rfl
    | some c => exact if_neg (hclause c hc)
  cases reply with
  | error fault =>
    have hstart := Run.spawn_of_error (r := ⟨w, started, trace⟩) hspawn
    simp only [runSingle, hprogram, runProgram, hinput, hstart]
  | ok process =>
    have hstart := Run.spawn_of_ok (r := ⟨w, started, trace⟩) hspawn
    simp only [runSingle, hprogram, runProgram, hinput, hstart, Stdin.feed]

end

lemma exists_dispatched_single (call : Call) (w : World) (started : Nat) :
    ∃ result, Dispatched result ∧ ∀ stage trace, Stage.call stage = call →
      (∀ c ∈ stage.clause, c.op ≠ .input) →
      runSingle reg spawner stage ⟨w, started, trace⟩ =
        handOver stage.clause (behind trace result) := by
  cases hbuiltin : reg.builtin? call.1 with
  | some handler =>
    cases hcall : handler (call.2.map Path.ofString) w with
    | mk ended w' =>
      have hleads : Leads reg spawner w [.call call.1 call.2, .returned ended] w' :=
        .of_call hbuiltin hcall
      have hdone (failures : List String) (hback : ∀ e, ended ≠ .left e) : Dispatched
          (.ok ⟨⟨w', started, [.call call.1 call.2, .returned ended]⟩, failures, [], none⟩) :=
        .done hleads.quiet (not_isFailure_of_call hback) rfl
      cases ended with
      | left e =>
        refine ⟨.error (.left e, ⟨w', started, [.call call.1 call.2, .returned (.left e)]⟩),
          .halted hleads.quiet ⟨.returned (.left e), by simp, rfl⟩, ?_⟩
        rintro stage trace rfl hclause
        exact runSingle_of_call reg spawner hclause hbuiltin hcall
      | done =>
        refine ⟨_, hdone [] fun e => HandlerEnd.noConfusion, ?_⟩
        rintro stage trace rfl hclause
        exact runSingle_of_call reg spawner hclause hbuiltin hcall
      | failed reason =>
        refine ⟨_, hdone [builtinFailed call.1 reason] fun e => HandlerEnd.noConfusion, ?_⟩
        rintro stage trace rfl hclause
        exact runSingle_of_call reg spawner hclause hbuiltin hcall
  | none =>
    cases hspawn : spawner (reg.argv call.1 call.2) .inherited w with
    | mk reply w' =>
      cases reply with
      | error fault =>
        have hleads : Leads reg spawner w
            (spawnActions (reg.argv call.1 call.2) .inherited (.error fault)) w' :=
          .of_spawn hspawn
        refine ⟨.error ((spawnFault fault).outcome [], ⟨w', started, _⟩),
          .halted hleads.quiet ⟨.notStarted fault, by simp, rfl⟩, ?_⟩
        rintro stage trace rfl hclause
        exact runSingle_of_spawn reg spawner hclause hbuiltin hspawn
      | ok process =>
        have hleads {later : List Action} (hlater : ∀ a ∈ later, a.isHandling = true) :
            Leads reg spawner w
              (spawnActions (reg.argv call.1 call.2) .inherited (.ok (started, process)) ++ later)
              w' :=
          (Leads.of_spawn hspawn).append (.of_handling hlater)
        have hwait : ∀ a ∈ [Action.communicate started none], a.isHandling = true := by
          simp [Action.isHandling]
        have hlacking : ∀ a ∈ [Action.communicate started none, .uncollected started],
            a.isHandling = true := by
          simp [Action.isHandling]
        cases hcollected : process.collected with
        | some raw =>
          refine ⟨.ok ⟨⟨w', started + 1, _⟩, [], [started], some (started, process)⟩,
            .done (hleads hwait).quiet (by simp [spawnActions, Action.isFailure]) rfl, ?_⟩
          rintro stage trace rfl hclause
          rw [runSingle_of_spawn reg spawner hclause hbuiltin hspawn]
          dsimp only
          rw [collect_of_some _ _ _ hcollected, Run.log, List.append_assoc]
          rfl
        | none =>
          refine ⟨.error (.left .outputMissing, ⟨w', started + 1, _⟩),
            .halted (hleads hlacking).quiet ⟨.uncollected started, by simp, rfl⟩, ?_⟩
          rintro stage trace rfl hclause
          rw [runSingle_of_spawn reg spawner hclause hbuiltin hspawn]
          dsimp only
          rw [collect_of_none _ _ _ hcollected, Run.logAll, List.append_assoc]
          rfl

/-- What a pipeline without a source comes to until delivery depends on its calls, not on its
clause. -/
theorem exists_dispatched (p : Pipeline) (w : World) (started : Nat) :
    ∃ result, Dispatched result ∧ ∀ (q : Pipeline) trace,
      q.stages.map Stage.call = p.stages.map Stage.call → (∀ c ∈ q.clause, c.op ≠ .input) →
      execute reg spawner q ⟨w, started, trace⟩ =
        handOver q.clause (behind (trace ++ [.execute q.stages]) result) := by
  by_cases hchain : 2 ≤ p.stages.length
  · obtain ⟨result, hresult, hrun⟩ :=
      exists_dispatched_chain reg spawner (p.stages.map Stage.call) w started
    refine ⟨result, hresult, fun q trace hcalls hclause => ?_⟩
    have hlength : q.stages.length = p.stages.length := by
      simpa using congrArg List.length hcalls
    obtain ⟨first, rest, hstages, hexecute⟩ :=
      execute_of_two_le reg spawner (hlength ▸ hchain) ⟨w, started, trace⟩
    rw [hexecute]
    exact hrun first rest q.clause _ (hstages ▸ hcalls) hclause
  · obtain ⟨stage, hp, -⟩ :=
      execute_of_lt_two reg spawner (Nat.lt_of_not_le hchain) ⟨w, started, []⟩
    obtain ⟨result, hresult, hrun⟩ :=
      exists_dispatched_single reg spawner stage.call w started
    refine ⟨result, hresult, fun q trace hcalls hclause => ?_⟩
    have hlength : q.stages.length = p.stages.length := by
      simpa using congrArg List.length hcalls
    obtain ⟨stage', hq, hsame, hexecute⟩ :=
      execute_of_lt_two reg spawner (hlength ▸ Nat.lt_of_not_le hchain) ⟨w, started, trace⟩
    rw [hp, hq] at hcalls
    rw [hexecute, hsame]
    exact hrun stage' _ (by simpa using hcalls) (hsame ▸ hclause)

end

end CommandShell
