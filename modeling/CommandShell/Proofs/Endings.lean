import CommandShell.Proofs.Effects

/-!
# How runs end

A run either stops before delivery, or it has sent off every stage, has waited for every program and
delivers what the last stage wrote. A run that stops is left for one of a few reasons, or it says
why it has stopped.
-/
namespace CommandShell

/-! ## Leaving -/

/-- Why a run is left after some actions: a clause names no file or a path that no host takes, a
builtin leaves, something gets through the spawner, or nothing is collected of a program alone. -/
inductive Leaves (reg : Registry Handler) (spawner : Spawner) (stages : List Stage)
    (clause : Option Clause) (actions : List Action) : Escape → Prop
  | unnamed {c : Clause} (hclause : c ∈ clause) (hnone : c.targets = []) :
      Leaves reg spawner stages clause actions .targetMissing
  | misnamed {c : Clause} {path : Path} (hclause : c ∈ clause) (hpath : path ∈ c.targets)
      (hnull : path.hasNull = true) : Leaves reg spawner stages clause actions .nullCharacter
  | called {stage : Stage} {handler : Handler} {e : Escape} {w w' : World}
      (hstage : stage ∈ stages) (hbuiltin : reg.builtin? stage.command = some handler)
      (hcall : handler (stage.args.map Path.ofString) w = (.left e, w'))
      (hlast : [.call stage.command stage.args, .returned (.left e)] <:+ actions) :
      Leaves reg spawner stages clause actions e
  | spawned {stage : Stage} {stdin : Stdin} {e : Escape} {w w' : World}
      (hstage : stage ∈ stages) (hprogram : reg.builtin? stage.command = none)
      (hspawn : spawner (reg.argv stage.command stage.args) stdin w = (.error (.escaped e), w')) :
      Leaves reg spawner stages clause actions e
  | uncollected {stage : Stage} {stdin : Stdin} {process : Process} {w w' : World}
      (hstages : stages = [stage]) (hprogram : reg.builtin? stage.command = none)
      (hspawn : spawner (reg.argv stage.command stage.args) stdin w = (.ok process, w'))
      (hnone : process.collected = none) : Leaves reg spawner stages clause actions .outputMissing

/-- A path is refused by the host, or it holds a null character. -/
lemma World.read_error {w : World} {p : Path} {e : Escape} (h : w.read p = .error e) :
    (∃ error, e = .system error) ∨ (e = .nullCharacter ∧ p.hasNull = true) := by
  cases hnull : p.hasNull with
  | true =>
    simp only [World.read, hnull, if_true] at h
    exact .inr ⟨(Except.error.inj h).symm, rfl⟩
  | false =>
    left
    simp only [World.read, hnull, Bool.false_eq_true, if_false] at h
    split at h
    · exact ⟨_, (Except.error.inj h).symm⟩
    next spot _ =>
      cases hread : w.readAt spot with
      | ok bytes => simp [hread] at h
      | error fault =>
        rw [hread, mapError_error] at h
        exact ⟨_, (Except.error.inj h).symm⟩

section
variable {e e' : Escape} {path : Path} {messages : List String}

lemma sourceFault_left (h : (sourceFault path e).outcome messages = .left e') :
    e = e' ∧ ∀ error, e ≠ .system error := by
  cases e <;> cases h <;> exact ⟨rfl, fun _ => Escape.noConfusion⟩

lemma spawnFault_left {fault : SpawnFault}
    (h : (spawnFault fault).outcome messages = .left e) : fault = .escaped e := by
  cases fault <;> cases h
  rfl

lemma Wiring.fault_left {wiring : Wiring} {fault : SpawnFault}
    (h : (wiring.fault fault).outcome messages = .left e) : fault = .escaped e := by
  cases wiring with
  | source path identity bytes =>
    cases fault with
    | refused program reason => cases h
    | escaped e => rw [(sourceFault_left h).1]
  | _ => exact spawnFault_left h

variable {reg : Registry Handler} {spawner : Spawner} {stages : List Stage}
  {clause : Option Clause} {actions : List Action}

/-- A run that is left after some actions is left after more of them came first. -/
lemma Leaves.behind (h : Leaves reg spawner stages clause actions e) (earlier : List Action) :
    Leaves reg spawner stages clause (earlier ++ actions) e := by
  cases h with
  | unnamed hclause hnone => exact .unnamed hclause hnone
  | misnamed hclause hpath hnull => exact .misnamed hclause hpath hnull
  | called hstage hbuiltin hcall hlast =>
    exact .called hstage hbuiltin hcall (hlast.trans (List.suffix_append _ _))
  | spawned hstage hprogram hspawn => exact .spawned hstage hprogram hspawn
  | uncollected hstages hprogram hspawn hnone =>
    exact .uncollected hstages hprogram hspawn hnone

/-- A source that cannot be opened only makes a run leave if its path is no host's. -/
lemma Leaves.of_unreadable {w : World} (hpath : ∃ c ∈ clause, path ∈ c.targets)
    (hread : w.read path = .error e) (h : (sourceFault path e).outcome messages = .left e') :
    Leaves reg spawner stages clause actions e' := by
  obtain ⟨rfl, hsystem⟩ := sourceFault_left h
  obtain ⟨error, rfl⟩ | ⟨rfl, hnull⟩ := World.read_error hread
  · exact absurd rfl (hsystem error)
  · obtain ⟨c, hc, hmem⟩ := hpath
    exact .misnamed hc hmem hnull

end

section
variable {reg : Registry Handler} {spawner : Spawner} {c : Chain} {source : Option Path}
  {stage : Stage} {stages : List Stage} {actions : List Action}
  {result : Except (Outcome × Run) Chain} {clause : Option Clause} {outcome : Outcome} {r' : Run}
  {e : Escape}

/-- A chain that halts at a stage is left for one of the reasons for which runs are. -/
theorem Chain.Step.leaves
    (h : Chain.Step reg spawner c source stage actions (.error (outcome, r')))
    (hstage : stage ∈ stages) (hsource : ∀ path ∈ source, ∃ c ∈ clause, path ∈ c.targets)
    (hleft : outcome = .left e) : Leaves reg spawner stages clause actions e := by
  cases h with
  | left hbuiltin hcall =>
    cases hleft
    exact .called hstage hbuiltin hcall (List.suffix_append _ _)
  | unopened hprogram hpending hpath hread => exact .of_unreadable (hsource _ hpath) hread hleft
  | notStarted hprogram hwired hspawn =>
    obtain rfl := Wiring.fault_left hleft
    exact .spawned hstage hprogram hspawn

theorem Chain.Steps.leaves {rest : List Stage}
    (h : Chain.Steps reg spawner c source rest actions result)
    (hresult : result = .error (outcome, r')) (hrest : rest ⊆ stages)
    (hsource : ∀ path ∈ source, ∃ c ∈ clause, path ∈ c.targets) (hleft : outcome = .left e) :
    Leaves reg spawner stages clause actions e := by
  induction h with
  | nil => cases hresult
  | halt hstep =>
    cases hresult
    exact hstep.leaves (hrest List.mem_cons_self) hsource hleft
  | step hstep hmore ih =>
    exact (ih hresult (fun s hs => hrest (List.mem_cons_of_mem _ hs)) (by simp)).behind _

end

/-! ## The end of a run -/

/-- Every stage has been sent off without a failure, and every program has been waited for. -/
structure Completed (reg : Registry Handler) (stages : List Stage) (before : List Action) :
    Prop where
  dispatched : List.Forall₂ (Dispatches reg) stages (before.filter Action.isDispatch)
  reaped : ∀ number process, .started number process ∈ before →
    .wait number ∈ before ∨ ∃ feed, .communicate number feed ∈ before
  faultless : ∀ a ∈ before, a.isFailure = false

section
variable {reg : Registry Handler} {stages more : List Stage} {before after : List Action}

lemma Completed.of_neither (h : NeitherSendsNorFails before) : Completed reg [] before where
  dispatched := by
    rw [filter_isDispatch_of_idle h.isSending]
    exact .nil
  reaped number process hstarted := absurd hstarted (not_started_of_idle h.isSending)
  faultless := h.isFailure

lemma Completed.append (h : Completed reg stages before) (hmore : Completed reg more after) :
    Completed reg (stages ++ more) (before ++ after) where
  dispatched := by
    rw [List.filter_append]
    exact List.rel_append h.dispatched hmore.dispatched
  reaped number process hstarted := by
    obtain hstarted | hstarted := List.mem_append.1 hstarted
    · exact (h.reaped number process hstarted).imp (List.mem_append_left _)
        fun ⟨feed, hfeed⟩ => ⟨feed, List.mem_append_left _ hfeed⟩
    · exact (hmore.reaped number process hstarted).imp (List.mem_append_right _)
        fun ⟨feed, hfeed⟩ => ⟨feed, List.mem_append_right _ hfeed⟩
  faultless a ha := (List.mem_append.1 ha).elim (h.faultless a) (hmore.faultless a)

/-- A completed run stays so when nothing is sent off and nothing fails behind it. -/
lemma Completed.append_neither (h : Completed reg stages before)
    (hafter : NeitherSendsNorFails after) :
    Completed reg stages (before ++ after) := by
  simpa using h.append (of_neither hafter)

/-- Stages that have been sent off are completed once their programs have been waited for. -/
lemma Completed.of_sent {c d : Chain} (h : c.Sent reg d stages before)
    (hwait : ∀ number ∈ d.started, .wait number ∈ before) : Completed reg stages before where
  dispatched := h.dispatched
  reaped number process hstarted := .inl (hwait number (h.listed number process hstarted))
  faultless := h.faultless

end

/-- How a run of some stages can end: it stops before delivery, or it completes and delivers what
the last stage wrote. -/
inductive Ending (reg : Registry Handler) (spawner : Spawner) (stages : List Stage)
    (clause : Option Clause) (r : Run) : Outcome × Run → Prop
  | stopped {actions : List Action} {outcome : Outcome} {r' : Run}
      (htrace : r'.trace = r.trace ++ actions)
      (hleads : Leads reg spawner r.world actions r'.world)
      (hleaves : ∀ e, outcome = .left e → Leaves reg spawner stages clause actions e) :
      Ending reg spawner stages clause r (outcome, r')
  | delivered {before : List Action} {code : Int} {messages : List String} {r' : Run}
      (htrace : r'.trace = r.trace ++ before)
      (hleads : Leads reg spawner r.world before r'.world)
      (hcompleted : Completed reg stages before) :
      Ending reg spawner stages clause r (deliver (lastOutput before) code clause messages r')

section
variable {clause : Option Clause} {source : Option Path}

lemma inputSource_eq_error {e : Escape} (h : inputSource clause = .error e) :
    e = .targetMissing ∧ ∃ c ∈ clause, c.targets = [] := by
  match clause with
  | none => cases h
  | some ⟨op, targets⟩ =>
    by_cases hop : op = .input
    · subst hop
      cases targets with
      | nil =>
        cases h
        exact ⟨rfl, _, rfl, rfl⟩
      | cons path more => cases h
    · simp [inputSource, hop] at h

lemma exists_mem_targets (h : inputSource clause = .ok source) :
    ∀ path ∈ source, ∃ c ∈ clause, path ∈ c.targets := by
  rintro path rfl
  obtain ⟨_, more, ⟨⟩, hclause⟩ | ⟨⟨⟩, -⟩ := inputSource_eq_ok h
  exact ⟨_, hclause, List.mem_cons_self⟩

end

section
variable {reg : Registry Handler} {spawner : Spawner} {stages : List Stage}
  {clause : Option Clause} {r r' : Run} {stage : Stage}

lemma Ending.of_sourceless {e : Escape} (hsource : inputSource clause = .error e) :
    Ending reg spawner stages clause r (.left e, r) := by
  obtain ⟨rfl, c, hclause, hnone⟩ := inputSource_eq_error hsource
  refine .stopped (List.append_nil _).symm (.of_handling (by simp)) ?_
  rintro _ ⟨⟩
  exact .unnamed hclause hnone

lemma Ending.of_unreadable {source : Path} {e : Escape} (messages : List String)
    (hsource : inputSource clause = .ok (some source)) (hread : r.world.read source = .error e) :
    Ending reg spawner stages clause r
      ((sourceFault source e).outcome messages, r.logAll [.openSource source false]) :=
  .stopped rfl (.of_handling (by simp [Action.isHandling])) fun _ hleft =>
    .of_unreadable (exists_mem_targets hsource source rfl) hread hleft

variable {first : Stage} {rest : List Stage} {actions : List Action} {ended : Outcome × Run}

/-- Every course of a chain is one of these endings. -/
theorem ChainCourse.ending (h : ChainCourse reg spawner first rest clause r actions ended) :
    Ending reg spawner (first :: rest) clause r ended := by
  cases h with
  | sourceless hsource => exact .of_sourceless hsource
  | unreadable hsource hbuiltin hread => exact .of_unreadable [] hsource hread
  | @halted source opening actions notices ended hsource hnoticed hsteps =>
    obtain ⟨outcome, r'⟩ := ended
    have htrace := hsteps.trace
    rw [reached, Run.logAll_trace, List.append_assoc] at htrace
    exact .stopped htrace ((Leads.of_handling hnoticed.handles.isHandling).append hsteps.leads)
      fun e hleft =>
        (hsteps.leaves rfl (List.Subset.refl _) (exists_mem_targets hsource) hleft).behind _
  | @finished source opening actions delivery notices c hsource hnoticed hsteps =>
    have hsent := (hsteps.sent rfl).between hnoticed.handles.neither c.reaping_handles.neither
    have hlast : c.output.1 = lastOutput (opening ++ actions ++ c.reaping) := hsent.output
    have htrace := hsteps.trace
    rw [reached, Run.logAll_trace] at htrace
    rw [Chain.finish_eq, hlast]
    refine .delivered ?_ (hsteps.leads_reaped hnoticed) (.of_sent hsent fun number hnumber =>
      List.mem_append_right _ (Chain.wait_mem_reaping hnumber))
    rw [Run.logAll_trace, htrace]
    simp only [List.append_assoc]

lemma Completed.of_call {handler : Handler} {ended : HandlerEnd}
    (hbuiltin : reg.builtin? stage.command = some handler) (hback : ∀ e, ended ≠ .left e) :
    Completed reg [stage] [.call stage.command stage.args, .returned ended] where
  dispatched := .cons ⟨isBuiltin_of_eq hbuiltin, rfl, rfl⟩ .nil
  reaped number process hstarted := by simp at hstarted
  faultless := not_isFailure_of_call hback

lemma Completed.of_spawn {stdin : Stdin} {number : Nat} {process : Process}
    (hprogram : reg.builtin? stage.command = none) (feed : Option Nat) :
    Completed reg [stage] (spawnActions (reg.argv stage.command stage.args) stdin
      (.ok (number, process)) ++ [.communicate number feed]) where
  dispatched := .cons ⟨hprogram, rfl, rfl⟩ .nil
  reaped other given hstarted := by
    have hsame : other = number := by
      simp [spawnActions] at hstarted
      exact hstarted.1
    exact .inr ⟨feed, by simp [hsame]⟩
  faultless := by simp [spawnActions, Action.isFailure]

lemma ComesTo.completed {before : List Action} {came : ByteArray × Int} {messages : List String}
    (h : ComesTo reg spawner stage r before came messages r') : Completed reg [stage] before := by
  cases h with
  | called hsource hnoticed hbuiltin hcall hback =>
    exact (Completed.of_neither hnoticed.handles.neither).append (.of_call hbuiltin hback)
  | collected hfed hprogram =>
    rw [List.append_assoc]
    exact (Completed.of_neither hfed.handles.neither).append (.of_spawn hprogram _)

/-- Every course of a stage alone is one of these endings, too. -/
theorem SingleCourse.ending (h : SingleCourse reg spawner stage r actions ended) :
    Ending reg spawner [stage] stage.clause r ended := by
  cases h with
  | sourceless hsource => exact .of_sourceless hsource
  | unreadable hsource hread => exact .of_unreadable [] hsource hread
  | left hsource hnoticed hbuiltin hcall =>
    refine .stopped rfl
      ((Leads.of_handling hnoticed.handles.isHandling).append (.of_call hbuiltin hcall)) ?_
    rintro _ ⟨⟩
    exact .called List.mem_cons_self hbuiltin hcall (List.suffix_append _ _)
  | notStarted hfed hprogram hspawn =>
    refine .stopped rfl
      ((Leads.of_handling hfed.handles.isHandling).append (.of_spawn hspawn)) fun e hleft => ?_
    obtain rfl := spawnFault_left hleft
    exact .spawned List.mem_cons_self hprogram hspawn
  | uncollected hfed hprogram hspawn hcollected =>
    refine .stopped rfl ((((Leads.of_handling hfed.handles.isHandling).append
      (.of_spawn hspawn)).append (.of_handling ?_)).append (.of_handling ?_)) ?_
    · simp [Action.isHandling]
    · simp [Action.isHandling]
    · rintro _ ⟨⟩
      exact .uncollected rfl hprogram hspawn hcollected
  | delivered hcomes =>
    rw [← hcomes.lastOutput_eq]
    exact .delivered hcomes.trace hcomes.leads hcomes.completed

end

section
variable {reg : Registry Handler} {spawner : Spawner} {stages : List Stage}
  {clause : Option Clause} {r : Run} {ended : Outcome × Run} {e : Escape}

/-- Whatever way a run ends, it is left for one of the known reasons. -/
theorem Ending.leaves (h : Ending reg spawner stages clause r ended) (hleft : ended.1 = .left e) :
    ∃ actions, ended.2.trace = r.trace ++ actions ∧
      Leaves reg spawner stages clause actions e := by
  cases h with
  | stopped htrace hleads hleaves => exact ⟨_, htrace, hleaves e hleft⟩
  | @delivered before code messages r' htrace hleads hcompleted =>
    obtain ⟨delivery, hdelivered, -, hhands, -⟩ :=
      deliver_spec (lastOutput before) clause code messages r'
    obtain ⟨rfl, c, hclause, -, target, htarget, hnull⟩ := hhands.left hleft
    refine ⟨before ++ delivery, ?_, .misnamed hclause htarget hnull⟩
    rw [hdelivered, htrace, List.append_assoc]

end

/-- Every run of a pipeline ends in one of these ways. -/
theorem execute_ending (reg : Registry Handler) (spawner : Spawner) (p : Pipeline) (r : Run) :
    Ending reg spawner p.stages p.clause (r.log (.execute p.stages))
      (execute reg spawner p r) := by
  obtain ⟨actions, -, hcourse⟩ := execute_course reg spawner p r
  cases hcourse with
  | chain hstages hchain hcourse => exact hstages ▸ hcourse.ending
  | single hstages hclause hcourse => exact hclause ▸ hstages ▸ hcourse.ending

end CommandShell
