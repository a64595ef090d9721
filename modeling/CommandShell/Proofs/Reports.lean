import CommandShell.Proofs.Refusals

/-!
# What runs report

Whichever way a run ends, the stages in front of the place where it ends have been sent off, and the
builtins among them have come back and have been spoken of in order. `Reported` lists the places,
for a stage alone as for a chain, each with what it adds.
-/
namespace CommandShell

/-- A call of a builtin that has come back. -/
abbrev Returned := Stage × HandlerEnd

/-- Whether an action is about a builtin. -/
def Action.isOfBuiltin : Action → Bool
  | .call .. => true
  | .returned _ => true
  | _ => false

lemma Action.isOfBuiltin_of_isHandling {a : Action} (h : a.isHandling = true) :
    a.isOfBuiltin = false := by
  cases a with
  | call | returned => cases h
  | _ => rfl

/-- What is done to call some builtins one after the other. -/
def callsOf (calls : List Returned) : List Action :=
  calls.flatMap fun call => [.call call.1.command call.1.args, .returned call.2]

namespace Pipeline

/-- What is said of a builtin that has come back: that it breaks the chain, if there is one, and
why it failed, if it did. -/
def callNotices (p : Pipeline) (call : Returned) : List String :=
  (if 2 ≤ p.stages.length then [chainBroken call.1.command] else []) ++
    call.2.failures call.1.command

/-- What is said of the source and of the builtins that have come back. -/
def notices (reg : Registry Handler) (p : Pipeline) (calls : List Returned) : List String :=
  p.sourceNotice reg ++ calls.flatMap p.callNotices

end Pipeline

section
variable (reg : Registry Handler) (spawner : Spawner)

/-- Stages have been sent off in order without a failure, and the builtins among them have come
back. -/
structure SentOff (stages : List Stage) (calls : List Returned) (w : World) (actions : List Action)
    (w' : World) : Prop where
  dispatched : List.Forall₂ (Dispatches reg) stages (actions.filter Action.isDispatch)
  callers : calls.map Prod.fst = stages.filter (reg.isBuiltin ·.command)
  called : actions.filter Action.isOfBuiltin = callsOf calls
  faultless : ∀ a ∈ actions, a.isFailure = false
  leads : Leads reg spawner w actions w'

/-- How a run of a pipeline can end, with all that is done until then. -/
inductive Reported (p : Pipeline) (w : World) : List Action → Outcome × Run → Prop
  | unnamed {before : List Action} {e : Escape} {r : Run} (hbefore : HandlesWithoutFailure before)
      (hsource : inputSource p.clause = .error e) (hworld : r.world = w) :
      Reported p w before (.left e, r)
  | unreadable {front : List Stage} {calls : List Returned} {before : List Action}
      {source : Path} {e : Escape} {messages : List String} {r : Run}
      (hsource : inputSource p.clause = .ok (some source)) (hread : w.read source = .error e)
      (hnext : front <+: p.stages) (hsent : SentOff reg spawner front calls w before r.world) :
      Reported p w (before ++ [.openSource source false])
        ((sourceFault source e).outcome messages, r)
  | left {front : List Stage} {stage : Stage} {calls : List Returned} {before : List Action}
      {handler : Handler} {e : Escape} {v : World} {r : Run} (hnext : front ++ [stage] <+: p.stages)
      (hsent : SentOff reg spawner front calls w before v)
      (hbuiltin : reg.builtin? stage.command = some handler)
      (hcall : handler (stage.args.map Path.ofString) v = (.left e, r.world)) :
      Reported p w (before ++ [.call stage.command stage.args, .returned (.left e)]) (.left e, r)
  | notStarted {front : List Stage} {stage : Stage} {calls : List Returned}
      {before after : List Action} {stdin : Stdin} {fault : SpawnFault} {halt : StageFault}
      {v : World} {r : Run} (hnext : front ++ [stage] <+: p.stages)
      (hsent : SentOff reg spawner front calls w before v)
      (hprogram : reg.builtin? stage.command = none)
      (hspawn : spawner (reg.argv stage.command stage.args) stdin v = (.error fault, r.world))
      (hafter : HandlesWithoutFailure after)
      (hhalt : halt = spawnFault fault ∨ front = [] ∧ 2 ≤ p.stages.length ∧
        ∃ path e, inputSource p.clause = .ok (some path) ∧ fault = .escaped e ∧
          halt = sourceFault path e) :
      Reported p w
        (before ++ spawnActions (reg.argv stage.command stage.args) stdin (.error fault) ++ after)
        (halt.outcome (p.notices reg calls), r)
  | uncollected {stage : Stage} {before : List Action} {stdin : Stdin} {number : Nat}
      {process : Process} {v : World} {r : Run} (hstages : p.stages = [stage])
      (hsent : SentOff reg spawner p.stages [] w before r.world)
      (hprogram : reg.builtin? stage.command = none)
      (hspawn : spawner (reg.argv stage.command stage.args) stdin v = (.ok process, r.world))
      (hnone : process.collected = none) :
      Reported p w (before ++ [.uncollected number]) (.left .outputMissing, r)
  | delivered {calls : List Returned} {before delivery : List Action} {code : Int} {r : Run}
      (hsent : SentOff reg spawner p.stages calls w before r.world)
      (hdelivery : ∀ a ∈ delivery, a.IsDelivery)
      (htrace : (deliver (lastOutput before) code p.clause (p.notices reg calls) r).2.trace =
        r.trace ++ delivery) :
      Reported p w (before ++ delivery)
        (deliver (lastOutput before) code p.clause (p.notices reg calls) r)

end

/-! ## Sending stages off -/

section
variable {reg : Registry Handler} {spawner : Spawner} {p : Pipeline} {stage : Stage}
  {stages more : List Stage} {calls others : List Returned} {actions later : List Action}
  {w v v' : World}

lemma callsOf_append (calls others : List Returned) :
    callsOf (calls ++ others) = callsOf calls ++ callsOf others :=
  List.flatMap_append

lemma filter_isOfBuiltin_of_isHandling (h : ∀ a ∈ actions, a.isHandling = true) :
    actions.filter Action.isOfBuiltin = [] := by
  rw [List.filter_eq_nil_iff]
  intro a ha
  rw [Action.isOfBuiltin_of_isHandling (h a ha)]
  exact Bool.false_ne_true

namespace SentOff

lemma of_handles (h : HandlesWithoutFailure actions) : SentOff reg spawner [] [] w actions w where
  dispatched := by
    rw [filter_isDispatch_of_idle h.neither.isSending]
    exact .nil
  callers := rfl
  called := filter_isOfBuiltin_of_isHandling h.isHandling
  faultless := h.neither.isFailure
  leads := .of_handling h.isHandling

lemma append (h : SentOff reg spawner stages calls w actions v)
    (hmore : SentOff reg spawner more others v later v') :
    SentOff reg spawner (stages ++ more) (calls ++ others) w (actions ++ later) v' where
  dispatched := by
    rw [List.filter_append]
    exact List.rel_append h.dispatched hmore.dispatched
  callers := by rw [List.map_append, List.filter_append, h.callers, hmore.callers]
  called := by rw [List.filter_append, h.called, hmore.called, callsOf_append]
  faultless a ha := (List.mem_append.1 ha).elim (h.faultless a) (hmore.faultless a)
  leads := h.leads.append hmore.leads

lemma behind (h : SentOff reg spawner stages calls w actions v)
    (hfirst : HandlesWithoutFailure later) :
    SentOff reg spawner stages calls w (later ++ actions) v :=
  (of_handles hfirst).append h

lemma append_handles (h : SentOff reg spawner stages calls w actions v)
    (hlater : HandlesWithoutFailure later) :
    SentOff reg spawner stages calls w (actions ++ later) v := by
  simpa using h.append (of_handles hlater)

lemma of_call {handler : Handler} {ended : HandlerEnd}
    (hbuiltin : reg.builtin? stage.command = some handler)
    (hcall : handler (stage.args.map Path.ofString) w = (ended, v)) (hback : ∀ e, ended ≠ .left e) :
    SentOff reg spawner [stage] [(stage, ended)] w
      [.call stage.command stage.args, .returned ended] v where
  dispatched := .cons ⟨isBuiltin_of_eq hbuiltin, rfl, rfl⟩ .nil
  callers := by simp [isBuiltin_of_eq hbuiltin]
  called := rfl
  faultless := not_isFailure_of_call hback
  leads := .of_call hbuiltin hcall

lemma of_spawn {stdin : Stdin} {number : Nat} {process : Process}
    (hprogram : reg.builtin? stage.command = none)
    (hspawn : spawner (reg.argv stage.command stage.args) stdin w = (.ok process, v)) :
    SentOff reg spawner [stage] [] w
      (spawnActions (reg.argv stage.command stage.args) stdin (.ok (number, process))) v where
  dispatched := .cons ⟨hprogram, rfl, rfl⟩ .nil
  callers := by simp [isBuiltin_of_eq_none hprogram]
  called := rfl
  faultless := by simp [spawnActions, Action.isFailure]
  leads := .of_spawn hspawn

end SentOff

/-- It makes no difference to the end of a run what is done about handles ahead of it. -/
lemma Reported.behind {first : List Action} {ended : Outcome × Run}
    (h : Reported reg spawner p w actions ended) (hfirst : HandlesWithoutFailure first) :
    Reported reg spawner p w (first ++ actions) ended := by
  cases h with
  | unnamed hbefore hsource hworld =>
    refine .unnamed (fun a ha => ?_) hsource hworld
    exact (List.mem_append.1 ha).elim (hfirst a) (hbefore a)
  | unreadable hsource hread hnext hsent =>
    rw [← List.append_assoc]
    exact .unreadable hsource hread hnext (hsent.behind hfirst)
  | left hnext hsent hbuiltin hcall =>
    rw [← List.append_assoc]
    exact .left hnext (hsent.behind hfirst) hbuiltin hcall
  | notStarted hnext hsent hprogram hspawn hafter hhalt =>
    rw [← List.append_assoc, ← List.append_assoc]
    exact .notStarted hnext (hsent.behind hfirst) hprogram hspawn hafter hhalt
  | uncollected hstages hsent hprogram hspawn hnone =>
    rw [← List.append_assoc]
    exact .uncollected hstages (hsent.behind hfirst) hprogram hspawn hnone
  | @delivered calls before delivery code r hsent hdelivery htrace =>
    have hlast : lastOutput before = lastOutput (first ++ before) := by
      rw [lastOutput, lastOutput, List.foldl_append,
        foldl_trackLast_of_idle hfirst.neither.isSending]
    rw [hlast] at htrace ⊢
    rw [← List.append_assoc]
    exact .delivered (hsent.behind hfirst) hdelivery htrace

/-- A chain that goes on has sent its stage off, and has said what is to be said of it. -/
lemma Chain.Step.sentOff {c d : Chain} {source : Option Path} (hchain : 2 ≤ p.stages.length)
    (h : Chain.Step reg spawner c source stage actions (.ok d)) :
    ∃ calls, SentOff reg spawner [stage] calls c.run.world actions d.run.world ∧
      d.messages = c.messages ++ calls.flatMap p.callNotices := by
  cases h with
  | @called handler ended w hbuiltin hcall hback =>
    refine ⟨[(stage, ended)],
      (SentOff.of_call hbuiltin hcall hback).behind (closePending_handles c.pending), ?_⟩
    simp [Pipeline.callNotices, if_pos hchain]
  | @started wiring process w hprogram hwired hspawn =>
    exact ⟨[], ((SentOff.of_spawn hprogram hspawn).behind wiring.opening_handles).append_handles
      (wiring.closing_handles _), by simp⟩

lemma Chain.Steps.sentOff {c d : Chain} {source : Option Path} (hchain : 2 ≤ p.stages.length)
    {result : Except (Outcome × Run) Chain}
    (h : Chain.Steps reg spawner c source stages actions result) (hresult : result = .ok d) :
    ∃ calls, SentOff reg spawner stages calls c.run.world actions d.run.world ∧
      d.messages = c.messages ++ calls.flatMap p.callNotices := by
  induction h with
  | nil =>
    cases hresult
    exact ⟨[], .of_handles .nil, by simp⟩
  | halt => cases hresult
  | step hstep hrest ih =>
    obtain ⟨calls, hsent, hmessages⟩ := hstep.sentOff hchain
    obtain ⟨others, hlater, hmore⟩ := ih hresult
    refine ⟨calls ++ others, hsent.append hlater, ?_⟩
    rw [hmore, hmessages, List.flatMap_append, List.append_assoc]

end

/-! ## Chains -/

/-- Only under an opened source is a fault of the spawner taken for something else. -/
lemma Wired.fault_eq {w : World} {pending : Option (Nat × ByteArray)} {source : Option Path}
    {wiring : Wiring} (h : Wired w pending source wiring) (fault : SpawnFault) :
    wiring.fault fault = spawnFault fault ∨
      ∃ path e, source = some path ∧ fault = .escaped e ∧
        wiring.fault fault = sourceFault path e := by
  cases h with
  | handoff | fresh => exact .inl rfl
  | source hread =>
    cases fault with
    | refused program reason => exact .inl rfl
    | escaped e => exact .inr ⟨_, e, rfl, rfl, rfl⟩

section
variable {reg : Registry Handler} {spawner : Spawner} {p : Pipeline} {first : Stage}
  {rest : List Stage} {r : Run} {actions : List Action} {ended : Outcome × Run}

lemma Chain.Steps.reported {source : Option Path} {opening : List Action} {notices : List String}
    (hstages : p.stages = first :: rest) (hchain : 2 ≤ p.stages.length)
    (hsource : inputSource p.clause = .ok source)
    (hnoticed : Noticed reg first r.world source opening notices)
    (h : Chain.Steps reg spawner ⟨r.logAll opening, notices, [], none⟩ source (first :: rest)
      actions (.error ended)) :
    Reported reg spawner p r.world (opening ++ actions) ended := by
  obtain ⟨front, stage, back, b, source', earlier, lastly, hsplit, rfl, hfront, hhalt, hfirst⟩ :=
    h.exists_halt rfl
  obtain ⟨calls, hsent, hmessages⟩ := hfront.sentOff hchain rfl
  replace hsent := hsent.behind hnoticed.handles
  have hnext : front ++ [stage] <+: p.stages := ⟨back, by rw [hstages, hsplit]; simp⟩
  have hnotices : b.messages = p.notices reg calls := by
    rw [hmessages, hnoticed.notices_eq hsource, Pipeline.notices, p.sourceNotice_of_cons hstages]
  rw [← List.append_assoc]
  cases hhalt with
  | @left handler e w hbuiltin hcall =>
    rw [callActions, ← List.append_assoc]
    exact .left hnext (hsent.append_handles (closePending_handles b.pending)) hbuiltin hcall
  | @unopened path e hprogram hpending hpath hread =>
    obtain rfl | ⟨rfl, rfl, rfl⟩ := hfirst
    · cases hpath
    · exact .unreadable (hpath ▸ hsource) hread List.nil_prefix hsent
  | @notStarted wiring fault w hprogram hwired hspawn =>
    rw [Wiring.actions, ← List.append_assoc, ← List.append_assoc, hnotices]
    refine .notStarted hnext (hsent.append_handles wiring.opening_handles) hprogram hspawn
      (wiring.closing_handles _) ?_
    obtain hsame | ⟨path, e, hpath, hfault, hother⟩ := hwired.fault_eq fault
    · exact .inl hsame
    · obtain rfl | ⟨rfl, -, rfl⟩ := hfirst
      · cases hpath
      · exact .inr ⟨rfl, hchain, path, e, hpath ▸ hsource, hfault, hother⟩

lemma Reported.of_unreadable {source : Path} {e : Escape} {messages : List String}
    (hsource : inputSource p.clause = .ok (some source)) (hread : r.world.read source = .error e) :
    Reported reg spawner p r.world [.openSource source false]
      ((sourceFault source e).outcome messages, r.logAll [.openSource source false]) := by
  have hsent : SentOff reg spawner [] [] r.world []
      (r.logAll [.openSource source false]).world := .of_handles .nil
  exact .unreadable hsource hread List.nil_prefix hsent

/-- Every course of a chain ends at one of these places. -/
theorem ChainCourse.reported (hstages : p.stages = first :: rest) (hchain : 2 ≤ p.stages.length)
    (h : ChainCourse reg spawner first rest p.clause r actions ended) :
    Reported reg spawner p r.world actions ended := by
  cases h with
  | sourceless hsource => exact .unnamed .nil hsource rfl
  | unreadable hsource hbuiltin hread => exact .of_unreadable hsource hread
  | halted hsource hnoticed hsteps => exact hsteps.reported hstages hchain hsource hnoticed
  | @finished source opening actions delivery notices c hsource hnoticed hsteps hdelivery htrace =>
    obtain ⟨calls, hsent, hmessages⟩ := hsteps.sentOff hchain rfl
    have hlast : c.output.1 = lastOutput (opening ++ actions ++ c.reaping) :=
      ((hsteps.sent rfl).between hnoticed.handles.neither c.reaping_handles.neither).output
    have hnotices : c.messages = p.notices reg calls := by
      rw [hmessages, hnoticed.notices_eq hsource, Pipeline.notices, p.sourceNotice_of_cons hstages]
    rw [Chain.finish_eq, hlast, hnotices] at htrace ⊢
    refine .delivered ?_ hdelivery htrace
    rw [hstages]
    exact (hsent.behind hnoticed.handles).append_handles c.reaping_handles

end

/-! ## A stage alone -/

section
variable {reg : Registry Handler} {spawner : Spawner} {p : Pipeline} {stage : Stage} {r : Run}

lemma Pipeline.callNotices_of_single (hstages : p.stages = [stage]) (call : Returned) :
    p.callNotices call = call.2.failures call.1.command := by
  simp [callNotices, hstages]

section
variable (hstages : p.stages = [stage]) (hclause : p.clause = stage.clause)
include hstages hclause

/-- What a stage alone comes to, it comes to once it has been sent off. -/
lemma ComesTo.sentOff {before : List Action} {came : ByteArray × Int} {messages : List String}
    {r' : Run} (h : ComesTo reg spawner stage r before came messages r') :
    ∃ calls, SentOff reg spawner p.stages calls r.world before r'.world ∧
      messages = p.notices reg calls := by
  rw [hstages]
  cases h with
  | @called handler source opening notices ended w hsource hnoticed hbuiltin hcall hback =>
    refine ⟨[(stage, ended)],
      (SentOff.of_call hbuiltin hcall hback).behind hnoticed.handles, ?_⟩
    rw [Pipeline.notices, p.sourceNotice_of_cons hstages, hclause, hnoticed.notices_eq hsource,
      List.flatMap_singleton, Pipeline.callNotices_of_single hstages]
  | collected hfed hprogram hspawn =>
    refine ⟨[], ((SentOff.of_spawn hprogram hspawn).behind hfed.handles).append_handles
      (by simp [HandlesWithoutFailure, Action.isHandling, Action.isFailure]), ?_⟩
    rw [Pipeline.notices, p.sourceNotice_of_cons hstages,
      sourceNotice_of_program (isBuiltin_of_eq_none hprogram)]
    rfl

/-- Every course of a stage alone ends at one of these places, too. -/
theorem SingleCourse.reported {actions : List Action} {ended : Outcome × Run}
    (h : SingleCourse reg spawner stage r actions ended) :
    Reported reg spawner p r.world actions ended := by
  have hnext : [] ++ [stage] <+: p.stages := by rw [hstages]; exact List.prefix_rfl
  cases h with
  | sourceless hsource => exact .unnamed .nil (hclause ▸ hsource) rfl
  | unreadable hsource hread => exact .of_unreadable (hclause ▸ hsource) hread
  | left hsource hnoticed hbuiltin hcall =>
    exact .left hnext (.of_handles hnoticed.handles) hbuiltin hcall
  | notStarted hfed hprogram hspawn =>
    have hnotices : p.notices reg [] = [] := by
      rw [Pipeline.notices, p.sourceNotice_of_cons hstages,
        sourceNotice_of_program (isBuiltin_of_eq_none hprogram)]
      rfl
    rw [← hnotices, ← List.append_nil (_ ++ spawnActions _ _ _)]
    exact .notStarted hnext (.of_handles hfed.handles) hprogram hspawn .nil (.inl rfl)
  | uncollected hfed hprogram hspawn hcollected =>
    refine .uncollected hstages ?_ hprogram hspawn hcollected
    rw [hstages]
    exact ((SentOff.of_spawn hprogram hspawn).behind hfed.handles).append_handles
      (by simp [HandlesWithoutFailure, Action.isHandling, Action.isFailure])
  | delivered hcomes hdelivery htrace =>
    obtain ⟨calls, hsent, rfl⟩ := hcomes.sentOff hstages hclause
    rw [← hcomes.lastOutput_eq, ← hclause] at htrace ⊢
    exact .delivered hsent hdelivery htrace

end

end

/-- Every run of a pipeline ends at one of these places. -/
theorem execute_reported (reg : Registry Handler) (spawner : Spawner) (p : Pipeline) (r : Run) :
    Reported reg spawner p r.world (actionsOf reg spawner p r) (execute reg spawner p r) := by
  obtain ⟨actions, hactions, hcourse⟩ := execute_course reg spawner p r
  rw [hactions]
  have hfirst : HandlesWithoutFailure [.execute p.stages] := by
    simp [HandlesWithoutFailure, Action.isHandling, Action.isFailure]
  cases hcourse with
  | chain hstages hchain hcourse => exact (hcourse.reported hstages hchain).behind hfirst
  | single hstages hclause hcourse => exact (hcourse.reported hstages hclause).behind hfirst

end CommandShell
