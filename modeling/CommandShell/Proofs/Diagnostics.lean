import CommandShell.Proofs.Redirecting
import CommandShell.Proofs.Reports

/-!
# What a result says

The diagnostics of a result are complete and in order: what is to be said of the source, then what
is to be said of the builtins that have come back, one after the other, and last why the run ended
where it did, or which targets could not be written. There is one slip: a start that the host fails
while the source of a chain is open is blamed on the source.
-/
namespace CommandShell
open Text

/-! ## The last diagnostics -/

/-- What is said of a delivery: that the output is no text, or which targets are refused. -/
inductive DeliverySays (raw : ByteArray) (clause : Option Clause) (w w' : World) :
    List String → Prop
  | undecodable {fault : Utf8.Fault} (hdecode : Utf8.decode raw = .error fault) :
      DeliverySays raw clause w w' [undecodable fault]
  | kept {text : String} (hdecode : Utf8.decode raw = .ok text)
      (hkeeps : takesOutput clause = false) : DeliverySays raw clause w w' []
  | written {c : Clause} {text : String} {attempts : List Attempt} (hclause : c ∈ clause)
      (hop : c.op ≠ .input) (hdecode : Utf8.decode raw = .ok text)
      (htargets : attempts.map Attempt.target = c.targets)
      (hattempts : Attempts c.mode text.toByteArray w attempts w') :
      DeliverySays raw clause w w' (attempts.filterMap Attempt.diagnostic?)

/-- What a run says last: who is refused behind the stages that have been sent off, or what is said
of the delivery when all of them have been and nothing has failed. -/
inductive LastWords (reg : Registry Handler) (spawner : Spawner) (p : Pipeline) (w : World)
    (actions : List Action) (w' : World) : List Stage → List String → Prop
  | refused {front : List Stage} {stage : Stage} {stdin : Stdin} {program reason : String}
      (hnext : front ++ [stage] <+: p.stages) (hprogram : reg.isBuiltin stage.command = false)
      (hrefused : spawnActions (reg.argv stage.command stage.args) stdin
        (.error (.refused program reason)) <:+: actions) :
      LastWords reg spawner p w actions w' front [program ++ ": " ++ reason]
  | delivered {last : List String} (hthrough : ∀ a ∈ actions, a.isFailure = false)
      (hreports : DeliverySays (lastOutput actions) p.clause (worldLeft reg spawner w actions) w'
        last) :
      LastWords reg spawner p w actions w' p.stages last

/-- A start that the host fails under the opened source of a chain is blamed on the source. -/
def Misblamed (reg : Registry Handler) (p : Pipeline) (actions : List Action)
    (last : List String) : Prop :=
  2 ≤ p.stages.length ∧ ∃ source more stage stdin error,
    p.clause = some ⟨.input, source :: more⟩ ∧ [stage] <+: p.stages ∧
    spawnActions (reg.argv stage.command stage.args) stdin (.error (.escaped (.system error))) <:+:
      actions ∧
    last = [unreadable source error]

/-- A delivery that comes to a result adds what is to be said of it, and nothing else. -/
lemma deliver_reports {raw : ByteArray} {code : Int} {clause : Option Clause}
    {messages : List String} {r : Run} {result : Result}
    (h : (deliver raw code clause messages r).1 = .finished result) :
    ∃ last, DeliverySays raw clause r.world (deliver raw code clause messages r).2.world last ∧
      result.stderr = unlines (messages ++ last) := by
  cases destined raw clause with
  | nowhere hdecode =>
    rw [deliver_of_error code messages r hdecode] at h ⊢
    cases h
    exact ⟨_, .undecodable hdecode, rfl⟩
  | back hdecode hkeeps =>
    rw [deliver_of_keeps code messages r hdecode hkeeps] at h ⊢
    cases h
    exact ⟨_, .kept hdecode hkeeps, by rw [List.append_nil]⟩
  | @targets c text hdecode hop =>
    have hwrites := writeAll_writes c.mode text.toByteArray c.targets
      (r.log (.deliver text.length c.targets))
    rw [deliver_of_takes code messages r hdecode hop, Clause.writeTargets] at h ⊢
    generalize writeAll c.mode text.toByteArray c.targets
      (r.log (.deliver text.length c.targets)) = written at hwrites h ⊢
    generalize htargets : c.targets = targets at hwrites
    cases hwrites with
    | all hattempts =>
      simp only [writtenOutcome_attempts, Outcome.finished.injEq] at h
      subst h
      exact ⟨_, .written rfl hop hdecode htargets.symm hattempts, by rw [unlines_append]⟩
    | cut => cases h

section
variable {reg : Registry Handler} {spawner : Spawner} {p : Pipeline} {w : World}
  {actions : List Action} {ended : Outcome × Run} {result : Result}

/-- What a run that comes to a result says, wherever it ends. -/
lemma Reported.diagnosed (h : Reported reg spawner p w actions ended)
    (hreadable : ∀ source more, p.clause = some ⟨.input, source :: more⟩ →
      ∃ bytes, w.read source = .ok bytes)
    (hresult : ended.1 = .finished result) :
    ∃ front calls last, calls.map Prod.fst = front.filter (reg.isBuiltin ·.command) ∧
      actions.filter Action.isOfBuiltin = callsOf calls ∧
      (LastWords reg spawner p w actions ended.2.world front last ∨
        front = [] ∧ Misblamed reg p actions last) ∧
      result.stderr = unlines (p.notices reg calls ++ last) := by
  cases h with
  | unnamed => cases hresult
  | unreadable hsource hread =>
    obtain ⟨_, more, ⟨⟩, hclause⟩ | ⟨⟨⟩, -⟩ := inputSource_eq_ok hsource
    obtain ⟨bytes, hbytes⟩ := hreadable _ more hclause
    rw [hread] at hbytes
    cases hbytes
  | left => cases hresult
  | @notStarted front stage calls before after stdin fault halt v r hnext hsent hprogram hspawn
      hafter hhalt =>
    have hcalls : (before ++ spawnActions (reg.argv stage.command stage.args) stdin
        (.error fault) ++ after).filter Action.isOfBuiltin = callsOf calls := by
      rw [List.filter_append, List.filter_append, hsent.called,
        filter_isOfBuiltin_of_isHandling hafter.isHandling]
      simp [spawnActions, Action.isOfBuiltin]
    cases fault with
    | refused program reason =>
      obtain rfl | ⟨-, -, path, e, -, ⟨⟩, -⟩ := hhalt
      cases hresult
      exact ⟨front, calls, _, hsent.callers, hcalls,
        .inl (.refused hnext (isBuiltin_of_eq_none hprogram) ⟨before, after, rfl⟩), rfl⟩
    | escaped e =>
      obtain rfl | ⟨rfl, hchain, path, e', hsource, ⟨⟩, rfl⟩ := hhalt
      · cases hresult
      · obtain ⟨_, more, ⟨⟩, hclause⟩ | ⟨⟨⟩, -⟩ := inputSource_eq_ok hsource
        cases e with
        | system error =>
          cases hresult
          exact ⟨[], calls, _, hsent.callers, hcalls, .inr ⟨rfl, hchain, path, more, stage, stdin,
            error, hclause, hnext, ⟨before, after, rfl⟩, rfl⟩, rfl⟩
        | _ => cases hresult
  | uncollected => cases hresult
  | @delivered calls before delivery code r hsent hdelivery =>
    have hidle : ∀ a ∈ delivery, a.isSending = false := (neither_of_delivery hdelivery).isSending
    have hthrough : ∀ a ∈ before ++ delivery, a.isFailure = false := fun a ha =>
      (List.mem_append.1 ha).elim (hsent.faultless a) ((neither_of_delivery hdelivery).isFailure a)
    have hcalls : (before ++ delivery).filter Action.isOfBuiltin = callsOf calls := by
      rw [List.filter_append, hsent.called, List.filter_eq_nil_iff.2, List.append_nil]
      intro a ha
      cases hdelivery a ha <;> exact Bool.false_ne_true
    have hlast : lastOutput (before ++ delivery) = lastOutput before :=
      lastOutput_append_of_idle hidle before
    have hworld : worldLeft reg spawner w (before ++ delivery) = r.world := by
      rw [worldLeft_append, worldLeft_of_idle hidle, ← hsent.leads.world]
    obtain ⟨last, hreports, hstderr⟩ := deliver_reports hresult
    refine ⟨p.stages, calls, last, hsent.callers, hcalls, .inl (.delivered hthrough ?_), hstderr⟩
    rw [hlast, hworld]
    exact hreports

end

/-- When a run comes to a result and its source, if it has one, can be read, the diagnostics are
exactly these, each on a line of its own: that a builtin ignores the source, if it does; for each
builtin that has come back, in order, that it breaks the chain, if there is one, and why it failed,
if it did; and last who was refused, that the output is no text, or which targets were refused, in
their order. Only a start that the host fails under the opened source of a chain is blamed on the
source. -/
theorem diagnostics_in_order (reg : Registry Handler) (spawner : Spawner) (p : Pipeline) (r : Run)
    (result : Result)
    (hreadable : ∀ source more, p.clause = some ⟨.input, source :: more⟩ →
      ∃ bytes, r.world.read source = .ok bytes)
    (hresult : (execute reg spawner p r).1 = .finished result) :
    ∃ front calls last, calls.map Prod.fst = front.filter (reg.isBuiltin ·.command) ∧
      (actionsOf reg spawner p r).filter Action.isOfBuiltin = callsOf calls ∧
      (LastWords reg spawner p r.world (actionsOf reg spawner p r) (execute reg spawner p r).2.world
          front last ∨ front = [] ∧ Misblamed reg p (actionsOf reg spawner p r) last) ∧
      result.stderr = unlines (p.notices reg calls ++ last) :=
  (execute_reported reg spawner p r).diagnosed hreadable hresult

/-- A builtin that ignores the source and fails, a program that starts and one that is refused. -/
theorem diagnostics_in_order_of_chain :
    let source : Path := ⟨.here, ["f"]⟩
    let reg : Registry Handler := ⟨[("cd", fun _ w => (.failed "no folder", w))], [], []⟩
    let spawner : Spawner := fun argv _ w =>
      if argv = ["lost"] then (.error (.refused "lost" "command not found"), w)
      else (.ok (.writing .empty true 0), w)
    let p : Pipeline := ⟨[⟨"cd", [], some ⟨.input, [source]⟩⟩, ⟨"seq", [], none⟩,
      ⟨"lost", [], none⟩], by decide⟩
    let r := Run.begin (.ofEntries [(["f"], .file ⟨.empty, 0o644, 0⟩)])
    let result : Result := ⟨"", unlines [ignoredInput source "cd", chainBroken "cd",
      builtinFailed "cd" "no folder", "lost: command not found"], 127⟩
    (∀ source more, p.clause = some ⟨.input, source :: more⟩ →
        ∃ bytes, r.world.read source = .ok bytes) ∧
      (execute reg spawner p r).1 = .finished result ∧
      ∃ front calls last, calls.map Prod.fst = front.filter (reg.isBuiltin ·.command) ∧
        (actionsOf reg spawner p r).filter Action.isOfBuiltin = callsOf calls ∧
        (LastWords reg spawner p r.world (actionsOf reg spawner p r)
            (execute reg spawner p r).2.world front last ∨
          front = [] ∧ Misblamed reg p (actionsOf reg spawner p r) last) ∧
        result.stderr = unlines (p.notices reg calls ++ last) := by
  intro source reg spawner p r result
  have hread : r.world.read source = .ok .empty := by
    have hlocate : r.world.locate source = .ok (.file ["f"] ⟨.empty, 0o644, 0⟩) := by
      rw [World.locate, World.locateFrom, if_neg (by decide)]
      rfl
    exact World.read_of_file (by simp [source, Path.hasNull]) hlocate rfl
  have hreadable : ∀ path more, p.clause = some ⟨.input, path :: more⟩ →
      ∃ bytes, r.world.read path = .ok bytes := by
    rintro path more ⟨⟩
    exact ⟨_, hread⟩
  have hlost : spawner ["lost"] =
      fun _ w => (.error (.refused "lost" "command not found"), w) := rfl
  have hseq : spawner ["seq"] = fun _ w => (.ok (.writing .empty true 0), w) := rfl
  have hresult : (execute reg spawner p r).1 = .finished result := by
    simp [execute, runChain, p, Pipeline.clause, inputSource, Clause.source?, noticeFirst, reg,
      Registry.isBuiltin, Registry.builtin?, noticeIgnored, checkIgnored, Run.readSource,
      Run.openSource, hread, Except.map, Chain.steps, Chain.step, Chain.pending, callBuiltin,
      Run.call, Run.log, Run.logAll, spawnStage, spawnFresh, spawnHandoff, Run.spawn, hlost, hseq,
      Registry.argv, Registry.expand, Registry.alias?, List.lookup_cons, spawnFault,
      StageFault.outcome, Outcome.aborted, SpawnFault.message, spawnFailed, result]
    rfl
  exact ⟨hreadable, hresult, diagnostics_in_order reg spawner p r result hreadable hresult⟩

/-- A start that the host fails is blamed on the source, though the source has been opened. -/
theorem diagnostics_blame_source : ¬ ∀ (reg : Registry Handler) (spawner : Spawner)
    (p : Pipeline) (r : Run) (result : Result),
    (∀ source more, p.clause = some ⟨.input, source :: more⟩ →
      ∃ bytes, r.world.read source = .ok bytes) →
    (execute reg spawner p r).1 = .finished result →
    ∃ front calls last, calls.map Prod.fst = front.filter (reg.isBuiltin ·.command) ∧
      (actionsOf reg spawner p r).filter Action.isOfBuiltin = callsOf calls ∧
      LastWords reg spawner p r.world (actionsOf reg spawner p r) (execute reg spawner p r).2.world
        front last ∧
      result.stderr = unlines (p.notices reg calls ++ last) := by
  intro hordered
  let source : Path := ⟨.here, ["f"]⟩
  let reg : Registry Handler := ⟨[], [], []⟩
  let weird : SystemError := .plain "weird"
  let spawner : Spawner := fun _ _ w => (.error (.escaped (.system weird)), w)
  let p : Pipeline := ⟨[⟨"cat", [], some ⟨.input, [source]⟩⟩, ⟨"wc", [], none⟩], by decide⟩
  let r := Run.begin (.ofEntries [(["f"], .file ⟨.empty, 0o644, 0⟩)])
  have hlocate : r.world.locate source = .ok (.file ["f"] ⟨.empty, 0o644, 0⟩) := by
    rw [World.locate, World.locateFrom, if_neg (by decide)]
    rfl
  have hread : r.world.read source = .ok .empty :=
    World.read_of_file (by simp [source, Path.hasNull]) hlocate rfl
  have hrun : execute reg spawner p r = (.aborted [unreadable source weird] streamFailed,
      ⟨r.world, 0, [.execute p.stages, .openSource source true,
        .spawn ["cat"] (.source (some 0) .empty) none, .notStarted (.escaped (.system weird)),
        .closeSource source]⟩) := by
    have hidentity : r.world.identity? source = some 0 := by simp [World.identity?, hlocate]
    simp [execute, runChain, p, Pipeline.clause, inputSource, Clause.source?, noticeFirst, reg,
      Registry.isBuiltin, Registry.builtin?, Except.map, Chain.steps, Chain.step, Chain.pending,
      spawnStage, spawnSource, Run.openSource, hread, hidentity, Run.log, Run.spawn, spawner,
      Registry.argv, Registry.expand, Registry.alias?, sourceFault, StageFault.outcome]
    exact ⟨rfl, rfl⟩
  have hactions := actionsOf_eq reg spawner (congrArg (·.2.trace) hrun)
  obtain ⟨front, calls, last, -, hcalls, hlast, hstderr⟩ := hordered reg spawner p r
    ⟨"", unlines [unreadable source weird], streamFailed⟩
    (by rintro path more ⟨⟩; exact ⟨_, hread⟩) (by rw [hrun]; rfl)
  rw [hactions] at hcalls hlast
  have hnone : calls = [] := by
    cases calls with
    | nil => rfl
    | cons call calls => simp [callsOf, Action.isOfBuiltin] at hcalls
  have hnotices : p.notices reg [] = [] := rfl
  rw [hnone, hnotices, List.nil_append] at hstderr
  cases hlast with
  | @refused front stage stdin program reason hnext hprogram hinfix =>
    have hmem : .notStarted (.refused program reason) ∈ spawnActions
        (reg.argv stage.command stage.args) stdin (.error (.refused program reason)) := by
      simp [spawnActions]
    simpa using hinfix.subset hmem
  | delivered hthrough hreports =>
    cases hreports with
    | undecodable hdecode => cases (Utf8.decode_toByteArray "").symm.trans hdecode
    | kept => simp [unlines] at hstderr
    | written hclause hop =>
      cases hclause
      exact hop rfl

end CommandShell
