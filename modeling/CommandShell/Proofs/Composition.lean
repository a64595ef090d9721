import CommandShell.Proofs.Effects
import Mathlib.Data.List.DropRight

/-!
# What a pipeline computes

When nothing stands in its way, running a pipeline is composing functions. Programs are functions
from words and bytes to bytes and an exit code. Only the programs after the last builtin count:
what they come to, one after the other, is handed over. A stage alone and a chain have this in
common, though they feed their first program from different places.
-/
namespace CommandShell
open Text

/-- The bytes of a source; none are read where there is no source. -/
def World.sourceBytes (w : World) : Option Path → ByteArray
  | none => .empty
  | some path => (w.read path).toOption.getD .empty

/-- What programs do: the bytes that a program writes when it is run with some words and reads some
bytes, and the code under which it ends. -/
abbrev Behaviour := List String → ByteArray → ByteArray × Int

/-- Whatever the spawner starts, in whatever world, does what its words say. -/
def Spawner.Runs (spawner : Spawner) (behaviour : Behaviour) (inherited : ByteArray) : Prop :=
  ∀ argv stdin w process w', spawner argv stdin w = (.ok process, w') →
    process.output = some (behaviour argv (stdin.bytes inherited)).1 ∧
      process.status = (behaviour argv (stdin.bytes inherited)).2

section
variable (reg : Registry Handler) (behaviour : Behaviour)

/-- A program reads what the one before it has written. -/
def runStage (before : ByteArray × Int) (stage : Stage) : ByteArray × Int :=
  behaviour (reg.argv stage.command stage.args) before.1

/-- A builtin reads and writes nothing. -/
def passStage (before : ByteArray × Int) (stage : Stage) : ByteArray × Int :=
  if reg.isBuiltin stage.command then (.empty, 0) else runStage reg behaviour before stage

namespace Pipeline
variable (p : Pipeline)

/-- The stages after the last builtin; all of them if there is none. -/
def programs : List Stage := p.stages.rtakeWhile fun stage => !reg.isBuiltin stage.command

/-- What the first of the programs after the last builtin reads. -/
def feed (w : World) (inherited : ByteArray) : ByteArray :=
  match p.clause with
  | some ⟨.input, source :: _⟩ =>
    if (p.programs reg).length = p.stages.length then w.sourceBytes (some source) else .empty
  | _ => if p.stages.length = 1 then inherited else .empty

/-- What the programs after the last builtin write when they are composed, and the exit code of the
last one. -/
def composed (w : World) (inherited : ByteArray) : ByteArray × Int :=
  if p.programs reg = [] then (.empty, 0)
  else (p.programs reg).foldl (runStage reg behaviour) (p.feed reg w inherited, 0)

end Pipeline

/-- Passing all the stages comes to running those after the last builtin. -/
lemma foldl_passStage (stages : List Stage) (fed : ByteArray) :
    stages.foldl (passStage reg behaviour) (fed, 0) =
      (stages.rtakeWhile fun stage => !reg.isBuiltin stage.command).foldl
        (runStage reg behaviour)
        (if (stages.rtakeWhile fun stage => !reg.isBuiltin stage.command).length = stages.length
          then fed else .empty, 0) := by
  induction stages using List.reverseRecOn with
  | nil => simp
  | append_singleton stages stage ih =>
    rw [List.foldl_append, ih, List.rtakeWhile_concat]
    cases hbuiltin : reg.isBuiltin stage.command with
    | true => simp [passStage, hbuiltin]
    | false => simp [passStage, hbuiltin]

end

/-- Nothing stands in the way of a run: every program starts, the source can be read, no target has
a path that the host cannot be asked for, and every builtin comes back. -/
structure RunsToDelivery (reg : Registry Handler) (spawner : Spawner) (p : Pipeline) (r : Run) :
    Prop where
  starts : ∀ argv stdin, .spawn argv stdin none ∉ actionsOf reg spawner p r
  readable : ∀ c ∈ p.clause, c.op = .input →
    ∃ source more bytes, c.targets = source :: more ∧ r.world.read source = .ok bytes
  targets : ∀ c ∈ p.clause, c.op ≠ .input → ∀ target ∈ c.targets, target.hasNull = false
  stays : ∀ e, .returned (.left e) ∉ actionsOf reg spawner p r

/-! ## One stage of a chain -/

section
variable {reg : Registry Handler} {spawner : Spawner} {behaviour : Behaviour}
  {inherited : ByteArray} {c : Chain} {source : Option Path} {stage : Stage}
  {actions : List Action} {result : Except (Outcome × Run) Chain}

/-- What a stage finds before it: the bytes of the source, else what the stage before it has come
to. -/
def Chain.found (c : Chain) (source : Option Path) : ByteArray × Int :=
  match source with
  | none => c.output
  | some _ => (c.run.world.sourceBytes source, 0)

/-- What a program has written is what can be read from its handle. -/
lemma Chain.output_fst (c : Chain) : c.output.1 = (c.pending.map Prod.snd).getD .empty := by
  obtain ⟨r, messages, started, previous⟩ := c
  obtain _ | ⟨number, _ | bytes, hasInput, status⟩ := previous <;> rfl

lemma Wired.bytes_eq {wiring : Wiring} (hwired : Wired c.run.world c.pending source wiring)
    (hsource : ∀ path ∈ source, c.previous = none) :
    wiring.stdin.bytes inherited = (c.found source).1 := by
  have hout := c.output_fst
  generalize hpending : c.pending = pending at hwired hout
  cases hwired with
  | handoff earlier bytes =>
    cases source with
    | none => exact hout.symm
    | some path => simp [Chain.pending, hsource path rfl] at hpending
  | source hread =>
    simp [Wiring.stdin, Stdin.bytes, Chain.found, World.sourceBytes, hread, Except.toOption]
  | fresh => exact hout.symm

/-- A stage that is not hindered comes to what it should. -/
theorem Chain.Step.output (h : Chain.Step reg spawner c source stage actions result)
    (hruns : spawner.Runs behaviour inherited)
    (hsource : ∀ path ∈ source, c.previous = none ∧ ∃ bytes, c.run.world.read path = .ok bytes)
    (hstarts : ∀ argv stdin, .spawn argv stdin none ∉ actions)
    (hstays : ∀ e, .returned (.left e) ∉ actions) :
    ∃ d, result = .ok d ∧ d.output = passStage reg behaviour (c.found source) stage := by
  cases h with
  | called hbuiltin =>
    refine ⟨_, rfl, ?_⟩
    rw [passStage, Registry.isBuiltin, hbuiltin]
    rfl
  | @left handler e w => exact absurd (by simp [callActions]) (hstays e)
  | unopened hprogram hpending hpath hread =>
    obtain ⟨-, bytes, hbytes⟩ := hsource _ hpath
    rw [hread] at hbytes
    cases hbytes
  | @started wiring process w hprogram hwired hspawn =>
    obtain ⟨houtput, hstatus⟩ := hruns _ _ _ _ _ hspawn
    rw [hwired.bytes_eq fun path hpath => (hsource path hpath).1] at houtput hstatus
    refine ⟨_, rfl, ?_⟩
    rw [passStage, Registry.isBuiltin, hprogram]
    simp [Chain.output, runStage, houtput, hstatus]
  | @notStarted wiring fault w hprogram hwired hspawn =>
    refine absurd ?_ (hstarts (reg.argv stage.command stage.args) wiring.stdin)
    simp [Wiring.actions, spawnActions]

/-- Stages that are not hindered come to what passing them one after the other comes to. -/
theorem Chain.Steps.output {stages : List Stage}
    (h : Chain.Steps reg spawner c source stages actions result)
    (hruns : spawner.Runs behaviour inherited) (hstages : source = none ∨ stages ≠ [])
    (hsource : ∀ path ∈ source, c.previous = none ∧ ∃ bytes, c.run.world.read path = .ok bytes)
    (hstarts : ∀ argv stdin, .spawn argv stdin none ∉ actions)
    (hstays : ∀ e, .returned (.left e) ∉ actions) :
    ∃ d, result = .ok d ∧
      d.output = stages.foldl (passStage reg behaviour) (c.found source) := by
  -- Only the first stage has a source: for the others `found` is the output before them.
  induction h with
  | nil c source =>
    obtain rfl := hstages.resolve_right fun h => h rfl
    exact ⟨c, rfl, rfl⟩
  | halt hstep =>
    obtain ⟨d, hd, -⟩ := hstep.output hruns hsource hstarts hstays
    cases hd
  | @step c d source stage rest actions more result hstep hrest ih =>
    obtain ⟨_, ⟨⟩, houtput⟩ := hstep.output hruns hsource
      (fun argv stdin hmem => hstarts argv stdin (List.mem_append_left _ hmem))
      (fun e hmem => hstays e (List.mem_append_left _ hmem))
    obtain ⟨d', hresult, houtput'⟩ := ih (.inl rfl) (by simp)
      (fun argv stdin hmem => hstarts argv stdin (List.mem_append_right _ hmem))
      (fun e hmem => hstays e (List.mem_append_right _ hmem))
    exact ⟨d', hresult, by rw [houtput', List.foldl_cons, ← houtput]; rfl⟩

end

/-! ## Both ways of running -/

/-- A run that ends by handing over what it has come to, in the world that programs and builtins
have left. -/
inductive Delivers (reg : Registry Handler) (spawner : Spawner) (came : ByteArray × Int)
    (clause : Option Clause) (r : Run) : Outcome × Run → Prop
  | intro (messages : List String) {actions : List Action} {r' : Run}
      (htrace : r'.trace = r.trace ++ actions)
      (hleads : Leads reg spawner r.world actions r'.world) :
      Delivers reg spawner came clause r (deliver came.1 came.2 clause messages r')

/-- Such a run gives a result, once the targets have been tried. -/
lemma Delivers.result {reg : Registry Handler} {spawner : Spawner} {came : ByteArray × Int}
    {clause : Option Clause} {r : Run} {ended : Outcome × Run}
    (h : Delivers reg spawner came clause r ended)
    (htargets : ∀ c ∈ clause, c.op ≠ .input → ∀ target ∈ c.targets, target.hasNull = false) :
    ∃ result attempts actions, ended.1 = .finished result ∧
      ended.2.trace = r.trace ++ actions ∧
      Attempts (writeModeOf clause) came.1 (worldLeft reg spawner r.world actions) attempts
        ended.2.world ∧
      attempts.map Attempt.target = takingTargets came.1 clause ∧
      (result.stdout, result.exitCode) =
        handedOver came clause (attempts.any (·.refusal.isSome)) := by
  cases h with
  | @intro messages actions r' htrace hleads =>
    obtain ⟨delivery, hdelivered, hdelivery, hhands, -⟩ :=
      deliver_spec came.1 clause came.2 messages r'
    have hleft : worldLeft reg spawner r.world (actions ++ delivery) = r'.world := by
      rw [worldLeft_append, ← hleads.world,
        worldLeft_of_idle fun a ha => (hdelivery.isDelivery a ha).isSending]
    revert hdelivered hhands
    generalize deliver came.1 came.2 clause messages r' = delivered
    intro hdelivered hhands
    obtain ⟨outcome | e, r''⟩ := delivered
    · obtain ⟨attempts, hattempts, htried, hresult⟩ := hhands
      refine ⟨_, attempts, actions ++ delivery, rfl, ?_, hleft ▸ hattempts, htried, hresult⟩
      rw [hdelivered, htrace, List.append_assoc]
    · obtain ⟨-, c, hclause, hop, target, htarget, hnull⟩ := hhands
      rw [htargets c hclause hop target htarget] at hnull
      cases hnull

section
variable {reg : Registry Handler} {spawner : Spawner} {behaviour : Behaviour}
  {inherited : ByteArray} {clause : Option Clause} {r : Run}

lemma inputSource_of_readable {w : World}
    (hreadable : ∀ c ∈ clause, c.op = .input →
      ∃ source more bytes, c.targets = source :: more ∧ w.read source = .ok bytes) :
    ∃ source, inputSource clause = .ok source ∧
      ∀ path ∈ source, ∃ bytes, w.read path = .ok bytes := by
  match clause with
  | none => exact ⟨none, rfl, by simp⟩
  | some ⟨op, targets⟩ =>
    by_cases hop : op = .input
    · obtain ⟨source, more, bytes, htargets, hread⟩ := hreadable _ rfl hop
      simp only at htargets
      subst hop htargets
      exact ⟨some source, rfl, by simpa using ⟨bytes, hread⟩⟩
    · exact ⟨none, by simp [inputSource, hop], by simp⟩

variable {first : Stage} {rest : List Stage} {actions : List Action} {ended : Outcome × Run}

/-- The stages of a chain that are not hindered come to what passing them comes to, from the bytes
of the source on. -/
lemma Chain.Steps.output_of_start {source : Option Path} {opening : List Action}
    {notices : List String} {result : Except (Outcome × Run) Chain}
    (h : Chain.Steps reg spawner ⟨r.logAll opening, notices, [], none⟩ source (first :: rest)
      actions result)
    (hruns : spawner.Runs behaviour inherited)
    (hread : ∀ path ∈ source, ∃ bytes, r.world.read path = .ok bytes)
    (hstarts : ∀ argv stdin, .spawn argv stdin none ∉ actions)
    (hstays : ∀ e, .returned (.left e) ∉ actions) :
    ∃ d, result = .ok d ∧
      d.output =
        (first :: rest).foldl (passStage reg behaviour) (r.world.sourceBytes source, 0) := by
  obtain ⟨d, hd, houtput⟩ := h.output hruns (.inr (List.cons_ne_nil _ _))
    (fun path hpath => ⟨rfl, hread path hpath⟩) hstarts hstays
  refine ⟨d, hd, houtput.trans ?_⟩
  cases source <;> rfl

/-- A chain that is not hindered hands over what passing its stages comes to. -/
theorem ChainCourse.delivers {source : Option Path}
    (h : ChainCourse reg spawner first rest clause r actions ended)
    (hruns : spawner.Runs behaviour inherited) (hsource : inputSource clause = .ok source)
    (hread : ∀ path ∈ source, ∃ bytes, r.world.read path = .ok bytes)
    (hstarts : ∀ argv stdin, .spawn argv stdin none ∉ actions)
    (hstays : ∀ e, .returned (.left e) ∉ actions) :
    Delivers reg spawner
      ((first :: rest).foldl (passStage reg behaviour) (r.world.sourceBytes source, 0)) clause r
      ended := by
  cases h with
  | sourceless hnone => cases hsource.symm.trans hnone
  | unreadable hsome hbuiltin hunread =>
    obtain rfl := Except.ok.inj (hsource.symm.trans hsome)
    obtain ⟨bytes, hbytes⟩ := hread _ rfl
    cases hunread.symm.trans hbytes
  | halted hsome hnoticed hsteps =>
    rw [hsource] at hsome
    cases hsome
    obtain ⟨d, hd, -⟩ := hsteps.output_of_start hruns hread
      (fun argv stdin ha => hstarts argv stdin (List.mem_append_right _ ha))
      (fun e ha => hstays e (List.mem_append_right _ ha))
    cases hd
  | @finished _ opening stepped delivery notices c hsome hnoticed hsteps hdelivery htrace =>
    rw [hsource] at hsome
    cases hsome
    have hmem : stepped ⊆ opening ++ stepped ++ c.reaping ++ delivery := fun a ha => by simp [ha]
    obtain ⟨_, ⟨⟩, hcame⟩ := hsteps.output_of_start hruns hread
      (fun argv stdin ha => hstarts argv stdin (hmem ha)) (fun e ha => hstays e (hmem ha))
    have hreached := hsteps.trace
    rw [reached, Run.logAll_trace, List.append_assoc] at hreached
    rw [Chain.finish_eq, ← hcame]
    refine .intro c.messages ?_ (hsteps.leads_reaped hnoticed)
    rw [Run.logAll_trace, hreached]
    simp only [List.append_assoc]

end

/-! ## Pipelines -/

section
variable {reg : Registry Handler} {spawner : Spawner} {behaviour : Behaviour}
  {inherited : ByteArray} {p : Pipeline} {w : World} {source : Option Path}

lemma Pipeline.feed_of_source {path : Path} {more : List Path}
    (hclause : p.clause = some ⟨.input, path :: more⟩) :
    p.feed reg w inherited =
      if (p.programs reg).length = p.stages.length then w.sourceBytes (some path)
      else .empty := by
  rw [feed, hclause]

lemma Pipeline.feed_of_sourceless (hop : ∀ c ∈ p.clause, c.op ≠ .input) :
    p.feed reg w inherited = if p.stages.length = 1 then inherited else .empty := by
  rw [feed]
  split
  · rename_i hclause
    exact absurd rfl (hop _ hclause)
  · rfl

lemma Pipeline.composed_of_two_le (hsource : inputSource p.clause = .ok source)
    (hchain : 2 ≤ p.stages.length) :
    p.composed reg behaviour w inherited =
      p.stages.foldl (passStage reg behaviour) (w.sourceBytes source, 0) := by
  have hfeed : p.feed reg w inherited =
      if (p.programs reg).length = p.stages.length then w.sourceBytes source else .empty := by
    obtain ⟨path, more, rfl, hclause⟩ | ⟨rfl, hop⟩ := inputSource_eq_ok hsource
    · exact feed_of_source hclause
    · rw [feed_of_sourceless hop, if_neg (by omega), World.sourceBytes, ite_self]
  rw [composed, foldl_passStage, ← programs, hfeed]
  split
  · rename_i hnil
    have hne : ([] : List Stage).length ≠ p.stages.length := by
      rw [List.length_nil]
      omega
    rw [hnil, if_neg hne]
    rfl
  · rfl

lemma Pipeline.composed_of_builtin {stage : Stage} (hstages : p.stages = [stage])
    (hbuiltin : reg.isBuiltin stage.command = true) :
    p.composed reg behaviour w inherited = (.empty, 0) := by
  rw [composed, programs, hstages, if_pos]
  simp [List.rtakeWhile, hbuiltin]

lemma Pipeline.composed_of_program {stage : Stage} (hstages : p.stages = [stage])
    (hprogram : reg.isBuiltin stage.command = false)
    (hsource : inputSource p.clause = .ok source) :
    p.composed reg behaviour w inherited =
      behaviour (reg.argv stage.command stage.args)
        ((source.map fun path => w.sourceBytes (some path)).getD inherited) := by
  have hprograms : p.programs reg = [stage] := by
    rw [programs, hstages]
    simp [List.rtakeWhile, hprogram]
  have hfeed : p.feed reg w inherited =
      (source.map fun path => w.sourceBytes (some path)).getD inherited := by
    obtain ⟨path, more, rfl, hclause⟩ | ⟨rfl, hop⟩ := inputSource_eq_ok hsource
    · rw [feed_of_source hclause, hprograms, hstages]
      rfl
    · rw [feed_of_sourceless hop, hstages]
      rfl
  rw [composed, hprograms, hfeed]
  rfl

lemma Fed.bytes_eq {clause : Option Clause} {stdin : Stdin} {opening : List Action}
    (h : Fed clause w stdin opening) (hsource : inputSource clause = .ok source) :
    stdin.bytes inherited =
      (source.map fun path => w.sourceBytes (some path)).getD inherited := by
  cases h with
  | inherited hnone =>
    obtain rfl := Except.ok.inj (hsource.symm.trans hnone)
    rfl
  | source hsome hread =>
    obtain rfl := Except.ok.inj (hsource.symm.trans hsome)
    simp [Stdin.bytes, World.sourceBytes, hread, Except.toOption]

variable {r r' : Run} {stage : Stage} {actions : List Action} {ended : Outcome × Run}

/-- A stage alone comes to nothing, or to what its program does with what it reads. -/
lemma ComesTo.came_eq {before : List Action} {came : ByteArray × Int} {messages : List String}
    (h : ComesTo reg spawner stage r before came messages r')
    (hruns : spawner.Runs behaviour inherited) (hstages : p.stages = [stage])
    (hclause : p.clause = stage.clause) (hsource : inputSource p.clause = .ok source) :
    came = p.composed reg behaviour r.world inherited := by
  cases h with
  | called hlook hnoticed hbuiltin =>
    exact (Pipeline.composed_of_builtin hstages (isBuiltin_of_eq hbuiltin)).symm
  | collected hfed hprogram hspawn =>
    obtain ⟨houtput, hstatus⟩ := hruns _ _ _ _ _ hspawn
    rw [Pipeline.composed_of_program hstages (isBuiltin_of_eq_none hprogram) hsource,
      ← hfed.bytes_eq (hclause ▸ hsource), houtput, hstatus]
    rfl

/-- A stage alone that is not hindered hands over what it comes to. -/
theorem SingleCourse.delivers (h : SingleCourse reg spawner stage r actions ended)
    (hruns : spawner.Runs behaviour inherited) (hstages : p.stages = [stage])
    (hclause : p.clause = stage.clause) (hsource : inputSource p.clause = .ok source)
    (hread : ∀ path ∈ source, ∃ bytes, r.world.read path = .ok bytes)
    (hstarts : ∀ argv stdin, .spawn argv stdin none ∉ actions)
    (hstays : ∀ e, .returned (.left e) ∉ actions) :
    Delivers reg spawner (p.composed reg behaviour r.world inherited) p.clause r ended := by
  cases h with
  | sourceless hnone => cases (hclause ▸ hsource).symm.trans hnone
  | unreadable hsome hunread =>
    obtain rfl := Except.ok.inj ((hclause ▸ hsource).symm.trans hsome)
    obtain ⟨bytes, hbytes⟩ := hread _ rfl
    cases hunread.symm.trans hbytes
  | @left handler source opening notices e w => exact absurd (by simp) (hstays e)
  | @notStarted stdin opening fault w =>
    refine absurd ?_ (hstarts (reg.argv stage.command stage.args) stdin)
    simp [spawnActions]
  | uncollected hfed hprogram hspawn hcollected =>
    obtain ⟨houtput, -⟩ := hruns _ _ _ _ _ hspawn
    rw [Process.collected, houtput] at hcollected
    cases hcollected
  | delivered hcomes =>
    rw [hcomes.came_eq hruns hstages hclause hsource, hclause]
    exact .intro _ hcomes.trace hcomes.leads

/-- A pipeline that is not hindered hands over what its programs come to. -/
lemma execute_delivers (hruns : spawner.Runs behaviour inherited)
    (hfree : RunsToDelivery reg spawner p r) :
    Delivers reg spawner (p.composed reg behaviour r.world inherited) p.clause
      (r.log (.execute p.stages)) (execute reg spawner p r) := by
  obtain ⟨source, hsource, hread⟩ := inputSource_of_readable hfree.readable
  obtain ⟨actions, hactions, hcourse⟩ := execute_course reg spawner p r
  have hmem : actions ⊆ actionsOf reg spawner p r := by
    rw [hactions]
    exact List.subset_cons_self _ _
  have hstarts (argv : List String) (stdin : Stdin) : .spawn argv stdin none ∉ actions :=
    fun h => hfree.starts argv stdin (hmem h)
  have hstays (e : Escape) : .returned (.left e) ∉ actions := fun h => hfree.stays e (hmem h)
  cases hcourse with
  | chain hstages hchain hcourse =>
    have hdelivers := hcourse.delivers hruns hsource hread hstarts hstays
    rw [Pipeline.composed_of_two_le hsource hchain]
    rwa [← hstages] at hdelivers
  | single hstages hclause hcourse =>
    exact hcourse.delivers hruns hstages hclause hsource hread hstarts hstays

end

end CommandShell
