import CommandShell.Proofs.Course

/-!
# Sources that cannot be read

The source of an input clause is looked at in four places: in front of a builtin, in front of a
program, and in both ways at the head of a chain. When the host does not open it, all four end the
run alike, and nothing has been done but the attempt.
-/
namespace CommandShell
open Text

/-- The end of a run over a source that the host does not open. -/
def unreadableEnd (source : Path) (error : SystemError) (r : Run) : Outcome × Run :=
  (.aborted [unreadable source error] streamFailed, r.log (.openSource source false))

section
variable {reg : Registry Handler} {spawner : Spawner} {clause : Option Clause} {source : Path}
  {more : List Path} {error : SystemError} {r : Run} {stage first : Stage}

lemma inputSource_of_eq (h : clause = some ⟨.input, source :: more⟩) :
    inputSource clause = .ok (some source) := by
  subst h
  rfl

variable (hread : r.world.read source = .error (.system error))
include hread

lemma noticeIgnored_unreadable (command : String) :
    noticeIgnored (some source) command r =
      (.error (.streamFault (unreadable source error)), r.log (.openSource source false)) := by
  simp only [noticeIgnored, checkIgnored, Run.readSource_of_error hread]
  rfl

lemma runBuiltin_unreadable (handler : Handler)
    (h : stage.clause = some ⟨.input, source :: more⟩) :
    runBuiltin handler stage r = unreadableEnd source error r := by
  simp only [runBuiltin, inputSource_of_eq h, noticeIgnored_unreadable hread]
  rfl

/-- A program alone is fed what the shell reads before it is started. -/
lemma runProgram_unreadable (h : stage.clause = some ⟨.input, source :: more⟩) :
    runProgram reg spawner stage r = unreadableEnd source error r := by
  have hinput : singleInput stage.clause r =
      (.error (.streamFault (unreadable source error)), r.log (.openSource source false)) := by
    simp only [singleInput, h, if_true, Clause.readSource, Clause.source?,
      Run.readSource_of_error hread]
    rfl
  simp only [runProgram, hinput]
  rfl

/-- A program at the head of a chain has the source opened for it. -/
lemma spawnSource_unreadable (argv : List String) :
    spawnSource spawner argv source r =
      (.error (.streamFault (unreadable source error)), r.log (.openSource source false)) := by
  have hopen : r.openSource source =
      (.error (.system error), r.log (.openSource source false)) := by
    simp only [Run.openSource, hread]
    rfl
  simp only [spawnSource, hopen]
  rfl

lemma runChain_unreadable (rest : List Stage) (h : clause = some ⟨.input, source :: more⟩) :
    runChain reg spawner first rest clause r = unreadableEnd source error r := by
  simp only [runChain, inputSource_of_eq h]
  cases hbuiltin : reg.builtin? first.command with
  | some handler =>
    have hfirst : noticeFirst reg first (some source) r =
        (.error (.streamFault (unreadable source error)), r.log (.openSource source false)) := by
      simp only [noticeFirst, Registry.isBuiltin, hbuiltin, Option.isSome_some, if_true,
        noticeIgnored_unreadable hread]
    simp only [hfirst]
    rfl
  | none =>
    have hfirst : noticeFirst reg first (some source) r = (.ok [], r) := by
      simp [noticeFirst, Registry.isBuiltin, hbuiltin]
    simp only [hfirst, Chain.steps, Chain.step, hbuiltin, Chain.pending, spawnStage,
      spawnSource_unreadable hread]
    rfl

end

/-- When the host does not open the source of an input clause, the result says so and nothing else
happens: no program is started, no builtin is called, no other file is opened and the world stays as
it is. -/
theorem unreadable_source_ends_run (reg : Registry Handler) (spawner : Spawner) (p : Pipeline)
    (r : Run) (source : Path) (more : List Path) (error : SystemError)
    (hclause : p.clause = some ⟨.input, source :: more⟩)
    (hread : r.world.read source = .error (.system error)) :
    execute reg spawner p r =
      (.finished ⟨"", source.text ++ ": cannot read input: " ++ error.reason ++ "\n", 1⟩,
        r.logAll [.execute p.stages, .openSource source false]) := by
  have hend : unreadableEnd source error (r.log (.execute p.stages)) =
      (.finished ⟨"", source.text ++ ": cannot read input: " ++ error.reason ++ "\n", 1⟩,
        r.logAll [.execute p.stages, .openSource source false]) := by
    simp [unreadableEnd, Outcome.aborted, unreadable, unlines, Run.log, Run.logAll, streamFailed]
    rfl
  have hstart : (r.log (.execute p.stages)).world.read source = .error (.system error) := hread
  rw [← hend]
  by_cases hchain : 2 ≤ p.stages.length
  · obtain ⟨first, rest, -, hrun⟩ := execute_of_two_le reg spawner hchain r
    rw [hrun]
    exact runChain_unreadable hstart rest hclause
  · obtain ⟨stage, -, hstage, hrun⟩ :=
      execute_of_lt_two reg spawner (Nat.lt_of_not_le hchain) r
    rw [hstage] at hclause
    rw [hrun, runSingle]
    cases reg.builtin? stage.command with
    | some handler => exact runBuiltin_unreadable hstart handler hclause
    | none => exact runProgram_unreadable hstart hclause

/-- A chain that starts with a builtin and goes on with a program and a builtin that leaves. -/
theorem unreadable_source_ends_run_of_chain :
    let source : Path := ⟨.here, ["missing"]⟩
    let reg : Registry Handler :=
      ⟨[("cd", fun _ w => (.done, w.say "moved")), ("exit", fun _ w => (.left (.exit 0), w))],
        [], []⟩
    let spawner : Spawner := fun _ _ w => (.ok (.writing .empty true 0), w.say "started")
    let p : Pipeline := ⟨[⟨"cd", [], some ⟨.input, [source, ⟨.root, []⟩]⟩⟩, ⟨"cat", [], none⟩,
      ⟨"exit", [], none⟩], by decide⟩
    let r := Run.begin (.ofEntries [])
    let error : SystemError := .file .notFound (some "missing")
    p.clause = some ⟨.input, [source, ⟨.root, []⟩]⟩ ∧
      r.world.read source = .error (.system error) ∧
      execute reg spawner p r =
        (.finished ⟨"", "missing: cannot read input: No such file or directory\n", 1⟩,
          r.logAll [.execute p.stages, .openSource source false]) := by
  intro source reg spawner p r error
  have hread : r.world.read source = .error (.system error) := by
    have hlocate : r.world.locate source = .ok (.free ["missing"]) := by
      rw [World.locate, World.locateFrom, if_neg (by decide)]
      rfl
    have hnull : source.hasNull = false := by simp [source, Path.hasNull]
    have htext : source.text = "missing" := by decide
    simp [World.read, hnull, hlocate, World.readAt, World.failure, htext, error]
  refine ⟨rfl, hread, ?_⟩
  have hrun := unreadable_source_ends_run reg spawner p r source [⟨.root, []⟩] error rfl hread
  have hmessage : source.text ++ ": cannot read input: " ++ error.reason ++ "\n" =
      "missing: cannot read input: No such file or directory\n" := by decide
  rwa [hmessage] at hrun

end CommandShell
