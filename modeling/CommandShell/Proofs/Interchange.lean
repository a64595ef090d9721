import CommandShell.Proofs.Forgiven
import CommandShell.Proofs.Reports

/-!
# Stages in the place of others

What is done to a stage depends on the words with which its program is run, or on the builtin that
it calls, and on its clause. How the stage is spelled makes no difference, nor does the rest of the
registry. So a stage whose alias has been written out runs like the one it stands for, down to the
last action and the last diagnostic.
-/
namespace CommandShell
open Text

/-! ## Nobody reads the trace -/

section
variable {reg : Registry Handler} {spawner : Spawner} (earlier : List Action)

lemma deliver_behind (raw : ByteArray) (code : Int) (clause : Option Clause)
    (messages : List String) (r : Run) :
    deliver raw code clause messages (r.behind earlier) =
      Prod.map id (Run.behind earlier) (deliver raw code clause messages r) := by
  cases destined raw clause with
  | nowhere hdecode => simp only [deliver_of_error code messages _ hdecode, Prod.map, id]
  | back hdecode hkeeps => simp only [deliver_of_keeps code messages _ hdecode hkeeps, Prod.map, id]
  | targets hdecode hop =>
    simp only [deliver_of_takes code messages _ hdecode hop, Clause.writeTargets,
      Run.log_behind, writeAll_behind, Prod.map, id]

lemma collect_behind (number : Nat) (process : Process) (feed : Option Nat)
    (clause : Option Clause) (r : Run) :
    collect number process feed clause (r.behind earlier) =
      Prod.map id (Run.behind earlier) (collect number process feed clause r) := by
  simp only [collect, Run.log_behind]
  cases process.collected with
  | none => rfl
  | some raw => exact deliver_behind earlier raw process.status clause [] _

lemma Chain.finish_behind (c : Chain) (clause : Option Clause) :
    (c.behind earlier).finish clause = Prod.map id (Run.behind earlier) (c.finish clause) := by
  rw [finish_eq, finish_eq, ← deliver_behind, ← Run.logAll_behind]
  rfl

lemma Run.readSource_behind (path : Path) (r : Run) :
    (r.behind earlier).readSource path = Prod.map id (behind earlier) (r.readSource path) := by
  simp only [readSource, openSource_behind]
  obtain ⟨contents, r'⟩ := r.openSource path
  cases contents <;> simp [log_behind]

lemma noticeIgnored_behind (source : Option Path) (command : String) (r : Run) :
    noticeIgnored source command (r.behind earlier) =
      Prod.map id (Run.behind earlier) (noticeIgnored source command r) := by
  cases source with
  | none => rfl
  | some path =>
    simp only [noticeIgnored, checkIgnored, Run.readSource_behind]
    obtain ⟨contents, r'⟩ := r.readSource path
    cases contents <;> rfl

lemma singleInput_behind (clause : Option Clause) (r : Run) :
    singleInput clause (r.behind earlier) =
      Prod.map id (Run.behind earlier) (singleInput clause r) := by
  match clause with
  | none => rfl
  | some ⟨op, targets⟩ =>
    by_cases hop : op = .input
    · simp only [singleInput, if_pos hop, Clause.readSource]
      cases hsource : (Clause.mk op targets).source? with
      | error e => rfl
      | ok path =>
        simp only [Run.readSource_behind]
        obtain ⟨contents, r'⟩ := r.readSource path
        cases contents <;> rfl
    · simp only [singleInput, if_neg hop]
      rfl

variable (reg spawner)

lemma runSingle_behind (stage : Stage) (r : Run) :
    runSingle reg spawner stage (r.behind earlier) =
      Prod.map id (Run.behind earlier) (runSingle reg spawner stage r) := by
  cases hbuiltin : reg.builtin? stage.command with
  | some handler =>
    simp only [runSingle, hbuiltin, runBuiltin]
    cases inputSource stage.clause with
    | error e => rfl
    | ok source =>
      simp only [noticeIgnored_behind]
      obtain ⟨answer, r'⟩ := noticeIgnored source stage.command r
      cases answer with
      | error fault => rfl
      | ok notices =>
        simp only [Prod.map, id, callBuiltin_behind]
        obtain ⟨answer, s⟩ := callBuiltin handler stage r'
        cases answer with
        | error e => rfl
        | ok failures => exact deliver_behind earlier _ _ _ _ s
  | none =>
    simp only [runSingle, hbuiltin, runProgram, singleInput_behind]
    obtain ⟨answer, r'⟩ := singleInput stage.clause r
    cases answer with
    | error fault => rfl
    | ok stdin =>
      simp only [Prod.map, id, Run.spawn_behind]
      obtain ⟨answer, s⟩ := r'.spawn spawner (reg.argv stage.command stage.args) stdin
      cases answer with
      | error fault => rfl
      | ok started => exact collect_behind earlier started.1 started.2 stdin.feed stage.clause s

lemma runChain_behind (first : Stage) (rest : List Stage) (clause : Option Clause) (r : Run) :
    runChain reg spawner first rest clause (r.behind earlier) =
      Prod.map id (Run.behind earlier) (runChain reg spawner first rest clause r) := by
  unfold runChain
  cases inputSource clause with
  | error e => rfl
  | ok source =>
    have hfirst : noticeFirst reg first source (r.behind earlier) =
        Prod.map id (Run.behind earlier) (noticeFirst reg first source r) := by
      simp only [noticeFirst]
      split
      · exact noticeIgnored_behind earlier source first.command r
      · rfl
    simp only [hfirst]
    obtain ⟨answer, r'⟩ := noticeFirst reg first source r
    cases answer with
    | error fault => rfl
    | ok notices =>
      have hstart : (⟨r'.behind earlier, notices, [], none⟩ : Chain) =
          Chain.behind earlier ⟨r', notices, [], none⟩ := rfl
      simp only [Prod.map, id, hstart, Chain.steps_behind]
      cases Chain.steps reg spawner ⟨r', notices, [], none⟩ source (first :: rest) with
      | error halted => rfl
      | ok c => exact c.finish_behind earlier clause

end

/-! ## Stages to which the same is done -/

/-- Two stages, each under a registry of its own, to which the same is done: both are programs that
are run with the same words, under the same clause, or they are one call of one builtin. -/
inductive Interchangeable (reg other : Registry Handler) : Stage → Stage → Prop
  | program {s t : Stage} (hs : reg.builtin? s.command = none)
      (ht : other.builtin? t.command = none)
      (hwords : reg.argv s.command s.args = other.argv t.command t.args)
      (hclause : s.clause = t.clause) : Interchangeable reg other s t
  | builtin {s : Stage} {handler : Handler} (hs : reg.builtin? s.command = some handler)
      (ht : other.builtin? s.command = some handler) : Interchangeable reg other s s

section
variable {reg other : Registry Handler} (spawner : Spawner) {s t : Stage} {rest more : List Stage}
  {p q : Pipeline}

namespace Interchangeable

lemma refl (reg : Registry Handler) (s : Stage) : Interchangeable reg reg s s := by
  cases hbuiltin : reg.builtin? s.command with
  | none => exact .program hbuiltin hbuiltin rfl rfl
  | some handler => exact .builtin hbuiltin hbuiltin

lemma clause_eq (h : Interchangeable reg other s t) : s.clause = t.clause := by
  cases h with
  | program _ _ _ hclause => exact hclause
  | builtin => rfl

lemma step_eq (h : Interchangeable reg other s t) (c : Chain) (source : Option Path) :
    c.step reg spawner source s = c.step other spawner source t := by
  cases h with
  | program hs ht hwords => simp only [Chain.step, hs, ht, hwords]
  | builtin hs ht => simp only [Chain.step, hs, ht]

lemma noticeFirst_eq (h : Interchangeable reg other s t) (source : Option Path) (r : Run) :
    noticeFirst reg s source r = noticeFirst other t source r := by
  -- The notice names the command, but only that of a builtin.
  cases h with
  | program hs ht => simp [noticeFirst, isBuiltin_of_eq_none hs, isBuiltin_of_eq_none ht]
  | builtin hs ht => simp only [noticeFirst, isBuiltin_of_eq hs, isBuiltin_of_eq ht]

lemma runSingle_eq (h : Interchangeable reg other s t) (r : Run) :
    runSingle reg spawner s r = runSingle other spawner t r := by
  cases h with
  | program hs ht hwords hclause => simp only [runSingle, hs, ht, runProgram, hwords, hclause]
  | builtin hs ht => simp only [runSingle, hs, ht]

end Interchangeable

lemma Chain.steps_interchange (h : List.Forall₂ (Interchangeable reg other) rest more)
    (c : Chain) (source : Option Path) :
    c.steps reg spawner source rest = c.steps other spawner source more := by
  induction h generalizing c source with
  | nil => rfl
  | @cons s t rest more hfirst hrest ih =>
    rw [steps, steps, hfirst.step_eq]
    cases c.step other spawner source t with
    | error halted => rfl
    | ok d => exact ih d none

lemma runChain_interchange (hfirst : Interchangeable reg other s t)
    (hrest : List.Forall₂ (Interchangeable reg other) rest more) (clause : Option Clause)
    (r : Run) :
    runChain reg spawner s rest clause r = runChain other spawner t more clause r := by
  simp only [runChain, hfirst.noticeFirst_eq, Chain.steps_interchange spawner (hrest.cons hfirst)]

lemma Pipeline.clause_interchange
    (h : List.Forall₂ (Interchangeable reg other) p.stages q.stages) : p.clause = q.clause := by
  have hclauses : p.stages.map Stage.clause = q.stages.map Stage.clause :=
    List.forall₂_eq_eq_eq ▸ (List.forall₂_map_left_iff.2 (List.forall₂_map_right_iff.2
      (h.imp fun _ _ hstage => hstage.clause_eq)))
  have hfind (stages : List Stage) :
      stages.findSome? Stage.clause = (stages.map Stage.clause).findSome? id := by
    rw [List.findSome?_map, Function.id_comp]
  rw [clause, clause, hfind, hfind, hclauses]

/-- Pipelines whose stages stand for each other run alike: apart from the list of the stages that
is noted first, they do the same, leave the same world and come to the same. -/
theorem execute_interchange (h : List.Forall₂ (Interchangeable reg other) p.stages q.stages)
    (r : Run) :
    ∃ outcome w started actions,
      execute reg spawner p r =
        (outcome, ⟨w, started, r.trace ++ .execute p.stages :: actions⟩) ∧
      execute other spawner q r =
        (outcome, ⟨w, started, r.trace ++ .execute q.stages :: actions⟩) := by
  have hlog (stages : List Stage) : r.log (.execute stages) =
      Run.behind (r.trace ++ [.execute stages]) ⟨r.world, r.started, []⟩ := by
    simp [Run.log, Run.behind]
  suffices hsame : ∃ ended : Outcome × Run,
      execute reg spawner p r =
        Prod.map id (Run.behind (r.trace ++ [.execute p.stages])) ended ∧
      execute other spawner q r =
        Prod.map id (Run.behind (r.trace ++ [.execute q.stages])) ended by
    obtain ⟨⟨outcome, w, started, actions⟩, hp, hq⟩ := hsame
    refine ⟨outcome, w, started, actions, ?_, ?_⟩
    · simpa [Run.behind] using hp
    · simpa [Run.behind] using hq
  by_cases hchain : 2 ≤ p.stages.length
  · obtain ⟨first, rest, hp, hrun⟩ := execute_of_two_le reg spawner hchain r
    obtain ⟨first', more, hq, hrun'⟩ :=
      execute_of_two_le other spawner (h.length_eq ▸ hchain) r
    rw [hrun, hrun', hlog, hlog, runChain_behind, runChain_behind, ← Pipeline.clause_interchange h]
    rw [hp, hq] at h
    cases h with
    | cons hfirst hrest =>
      rw [runChain_interchange spawner hfirst hrest]
      exact ⟨_, rfl, rfl⟩
  · have hlt := Nat.lt_of_not_le hchain
    obtain ⟨stage, hp, -, hrun⟩ := execute_of_lt_two reg spawner hlt r
    obtain ⟨stage', hq, -, hrun'⟩ := execute_of_lt_two other spawner (h.length_eq ▸ hlt) r
    rw [hrun, hrun', hlog, hlog, runSingle_behind, runSingle_behind]
    rw [hp, hq] at h
    cases h with
    | cons hfirst =>
      rw [hfirst.runSingle_eq]
      exact ⟨_, rfl, rfl⟩

end

/-! ## Aliases written out -/

lemma builtin?_eq_none_iff {reg : Registry Handler} {name : String} :
    reg.builtin? name = none ↔ reg.isBuiltin name = false := by
  rw [Registry.isBuiltin, Option.isSome_eq_false_iff, Option.isNone_iff_eq_none]

/-- A stage whose alias stands for other words runs like the stage with these words written out, in
whatever pipeline it stands: the same is called, started, closed, waited for and written, the same
world is left, and the same comes of it. The first word must be neither a builtin nor an alias, as
an alias is looked up once and never leads to a builtin. -/
theorem alias_written_out_runs_alike (reg : Registry Handler) (spawner : Spawner)
    (front back : List Stage) (stage : Stage) {target first : String} {others : List String}
    (hprogram : reg.isBuiltin stage.command = false)
    (halias : reg.alias? stage.command = some target) (hwords : words target = first :: others)
    (hbuiltin : reg.isBuiltin first = false) (hnone : reg.alias? first = none) (r : Run) :
    let p : Pipeline := ⟨front ++ stage :: back, by simp⟩
    let q : Pipeline := ⟨front ++ ⟨first, others ++ stage.args, stage.clause⟩ :: back, by simp⟩
    ∃ outcome w started actions,
      execute reg spawner p r =
        (outcome, ⟨w, started, r.trace ++ .execute p.stages :: actions⟩) ∧
      execute reg spawner q r =
        (outcome, ⟨w, started, r.trace ++ .execute q.stages :: actions⟩) := by
  intro p q
  have hstage : Interchangeable reg reg stage ⟨first, others ++ stage.args, stage.clause⟩ := by
    refine .program (builtin?_eq_none_iff.2 hprogram) (builtin?_eq_none_iff.2 hbuiltin) ?_ rfl
    simp [Registry.argv, Registry.expand, halias, hwords, hnone]
  have hsame (stages : List Stage) : List.Forall₂ (Interchangeable reg reg) stages stages :=
    List.forall₂_same.2 fun s _ => .refl reg s
  exact execute_interchange spawner (List.rel_append (hsame front) ((hsame back).cons hstage)) r

/-- An alias with an argument of its own, between a builtin and a program that is refused. -/
theorem alias_written_out_runs_alike_in_middle :
    let reg : Registry Handler :=
      ⟨[("cd", fun _ w => (.done, w.say "moved"))], [("removef", "rm -r"), ("cd", "rm")], []⟩
    let spawner : Spawner := fun argv _ w =>
      if argv = ["wc"] then (.error (.refused "wc" "command not found"), w)
      else (.ok (.writing .empty true 0), w.say (String.intercalate " " argv))
    let r := Run.begin (.ofEntries [])
    let p : Pipeline := ⟨[⟨"cd", ["d"], none⟩, ⟨"removef", ["e"], none⟩, ⟨"wc", [], none⟩],
      by decide⟩
    let q : Pipeline := ⟨[⟨"cd", ["d"], none⟩, ⟨"rm", ["-r", "e"], none⟩, ⟨"wc", [], none⟩],
      by decide⟩
    reg.isBuiltin "removef" = false ∧ reg.alias? "removef" = some "rm -r" ∧
      words "rm -r" = ["rm", "-r"] ∧ reg.isBuiltin "rm" = false ∧ reg.alias? "rm" = none ∧
      ∃ outcome w started actions,
        execute reg spawner p r =
          (outcome, ⟨w, started, r.trace ++ .execute p.stages :: actions⟩) ∧
        execute reg spawner q r =
          (outcome, ⟨w, started, r.trace ++ .execute q.stages :: actions⟩) := by
  intro reg spawner r p q
  have hwords : words "rm -r" = ["rm", "-r"] := by decide
  exact ⟨rfl, rfl, hwords, rfl, rfl, alias_written_out_runs_alike reg spawner
    [⟨"cd", ["d"], none⟩] [⟨"wc", [], none⟩] ⟨"removef", ["e"], none⟩ rfl rfl hwords rfl rfl r⟩

end CommandShell
