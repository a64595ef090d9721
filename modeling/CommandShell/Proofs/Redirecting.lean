import CommandShell.Proofs.Contents
import CommandShell.Proofs.Sourceless

/-!
# Redirected output

Redirecting the output of a pipeline changes nothing about its run but where the output goes. If the
run comes to an output that is a text, the targets get its bytes as they are; a target that is
refused costs a diagnostic and the exit code, and keeps no other target from being written.
-/
namespace CommandShell
open Text

/-! ## What the targets hold -/

namespace World
variable {w : World} {path target : Path} {l : Location} {data : FileData}

lemma locate_overwritten {files : FileTree} (h : w.files.Overwritten files)
    (hfile : w.locate path = .ok (.file l data)) :
    ∃ bytes, { w with files }.locate path = .ok (.file l { data with bytes }) := by
  obtain ⟨bytes, hstays⟩ := h.keepsWays.file (locate_stands hfile)
  exact ⟨bytes, by rw [locate_renewed h hfile, Spot.renewed, hstays]⟩

lemma identity?_of_file (h : w.locate path = .ok (.file l data)) :
    w.identity? path = some data.identity := by
  rw [identity?, h]

/-- A file is still the same one after others have been made and written. -/
lemma identity?_overwritten {files : FileTree} (h : w.files.Overwritten files) {identity : Nat}
    (hpath : w.identity? path = some identity) :
    { w with files }.identity? path = some identity := by
  unfold identity? at hpath
  split at hpath
  next l f hfile =>
    obtain ⟨bytes, hlater⟩ := locate_overwritten h hfile
    rw [identity?_of_file hlater]
    exact hpath
  next => cases hpath

/-- Writing leaves a file as it is unless it is the one that is opened. -/
lemma write_keeps_or_opens (h : w.locate path = .ok (.file l data)) (mode : WriteMode)
    (target : Path) (bytes : ByteArray) :
    (w.write mode target bytes).2.locate path = .ok (.file l data) ∨
      (w.opens target = true ∧ w.identity? target = some data.identity) := by
  have hstands : w.files.get? l = some (.file data) := locate_stands h
  have hkept {files : FileTree} (hover : w.files.Overwritten files)
      (hsame : files.get? l = some (.file data)) :
      { w with files }.locate path = .ok (.file l data) := by
    rw [locate_renewed hover h, Spot.renewed, hsame]
  obtain ⟨e, -, hwrite⟩ | ⟨spot, sink, hopens, hspot, hsink, hwrite⟩ :=
    write_cases w mode target bytes
  · exact .inl (by rw [hwrite, h])
  · rw [hwrite]
    obtain ⟨m, f, rfl, rfl, -⟩ | ⟨m, rfl, rfl, -⟩ | ⟨m, d, rfl, rfl, -⟩ := sinkAt_eq_ok hsink
    · by_cases hidentity : f.identity = data.identity
      · exact .inr ⟨hopens, by rw [identity?_of_file hspot, hidentity]⟩
      · refine .inl (hkept (.of_rewrite _ _ _) ?_)
        rw [FileTree.get?_rewrite, hstands, Option.map_some, Entry.rewrite,
          if_neg (Ne.symm hidentity)]
    · obtain ⟨hm, hfree⟩ : m ≠ [] ∧ w.files.get? m = none := locate_stands hspot
      have hother : m ≠ l := fun heq => by simp [← heq, hfree] at hstands
      refine .inl (hkept (holds_create hspot w.fileMode).1.overwritten ?_)
      rw [FileTree.create, FileTree.get?_set _ _ _ _ hm, if_neg hother, hstands]
    · exact .inl h

/-- Whether a target leads to a file that has been opened for another one and left unfinished. -/
def LeftUnfinished (w : World) (attempts : List Attempt) (target : Path) : Prop :=
  ∃ b ∈ attempts, b.opened = true ∧ b.refusal.isSome = true ∧
    ∃ identity, w.identity? target = some identity ∧ w.identity? b.target = some identity

lemma LeftUnfinished.behind {attempts : List Attempt} (a : Attempt)
    (h : w.LeftUnfinished attempts target) : w.LeftUnfinished (a :: attempts) target :=
  h.imp fun _ hb => ⟨List.mem_cons_of_mem _ hb.1, hb.2⟩

end World

/-- What a file holds it holds after more of the same has been written, unless it has been left
unfinished. -/
lemma Attempts.keeps {bytes : ByteArray} {w w' : World} {attempts : List Attempt}
    (h : Attempts .replace bytes w attempts w') {path : Path} {l : Location} {data : FileData}
    (hfile : w.locate path = .ok (.file l data)) (hdata : data.bytes = bytes) :
    w'.Holds path bytes ∨ w'.LeftUnfinished attempts path := by
  induction h generalizing data with
  | nil => exact .inl (.inl ⟨l, data, hfile, hdata⟩)
  | written hwrite hrest ih =>
    obtain ⟨files, rfl, hwritten, -⟩ := World.write_eq_ok hwrite
    obtain ⟨held, hheld, hspot⟩ := Spot.renewed_file (World.locate_stands hfile) hwritten
    refine (ih (by rw [World.locate_renewed hwritten.overwritten hfile, hspot]) ?_).imp_right
      (.behind _)
    obtain rfl | rfl := hheld
    · exact hdata
    · rfl
  | @refused target error rest w w₁ w' hwrite hrest ih =>
    obtain hkept | ⟨hopens, htarget⟩ := World.write_keeps_or_opens hfile .replace target bytes
    · rw [hwrite] at hkept
      exact (ih hkept hdata).imp_right (.behind _)
    · obtain ⟨files, rfl, hover⟩ := (Attempts.refused hwrite hrest).overwritten
      exact .inr ⟨_, List.mem_cons_self, hopens, rfl, data.identity,
        World.identity?_overwritten hover (World.identity?_of_file hfile),
        World.identity?_overwritten hover htarget⟩

lemma Attempts.keeps_device {mode : WriteMode} {bytes : ByteArray} {w w' : World}
    {attempts : List Attempt} (h : Attempts mode bytes w attempts w') {path : Path} {l : Location}
    {d : Device} (hdevice : w.locate path = .ok (.device l d)) :
    w'.locate path = .ok (.device l d) := by
  obtain ⟨files, rfl, hover⟩ := h.overwritten
  exact World.locate_renewed hover hdevice

/-- All that has been written is there in the end, unless its file has been left unfinished. -/
lemma Attempts.holds {bytes : ByteArray} {w w' : World} {attempts : List Attempt}
    (h : Attempts .replace bytes w attempts w') :
    ∀ a ∈ attempts, a.refusal = none →
      w'.Holds a.target bytes ∨ w'.LeftUnfinished attempts a.target := by
  induction h with
  | nil => simp
  | written hwrite hrest ih =>
    intro a ha hnone
    obtain rfl | ha := List.mem_cons.1 ha
    · obtain ⟨files, rfl, -, hholds⟩ := World.write_eq_ok hwrite
      obtain ⟨l, data, hfile, hdata⟩ | ⟨l, d, hdevice⟩ := hholds
      · exact (hrest.keeps hfile hdata).imp_right (.behind _)
      · exact .inl (.inr ⟨l, d, hrest.keeps_device hdevice⟩)
    · exact (ih a ha hnone).imp_right (.behind _)
  | refused hwrite hrest ih =>
    intro a ha hnone
    obtain rfl | ha := List.mem_cons.1 ha
    · cases hnone
    · exact (ih a ha hnone).imp_right (.behind _)

/-- A text is delivered to targets: all of them are tried, and those that are refused are
reported. -/
lemma deliver_attempts {raw : ByteArray} {text : String} (hdecode : Utf8.decode raw = .ok text)
    (code : Int) {targets : List Path} (hnull : ∀ target ∈ targets, target.hasNull = false)
    (messages : List String) (r : Run) :
    ∃ attempts w, Attempts .replace raw r.world attempts w ∧
      attempts.map Attempt.target = targets ∧
      deliver raw code (some ⟨.output, targets⟩) messages r =
        (.finished ⟨"", unlines messages ++ unlines (attempts.filterMap Attempt.diagnostic?),
            if attempts.any (·.refusal.isSome) then 1 else code⟩,
          ⟨w, r.started,
            r.trace ++ .deliver text.length targets :: attempts.map Attempt.action⟩) := by
  obtain ⟨attempts, w, hattempts, htargets, hall⟩ := exists_attempts .replace raw targets hnull
    (r.log (.deliver text.length targets))
  have hwritten : (Clause.mk .output targets).writeTargets text
        (r.log (.deliver text.length targets)) =
      writeAll .replace raw targets (r.log (.deliver text.length targets)) := by
    rw [Clause.writeTargets, Utf8.toByteArray_of_decode hdecode]
    rfl
  refine ⟨attempts, w, hattempts, htargets, ?_⟩
  rw [deliver_of_takes code messages r hdecode Redirect.noConfusion]
  simp only [hwritten, hall, writtenOutcome_attempts]
  simp [streamFailed]

/-! ## The same run -/

/-- The pipeline of a row of calls, with a clause in its place. -/
def Pipeline.ofCalls (calls : List Call) (hne : calls ≠ []) (clause : Option Clause) :
    Pipeline where
  stages := place clause (calls.map Stage.ofCall)
  stages_ne_nil hnil := hne (by simpa using congrArg (List.map Stage.call) hnil)

section
variable {calls : List Call} {hne : calls ≠ []} {clause : Option Clause}

lemma Pipeline.calls_ofCalls : (ofCalls calls hne clause).stages.map Stage.call = calls := by
  rw [ofCalls, map_call_place, map_call_ofCall]

lemma Pipeline.clause_ofCalls : (ofCalls calls hne clause).clause = clause :=
  findSome?_place _ (fun s => Stage.clause_of_mem_map_ofCall) (by simpa using hne)

end

section
variable {result : Except (Outcome × Run) Chain}

/-- What keeps output from being delivered: a failure, or that it is no text. -/
def Withheld (actions : List Action) : Prop :=
  (∃ a ∈ actions, a.isFailure = true) ∨ ∃ fault, Utf8.decode (lastOutput actions) = .error fault

/-- The clause makes no difference to a run whose output is withheld. -/
lemma Dispatched.handOver_of_withheld (h : Dispatched result)
    (hwithheld : Withheld (reached result).trace) :
    ∃ outcome, ∀ clause earlier,
      handOver clause (behind earlier result) = (outcome, (reached result).behind earlier) := by
  cases h with
  | halted => exact ⟨_, fun clause earlier => rfl⟩
  | @done c hquiet hnone houtput =>
    obtain ⟨a, ha, hfails⟩ | ⟨fault, hfault⟩ := hwithheld
    · rw [hnone a ha] at hfails
      cases hfails
    · rw [reached, ← houtput] at hfault
      exact ⟨_, fun clause earlier => deliver_of_error c.output.2 c.messages _ hfault⟩

lemma Dispatched.exists_text (h : Dispatched result) (hgiven : ¬ Withheld (reached result).trace) :
    ∃ c text, result = .ok c ∧ c.output.1 = lastOutput c.run.trace ∧
      Utf8.decode c.output.1 = .ok text := by
  cases h with
  | halted hquiet hfailure => exact absurd (.inl hfailure) hgiven
  | @done c hquiet hnone houtput =>
    cases hdecode : Utf8.decode c.output.1 with
    | error fault => exact absurd (.inr ⟨fault, houtput ▸ hdecode⟩) hgiven
    | ok text => exact ⟨c, text, rfl, houtput, hdecode⟩

lemma Dispatched.quiet (h : Dispatched result) :
    ∀ a ∈ (reached result).trace, ¬ a.IsDelivery := by
  cases h with
  | halted hquiet | done hquiet => exact hquiet

end

/-- Redirecting the output of a pipeline to files changes nothing that is done before delivery.
Unless the output is withheld, in which case the redirection makes no difference at all, the text
that the plain run gives back goes to the files, byte for byte as the last stage wrote it. The
diagnostics of the files that could not be written come last, under a code of failure. Every file
that was written holds the output in the end; a device, which holds nothing of its own, takes it. -/
theorem output_redirection_moves (reg : Registry Handler) (spawner : Spawner) (calls : List Call)
    (hne : calls ≠ []) (targets : List Path) (hnull : ∀ target ∈ targets, target.hasNull = false)
    (r : Run) :
    let plain := Pipeline.ofCalls calls hne none
    let moved := Pipeline.ofCalls calls hne (some ⟨.output, targets⟩)
    let before := execute reg spawner plain r
    let after := execute reg spawner moved r
    ∃ actions delivery,
      actionsOf reg spawner plain r = .execute plain.stages :: actions ∧
      actionsOf reg spawner moved r = .execute moved.stages :: (actions ++ delivery) ∧
      (∀ a ∈ actions, ¬ a.IsDelivery) ∧ (∀ a ∈ delivery, a.IsDelivery) ∧
      (Withheld actions → delivery = [] ∧ after.1 = before.1 ∧ after.2.world = before.2.world) ∧
      (¬ Withheld actions → ∃ text diagnostics code attempts,
        lastOutput actions = text.toByteArray ∧
        before.1 = .finished ⟨text, diagnostics, code⟩ ∧
        after.1 = .finished ⟨"", diagnostics ++ unlines (attempts.filterMap Attempt.diagnostic?),
          if attempts.any (·.refusal.isSome) then 1 else code⟩ ∧
        attempts.map Attempt.target = targets ∧
        delivery = .deliver text.length targets :: attempts.map Attempt.action ∧
        Attempts .replace (lastOutput actions) before.2.world attempts after.2.world ∧
        ∀ a ∈ attempts, a.refusal = none →
          after.2.world.Holds a.target (lastOutput actions) ∨
            after.2.world.LeftUnfinished attempts a.target) := by
  intro plain moved before after
  obtain ⟨result, hresult, hrun⟩ := exists_dispatched reg spawner plain r.world r.started
  have hbefore : before = handOver none (behind (r.trace ++ [.execute plain.stages]) result) := by
    have hplain := hrun plain r.trace rfl (by simp [plain, Pipeline.clause_ofCalls])
    rwa [Pipeline.clause_ofCalls] at hplain
  have hafter : after =
      handOver (some ⟨.output, targets⟩) (behind (r.trace ++ [.execute moved.stages]) result) := by
    have hmoved := hrun moved r.trace (by rw [Pipeline.calls_ofCalls, Pipeline.calls_ofCalls])
      (by simp [moved, Pipeline.clause_ofCalls])
    rwa [Pipeline.clause_ofCalls] at hmoved
  have hactions {p : Pipeline} {actions : List Action} (htrace : (execute reg spawner p r).2.trace =
      r.trace ++ [.execute p.stages] ++ actions) :
      actionsOf reg spawner p r = .execute p.stages :: actions :=
    actionsOf_eq reg spawner (by simpa using htrace)
  by_cases hwithheld : Withheld (reached result).trace
  · obtain ⟨outcome, hsame⟩ := hresult.handOver_of_withheld hwithheld
    rw [hsame] at hbefore hafter
    refine ⟨_, [], hactions (congrArg (·.2.trace) hbefore), ?_, hresult.quiet, by simp,
      fun _ => ⟨rfl, by rw [hbefore, hafter], by rw [hbefore, hafter]; rfl⟩,
      fun hgiven => absurd hwithheld hgiven⟩
    rw [List.append_nil]
    exact hactions (congrArg (·.2.trace) hafter)
  · obtain ⟨c, text, rfl, houtput, hdecode⟩ := hresult.exists_text hwithheld
    obtain ⟨attempts, w, hattempts, htargets, hdeliver⟩ := deliver_attempts hdecode c.output.2
      hnull c.messages (c.run.behind (r.trace ++ [.execute moved.stages]))
    have hkept (r : Run) : deliver c.output.1 c.output.2 none c.messages r =
        (.finished ⟨text, unlines c.messages, c.output.2⟩, r) :=
      deliver_of_keeps c.output.2 c.messages r hdecode rfl
    replace hbefore := hbefore.trans (hkept _)
    replace hafter := hafter.trans hdeliver
    refine ⟨c.run.trace, .deliver text.length targets :: attempts.map Attempt.action,
      hactions (congrArg (·.2.trace) hbefore), hactions ?_, hresult.quiet, ?_,
      fun h => absurd h hwithheld, fun _ => ?_⟩
    · rw [← List.append_assoc]
      exact congrArg (·.2.trace) hafter
    · intro a ha
      obtain rfl | ha := List.mem_cons.1 ha
      · exact .deliver _ _
      · obtain ⟨attempt, -, rfl⟩ := List.mem_map.1 ha
        exact .openTarget _ _
    · have hstart : before.2.world = c.run.world := congrArg (·.2.world) hbefore
      have hworld : after.2.world = w := congrArg (·.2.world) hafter
      rw [← houtput, hworld, hstart]
      refine ⟨text, unlines c.messages, c.output.2, attempts,
        (Utf8.toByteArray_of_decode hdecode).symm, congrArg Prod.fst hbefore,
        congrArg Prod.fst hafter, htargets, rfl, hattempts, hattempts.holds⟩

/-- A program alone whose output goes to a new file, with the line ending that it wrote. -/
theorem output_redirection_moves_of_echo :
    let target : Path := ⟨.here, ["f"]⟩
    let output := "hi\r\n".toByteArray
    let reg : Registry Handler := ⟨[], [], []⟩
    let spawner : Spawner := fun _ _ w => (.ok (.writing output false 0), w)
    let moved := Pipeline.ofCalls [("echo", ["hi"])] (by decide) (some ⟨.output, [target]⟩)
    let r := Run.begin (.ofEntries [])
    target.hasNull = false ∧
      (execute reg spawner moved r).1 = .finished ⟨"", "", 0⟩ ∧
      ∃ l data, (execute reg spawner moved r).2.world.locate target = .ok (.file l data) ∧
        data.bytes = output := by
  intro target output reg spawner moved r
  have hnull : target.hasNull = false := by simp [target, Path.hasNull]
  have hlocate : r.world.locate target = .ok (.free ["f"]) := by
    rw [World.locate, World.locateFrom, if_neg (by decide)]
    rfl
  obtain ⟨actions, delivery, hplain, -, -, -, -, hmoves⟩ :=
    output_redirection_moves reg spawner [("echo", ["hi"])] (by decide) [target]
      (by simpa using hnull) r
  have hdecode : Utf8.decode output = .ok "hi\r\n" := Utf8.decode_toByteArray _
  have hrun : execute reg spawner (.ofCalls [("echo", ["hi"])] (by decide) none) r =
      (.finished ⟨"hi\r\n", "", 0⟩, ⟨r.world, 1,
        [.execute [⟨"echo", ["hi"], none⟩], .spawn ["echo", "hi"] .inherited (some 0),
          .started 0 (.writing output false 0), .communicate 0 none]⟩) := by
    have hclause : ∀ c ∈ (Stage.ofCall ("echo", ["hi"])).clause, c.op ≠ .input := by
      simp [Stage.ofCall]
    have hkeeps : takesOutput none = false := rfl
    refine (runSingle_of_spawn reg spawner hclause rfl rfl).trans ?_
    exact (collect_of_some none none _ rfl).trans (deliver_of_keeps 0 [] _ hdecode hkeeps)
  have hactions : actions = [.spawn ["echo", "hi"] .inherited (some 0),
      .started 0 (.writing output false 0), .communicate 0 none] := by
    rw [actionsOf, hrun] at hplain
    exact (List.cons.inj hplain).2.symm
  have hlast : lastOutput actions = output := by
    rw [hactions]
    rfl
  have hgiven : ¬ Withheld actions := by
    rintro (⟨a, ha, hfails⟩ | ⟨fault, hfault⟩)
    · rw [hactions] at ha
      revert a
      decide
    · rw [hlast, hdecode] at hfault
      cases hfault
  have hwrite : r.world.write .replace target output =
      (.ok (), { r.world with
        files := r.world.files.create ["f"] output r.world.fileMode }) := by
    rw [World.write, World.openToWrite_of_sink hnull hlocate rfl]
    rfl
  obtain ⟨text, diagnostics, code, attempts, -, hbefore, hafter, htargets, -, hattempts, hholds⟩ :=
    hmoves hgiven
  rw [hrun, hlast] at hattempts
  rw [hrun] at hbefore
  cases hbefore
  obtain ⟨rfl, hworld⟩ := hattempts.unique (.written hwrite (.nil _)) htargets
  refine ⟨hnull, hafter, ?_⟩
  obtain (hfile | ⟨l, d, hdevice⟩) | ⟨b, hb, -, hrefused, -⟩ :=
    hholds _ List.mem_cons_self rfl
  · exact hlast ▸ hfile
  · rw [hworld, World.locate, World.locateFrom, if_neg (by decide)] at hdevice
    cases hdevice
  · obtain rfl := List.mem_singleton.1 hb
    cases hrefused

/-- A device takes what is written to it and holds nothing of it. -/
theorem output_redirection_drained : ¬ ∀ (reg : Registry Handler) (spawner : Spawner)
    (calls : List Call) (hne : calls ≠ []) (targets : List Path) (r : Run),
    (∀ target ∈ targets, target.hasNull = false) →
    let moved := Pipeline.ofCalls calls hne (some ⟨.output, targets⟩)
    (execute reg spawner moved r).1 = .finished ⟨"", "", 0⟩ →
    ∀ target, .openTarget target true ∈ actionsOf reg spawner moved r →
      (execute reg spawner moved r).2.world.read target =
        .ok (lastOutput (actionsOf reg spawner moved r)) := by
  intro hholds
  let null : Path := ⟨.root, ["dev", "null"]⟩
  let output := "hi\n".toByteArray
  let reg : Registry Handler := ⟨[], [], []⟩
  let spawner : Spawner := fun _ _ w => (.ok (.writing output false 0), w)
  let moved := Pipeline.ofCalls [("echo", ["hi"])] (by decide) (some ⟨.output, [null]⟩)
  let r := Run.begin (.ofEntries [(["dev"], .usualFolder), (["dev", "null"], .device .null)])
  have hnull : null.hasNull = false := by simp [null, Path.hasNull]
  have hnulls : ∀ target ∈ [null], target.hasNull = false := by simpa using hnull
  have hlocate : r.world.locate null = .ok (.device ["dev", "null"] .null) := by
    rw [World.locate, World.locateFrom, if_neg (by decide)]
    rfl
  have hwrite : r.world.write .replace null output = (.ok (), r.world) := by
    rw [World.write, World.openToWrite_of_sink hnull hlocate rfl]
    rfl
  have hread : r.world.read null = .ok .empty := by
    rw [World.read, hnull, hlocate]
    rfl
  have hdecode : Utf8.decode output = .ok "hi\n" := Utf8.decode_toByteArray _
  have hrun : execute reg spawner moved r = (.finished ⟨"", "", 0⟩, ⟨r.world, 1,
      [.execute moved.stages, .spawn ["echo", "hi"] .inherited (some 0),
        .started 0 (.writing output false 0), .communicate 0 none, .deliver 3 [null],
        .openTarget null true]⟩) := by
    let stage : Stage := ⟨"echo", ["hi"], some ⟨.output, [null]⟩⟩
    have hclause : ∀ c ∈ stage.clause, c.op ≠ .input := by simp [stage]
    refine (runSingle_of_spawn reg spawner hclause rfl rfl).trans ?_
    refine (collect_of_some none stage.clause _ rfl).trans ?_
    obtain ⟨attempts, w, hattempts, htargets, hdeliver⟩ := deliver_attempts hdecode 0
      hnulls [] ⟨r.world, 1, [.execute moved.stages, .spawn ["echo", "hi"]
        .inherited (some 0), .started 0 (.writing output false 0), .communicate 0 none]⟩
    obtain ⟨rfl, rfl⟩ := hattempts.unique (.written hwrite (.nil _)) htargets
    exact hdeliver
  have hactions := actionsOf_eq reg spawner (congrArg (·.2.trace) hrun)
  have hlost := hholds reg spawner [("echo", ["hi"])] (by decide) [null] r hnulls
    (congrArg Prod.fst hrun) null (by rw [hactions]; simp)
  rw [hactions, hrun, hread] at hlost
  exact absurd (Except.ok.inj hlost) (by decide)

end CommandShell
