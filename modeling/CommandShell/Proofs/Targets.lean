import CommandShell.Proofs.Endings

/-!
# When targets are opened

A file is opened for writing only in delivery, which comes last and only if the run has completed
and its output is a text. So a run that stops leaves the files as its programs and builtins have
left them, and a program that reads one of the targets finds in it what was there before.
-/
namespace CommandShell
open Text

/-! ## Delivery -/

/-- A target that is opened is one of a clause that takes the output as a text. -/
lemma Delivery.of_openTarget {raw : ByteArray} {clause : Option Clause} {delivery : List Action}
    (h : Delivery raw clause delivery) {path : Path} {opened : Bool}
    (hopen : .openTarget path opened ∈ delivery) :
    (∃ c ∈ clause, c.op ≠ .input ∧ path ∈ c.targets) ∧ ∃ text, Utf8.decode raw = .ok text := by
  cases h with
  | kept => cases hopen
  | @written c text opens hclause hop hdecode hopens =>
    obtain ⟨target, htarget, _, ⟨⟩⟩ := hopens _ (by simpa using hopen)
    exact ⟨⟨c, hclause, hop, htarget⟩, text, hdecode⟩

/-! ## Runs -/

lemma split_behind {first later before after : List Action} {a : Action}
    (h : first ++ later = before ++ a :: after) (ha : a ∉ first) :
    ∃ between, before = first ++ between ∧ later = between ++ a :: after := by
  obtain ⟨between, hbefore, hlater⟩ | ⟨between, hfirst, hlater⟩ := List.append_eq_append_iff.1 h
  · exact ⟨between, hbefore, hlater⟩
  · cases between with
    | nil => exact ⟨[], by simpa using hfirst.symm, by simpa using hlater.symm⟩
    | cons b between =>
      obtain ⟨rfl, -⟩ := List.cons.inj hlater
      exact absurd (by simp [hfirst]) ha

/-- What a run does: first nothing but dispatch and handling, then delivery, which is none unless
the run has completed. -/
lemma Ending.parts {reg : Registry Handler} {spawner : Spawner} {stages : List Stage}
    {clause : Option Clause} {r : Run} {ended : Outcome × Run}
    (h : Ending reg spawner stages clause r ended) :
    ∃ before delivery w, ended.2.trace = r.trace ++ (before ++ delivery) ∧
      Leads reg spawner r.world before w ∧
      Delivery (lastOutput before) clause delivery ∧
      (delivery ≠ [] → Completed reg stages before) ∧
      ((∀ target, .openTarget target true ∉ delivery) → ended.2.world = w) := by
  cases h with
  | @stopped actions _ _ htrace hleads hleaves =>
    exact ⟨actions, [], _, by simpa using htrace, hleads, .kept, by simp, fun _ => rfl⟩
  | @delivered before code messages r' htrace hleads hcompleted =>
    obtain ⟨delivery, hdelivered, hdelivery, -, hworld⟩ :=
      deliver_spec (lastOutput before) clause code messages r'
    refine ⟨before, delivery, _, ?_, hleads, hdelivery, fun _ => hcompleted, hworld⟩
    rw [hdelivered, htrace, List.append_assoc]

section
variable (reg : Registry Handler) (spawner : Spawner) (p : Pipeline) (r : Run)

lemma execute_parts :
    ∃ before delivery w, actionsOf reg spawner p r = before ++ delivery ∧
      Leads reg spawner r.world before w ∧
      Delivery (lastOutput before) p.clause delivery ∧
      (delivery ≠ [] → Completed reg p.stages before) ∧
      ((∀ target, .openTarget target true ∉ delivery) →
        (execute reg spawner p r).2.world = w) := by
  obtain ⟨before, delivery, w, htrace, hleads, hdelivery, hcompleted, hworld⟩ :=
    (execute_ending reg spawner p r).parts
  have hfirst : HandlesWithoutFailure [.execute p.stages] := by
    simp [HandlesWithoutFailure, Action.isHandling, Action.isFailure]
  have hall : Leads reg spawner r.world ([.execute p.stages] ++ before) w :=
    (Leads.of_handling hfirst.isHandling).append hleads
  rw [Run.log_trace, List.append_assoc, ← List.append_assoc [Action.execute p.stages]] at htrace
  refine ⟨_, delivery, w, actionsOf_eq reg spawner htrace, hall, hdelivery, fun hne => ?_, hworld⟩
  exact (Completed.of_neither hfirst.neither).append (hcompleted hne)

variable {reg spawner p r}

/-- All along a run, programs and builtins answer for the world as the ones before have left it. -/
lemma execute_answered {before after : List Action} {a : Action}
    (h : actionsOf reg spawner p r = before ++ a :: after) :
    Answered reg spawner (worldLeft reg spawner r.world before) a after := by
  obtain ⟨first, delivery, w, hactions, hleads, hdelivery, -, -⟩ := execute_parts reg spawner p r
  have hthroughout := hleads.answered.append Answered.append
    (.of_forall fun a ha _ later => .of_idle (hdelivery.isDelivery a ha).isSending later)
  rw [← hactions, h] at hthroughout
  exact hthroughout.at_split

variable (reg spawner p r)

/-- Targets are opened last: only those of a clause that takes the output, after every stage has
been sent off, every program has been waited for and the output has been read as a text, and nothing
but delivery comes after. A run with a failure or without a text opens none. Unless a target has
been opened, the world is left as programs and builtins leave it, and all of them answer for the
world as the ones before have left it. -/
theorem targets_opened_last :
    (∀ before path opened after,
      actionsOf reg spawner p r = before ++ .openTarget path opened :: after →
      (∃ c ∈ p.clause, c.op ≠ .input ∧ path ∈ c.targets) ∧ Completed reg p.stages before ∧
      (∃ text, Utf8.decode (lastOutput before) = .ok text) ∧ ∀ a ∈ after, a.IsDelivery) ∧
    (((∃ a ∈ actionsOf reg spawner p r, a.isFailure = true) ∨
        ∃ fault, Utf8.decode (lastOutput (actionsOf reg spawner p r)) = .error fault) →
      ∀ path opened, .openTarget path opened ∉ actionsOf reg spawner p r) ∧
    ((∀ path, .openTarget path true ∉ actionsOf reg spawner p r) →
      (execute reg spawner p r).2.world =
        worldLeft reg spawner r.world (actionsOf reg spawner p r)) ∧
    ∀ before a after, actionsOf reg spawner p r = before ++ a :: after →
      Answered reg spawner (worldLeft reg spawner r.world before) a after := by
  obtain ⟨first, delivery, w, hactions, hleads, hdelivery, hcompleted, hworld⟩ :=
    execute_parts reg spawner p r
  have hlater := hdelivery.isDelivery
  have hquiet (path : Path) (opened : Bool) : .openTarget path opened ∉ first :=
    fun hmem => hleads.quiet _ hmem (.openTarget path opened)
  have hlast {more : List Action} (hmore : ∀ a ∈ more, a.IsDelivery) :
      lastOutput (first ++ more) = lastOutput first :=
    lastOutput_append_of_idle (neither_of_delivery hmore).isSending first
  rw [hactions]
  refine ⟨fun before path opened after hsplit => ?_, fun hfailure path opened hmem => ?_,
    fun hnone => ?_, fun before a after hsplit => ?_⟩
  · obtain ⟨between, rfl, rfl⟩ := split_behind hsplit (hquiet path opened)
    have hbetween : ∀ a ∈ between, a.IsDelivery := fun a ha =>
      hlater a (List.mem_append_left _ ha)
    have hmem : .openTarget path opened ∈ between ++ .openTarget path opened :: after := by simp
    obtain ⟨hclause, htext⟩ := hdelivery.of_openTarget hmem
    refine ⟨hclause, (hcompleted (by simp)).append_neither (neither_of_delivery hbetween),
      hlast hbetween ▸ htext, fun a ha => hlater a ?_⟩
    exact List.mem_append_right _ (List.mem_cons_of_mem _ ha)
  · have hmem := (List.mem_append.1 hmem).resolve_left (hquiet path opened)
    obtain ⟨a, ha, hfails⟩ | ⟨fault, hfault⟩ := hfailure
    · have hcomplete :=
        (hcompleted (List.ne_nil_of_mem hmem)).append_neither (neither_of_delivery hlater)
      rw [hcomplete.faultless a ha] at hfails
      cases hfails
    · obtain ⟨-, text, htext⟩ := hdelivery.of_openTarget hmem
      rw [hlast hlater, htext] at hfault
      cases hfault
  · rw [worldLeft_append, worldLeft_of_idle (neither_of_delivery hlater).isSending, ← hleads.world]
    exact hworld fun target ht => hnone target (List.mem_append_right _ ht)
  · exact execute_answered (hactions.trans hsplit)

end

/-- A program that reads the file to which its output goes still finds in it what was there. -/
theorem targets_opened_last_of_reader :
    let target : Path := ⟨.here, ["f"]⟩
    let old := "old".toByteArray
    let reg : Registry Handler := ⟨[], [], []⟩
    let spawner : Spawner := fun _ _ w => (.ok ⟨(w.read target).toOption, true, false, 0⟩, w)
    let p : Pipeline := ⟨[⟨"cat", ["f"], some ⟨.output, [target]⟩⟩], by decide⟩
    let r := Run.begin (.ofEntries [(["f"], .file ⟨old, Entry.fileMode, 0⟩)])
    let before := [.execute p.stages, .spawn ["cat", "f"] .inherited (some 0),
      .started 0 (.writing old false 0), .communicate 0 none, .deliver 3 [target]]
    actionsOf reg spawner p r = before ++ [.openTarget target true] ∧
      Completed reg p.stages before ∧ ∃ text, Utf8.decode (lastOutput before) = .ok text := by
  intro target old reg spawner p r before
  have hnull : target.hasNull = false := by simp [target, Path.hasNull]
  have hlocate : r.world.locate target = .ok (.file ["f"] ⟨old, Entry.fileMode, 0⟩) := by
    rw [World.locate, World.locateFrom, if_neg (by decide)]
    rfl
  have hread : r.world.read target = .ok old := by
    rw [World.read, hnull, hlocate]
    rfl
  have hactions : actionsOf reg spawner p r = before ++ [.openTarget target true] := by
    have hdecode : Utf8.decode old = .ok "old" := Utf8.decode_toByteArray "old"
    have hargv : reg.argv "cat" ["f"] = ["cat", "f"] := rfl
    obtain ⟨w, hwrite⟩ : ∃ w, r.world.write .replace target "old".toByteArray = (.ok (), w) :=
      ⟨_, by rw [World.write, World.openToWrite_of_sink hnull hlocate rfl]; rfl⟩
    have hstart : r.started = 0 ∧ r.trace = [] := ⟨rfl, rfl⟩
    simp [actionsOf, execute, runSingle, runProgram, p, singleInput, Registry.builtin?, reg,
      Run.spawn, spawner, hread, hargv, Except.toOption, collect, Process.collected, deliver,
      hdecode, Clause.writeTargets, writeAll, Clause.mode, hwrite, World.opens_of_write hwrite,
      Run.log, hstart, Stdin.feed, before, Process.writing]
    rfl
  obtain ⟨-, hcompleted, htext, -⟩ :=
    (targets_opened_last reg spawner p r).1 before target true [] hactions
  exact ⟨hactions, hcompleted, htext⟩

end CommandShell
