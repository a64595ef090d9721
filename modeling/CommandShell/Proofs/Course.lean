import CommandShell.Proofs.Attempts
import CommandShell.Proofs.Dispatch

/-!
# The course of a run

Running a pipeline only adds to the trace. A chain looks at its source first if a builtin would
ignore it, dispatches its stages, reaps its programs and delivers what the last of them wrote;
`ChainCourse` says so, with the actions of each part, and where each of the parts can be the last.
`SingleCourse` says the same of a stage alone, and `Course` of any pipeline.
-/
namespace CommandShell
open Text

section
variable (reg : Registry Handler) (spawner : Spawner)

/-- What running a pipeline does, action by action. -/
def actionsOf (p : Pipeline) (r : Run) : List Action :=
  (execute reg spawner p r).2.trace.drop r.trace.length

lemma actionsOf_eq {p : Pipeline} {r : Run} {actions : List Action}
    (h : (execute reg spawner p r).2.trace = r.trace ++ actions) :
    actionsOf reg spawner p r = actions := by
  rw [actionsOf, h, List.drop_left]

end

/-! ## Delivery -/

/-- Nothing but the delivery of output to targets. -/
inductive Action.IsDelivery : Action → Prop
  | deliver (length : Nat) (targets : List Path) : IsDelivery (.deliver length targets)
  | openTarget (path : Path) (opened : Bool) : IsDelivery (.openTarget path opened)

/-- Nothing but the opening of one of some targets. -/
def Action.OpensOneOf (targets : List Path) (a : Action) : Prop :=
  ∃ target ∈ targets, ∃ opened, a = .openTarget target opened

lemma Action.OpensOneOf.isDelivery {targets : List Path} {a : Action} (h : a.OpensOneOf targets) :
    a.IsDelivery := by
  obtain ⟨target, -, opened, rfl⟩ := h
  exact .openTarget target opened

lemma Writes.opens {mode : WriteMode} {bytes : ByteArray} {targets : List Path} {r : Run}
    {written : Except Escape (List String) × Run} (h : Writes mode bytes r targets written) :
    ∃ opens, written.2.trace = r.trace ++ opens ∧ (∀ a ∈ opens, a.OpensOneOf targets) ∧
      ((∀ target, .openTarget target true ∉ opens) → written.2.world = r.world) := by
  have hworld {attempts : List Attempt} {w : World} {opens : List Action}
      (hall : Attempts mode bytes r.world attempts w)
      (hopens : attempts.map Attempt.action ⊆ opens)
      (hnone : ∀ target, .openTarget target true ∉ opens) : w = r.world := by
    refine hall.eq_of_unopened fun a ha => ?_
    have hmem := hopens (List.mem_map_of_mem ha)
    cases hopened : a.opened with
    | false => rfl
    | true => exact absurd (by rwa [Attempt.action, hopened] at hmem) (hnone a.target)
  cases h with
  | @all attempts w hall =>
    refine ⟨_, rfl, fun a ha => ?_, hworld hall (List.Subset.refl _)⟩
    obtain ⟨attempt, hattempt, rfl⟩ := List.mem_map.1 ha
    exact ⟨_, List.mem_map_of_mem hattempt, _, rfl⟩
  | @cut attempts w target hall hnull back =>
    refine ⟨_, rfl, fun a ha => ?_, hworld hall (List.subset_append_left _ _)⟩
    obtain ha | ha := List.mem_append.1 ha
    · obtain ⟨attempt, hattempt, rfl⟩ := List.mem_map.1 ha
      exact ⟨_, List.mem_append_left _ (List.mem_map_of_mem hattempt), _, rfl⟩
    · exact ⟨target, by simp, false, List.mem_singleton.1 ha⟩

/-- Whether a clause takes the output, so that its targets are opened. -/
def takesOutput : Option Clause → Bool
  | none => false
  | some c => c.op ≠ .input

/-- The text and the exit code that are handed over. Output that is no text counts for nothing, and
so does output that goes to the targets of a clause. -/
def handedOver (came : ByteArray × Int) (clause : Option Clause) (refused : Bool) :
    String × Int :=
  match Utf8.decode came.1 with
  | .error _ => ("", streamFailed)
  | .ok text => if takesOutput clause then ("", if refused then streamFailed else came.2)
    else (text, came.2)

/-- How output is written under a clause that takes it. -/
def writeModeOf : Option Clause → WriteMode
  | none => .replace
  | some c => c.mode

/-- The targets that output is written to: those of a clause that takes it, if it is a text. -/
def takingTargets (raw : ByteArray) : Option Clause → List Path
  | none => []
  | some c => if c.op ≠ .input ∧ (Utf8.decode raw).isOk then c.targets else []

section
variable {raw : ByteArray} {text : String} {clause : Option Clause} {c : Clause}

lemma takingTargets_of_error {fault : Utf8.Fault} (h : Utf8.decode raw = .error fault) :
    takingTargets raw clause = [] := by
  cases clause <;> simp [takingTargets, h, Except.isOk, Except.toBool]

lemma takingTargets_of_keeps (hkeeps : takesOutput clause = false) :
    takingTargets raw clause = [] := by
  cases clause with
  | none => rfl
  | some c => simp_all [takingTargets, takesOutput]

lemma takingTargets_of_takes (h : Utf8.decode raw = .ok text) (hop : c.op ≠ .input) :
    takingTargets raw (some c) = c.targets := by
  simp [takingTargets, hop, h, Except.isOk, Except.toBool]

end

/-- Where some output is meant to go: nowhere as it is no text, back to the caller, or to the
targets of a clause. -/
inductive Destined (raw : ByteArray) : Option Clause → Prop
  | nowhere {clause : Option Clause} {fault : Utf8.Fault}
      (hdecode : Utf8.decode raw = .error fault) : Destined raw clause
  | back {clause : Option Clause} {text : String} (hdecode : Utf8.decode raw = .ok text)
      (hkeeps : takesOutput clause = false) : Destined raw clause
  | targets {c : Clause} {text : String} (hdecode : Utf8.decode raw = .ok text)
      (hop : c.op ≠ .input) : Destined raw (some c)

lemma destined (raw : ByteArray) (clause : Option Clause) : Destined raw clause := by
  cases hdecode : Utf8.decode raw with
  | error fault => exact .nowhere hdecode
  | ok text =>
    cases clause with
    | none => exact .back hdecode rfl
    | some c =>
      by_cases hop : c.op = .input
      · exact .back hdecode (by simp [takesOutput, hop])
      · exact .targets hdecode hop

/-- What delivering some output does: nothing, or it opens the targets of a clause that takes the
output as a text. -/
inductive Delivery (raw : ByteArray) (clause : Option Clause) : List Action → Prop
  | kept : Delivery raw clause []
  | written {c : Clause} {text : String} {opens : List Action} (hclause : c ∈ clause)
      (hop : c.op ≠ .input) (hdecode : Utf8.decode raw = .ok text)
      (hopens : ∀ a ∈ opens, a.OpensOneOf c.targets) :
      Delivery raw clause (.deliver text.length c.targets :: opens)

lemma Delivery.isDelivery {raw : ByteArray} {clause : Option Clause} {delivery : List Action}
    (h : Delivery raw clause delivery) : ∀ a ∈ delivery, a.IsDelivery := by
  cases h with
  | kept => simp
  | written hclause hop hdecode hopens =>
    intro a ha
    obtain rfl | ha := List.mem_cons.1 ha
    · exact .deliver _ _
    · exact (hopens a ha).isDelivery

/-- What delivery gives: the text and the code that it should, once the targets have been tried, or
it leaves over a target whose path no host takes. -/
def HandsOver (came : ByteArray × Int) (clause : Option Clause) (w : World) :
    Outcome × Run → Prop
  | (.finished result, r) => ∃ attempts,
      Attempts (writeModeOf clause) came.1 w attempts r.world ∧
      attempts.map Attempt.target = takingTargets came.1 clause ∧
      (result.stdout, result.exitCode) =
        handedOver came clause (attempts.any (·.refusal.isSome))
  | (.left e, _) => e = .nullCharacter ∧
      ∃ c ∈ clause, c.op ≠ .input ∧ ∃ target ∈ c.targets, target.hasNull = true

lemma HandsOver.left {came : ByteArray × Int} {clause : Option Clause} {w : World}
    {ended : Outcome × Run} {e : Escape} (h : HandsOver came clause w ended)
    (hleft : ended.1 = .left e) : e = .nullCharacter ∧
      ∃ c ∈ clause, c.op ≠ .input ∧ ∃ target ∈ c.targets, target.hasNull = true := by
  obtain ⟨outcome, r⟩ := ended
  obtain rfl : outcome = .left e := hleft
  exact h

section
variable {raw : ByteArray} {text : String} {clause : Option Clause} {c : Clause} (code : Int)
  (messages : List String) (r : Run)

lemma deliver_of_error {fault : Utf8.Fault} (h : Utf8.decode raw = .error fault) :
    deliver raw code clause messages r =
      (.aborted (messages ++ [undecodable fault]) streamFailed, r) := by
  simp only [deliver, h]

lemma deliver_of_keeps (h : Utf8.decode raw = .ok text) (hkeeps : takesOutput clause = false) :
    deliver raw code clause messages r = (.finished ⟨text, unlines messages, code⟩, r) := by
  cases clause with
  | none => simp only [deliver, h]
  | some c =>
    have hop : c.op = .input := by simpa [takesOutput] using hkeeps
    simp only [deliver, h, if_pos hop]

/-- The outcome when the targets have been tried. -/
def writtenOutcome (code : Int) (messages : List String) : Except Escape (List String) → Outcome
  | .error e => .left e
  | .ok [] => .finished ⟨"", unlines messages, code⟩
  | .ok failures => .aborted (messages ++ failures) streamFailed

lemma deliver_of_takes (h : Utf8.decode raw = .ok text) (hop : c.op ≠ .input) :
    deliver raw code (some c) messages r =
      let written := c.writeTargets text (r.log (.deliver text.length c.targets))
      (writtenOutcome code messages written.1, written.2) := by
  simp only [deliver, h, if_neg hop]
  obtain ⟨failed, r'⟩ := c.writeTargets text (r.log (.deliver text.length c.targets))
  cases failed with
  | error e => rfl
  | ok failures => cases failures <;> rfl

lemma writtenOutcome_attempts (attempts : List Attempt) :
    writtenOutcome code messages (.ok (attempts.filterMap Attempt.diagnostic?)) =
      .finished ⟨"", unlines messages ++ unlines (attempts.filterMap Attempt.diagnostic?),
        if attempts.any (·.refusal.isSome) then streamFailed else code⟩ := by
  have hall : attempts.filterMap Attempt.diagnostic? = [] ↔
      attempts.any (·.refusal.isSome) = false := by
    simp [List.filterMap_eq_nil_iff, Attempt.diagnostic?]
  rw [← unlines_append]
  by_cases hnone : attempts.filterMap Attempt.diagnostic? = []
  · simp [writtenOutcome, hnone, hall.1 hnone]
  · rw [if_pos (Bool.of_not_eq_false (mt hall.2 hnone))]
    obtain ⟨failure, failures, hfailures⟩ := List.exists_cons_of_ne_nil hnone
    rw [hfailures]
    rfl

/-- Delivery to targets gives a result unless one of them is no host's. -/
lemma handsOver_of_takes (hdecode : Utf8.decode raw = .ok text) (hop : c.op ≠ .input) :
    HandsOver (raw, code) (some c) r.world (deliver raw code (some c) messages r) := by
  have htakes : takesOutput (some c) = true := by simpa [takesOutput] using hop
  have hwrites := writeAll_writes c.mode raw c.targets (r.log (.deliver text.length c.targets))
  rw [deliver_of_takes code messages r hdecode hop, Clause.writeTargets,
    Utf8.toByteArray_of_decode hdecode]
  generalize hwritten : writeAll c.mode raw c.targets
    (r.log (.deliver text.length c.targets)) = written at hwrites
  generalize htargets : c.targets = targets at hwrites
  cases hwrites with
  | @all attempts w h =>
    simp only [writtenOutcome_attempts]
    refine ⟨attempts, h, ?_, ?_⟩
    · rw [takingTargets_of_takes hdecode hop, htargets]
    · simp [handedOver, hdecode, htakes]
  | @cut attempts w target h hnull back =>
    exact ⟨rfl, c, rfl, hop, target, by simp [htargets], hnull⟩

variable (raw clause)

/-- Delivery hands over what it should and leaves no trace but its own. Unless a target has been
opened it changes nothing. -/
theorem deliver_spec :
    ∃ delivery, (deliver raw code clause messages r).2.trace = r.trace ++ delivery ∧
      Delivery raw clause delivery ∧
      HandsOver (raw, code) clause r.world (deliver raw code clause messages r) ∧
      ((∀ target, .openTarget target true ∉ delivery) →
        (deliver raw code clause messages r).2.world = r.world) := by
  cases destined raw clause with
  | nowhere hdecode =>
    rw [deliver_of_error code messages r hdecode]
    exact ⟨[], by simp, .kept,
      ⟨[], .nil _, (takingTargets_of_error hdecode).symm, by simp [handedOver, hdecode]⟩,
      fun _ => rfl⟩
  | back hdecode hkeeps =>
    rw [deliver_of_keeps code messages r hdecode hkeeps]
    exact ⟨[], by simp, .kept,
      ⟨[], .nil _, (takingTargets_of_keeps hkeeps).symm, by simp [handedOver, hdecode, hkeeps]⟩,
      fun _ => rfl⟩
  | @targets c text hdecode hop =>
    have hhands := handsOver_of_takes code messages r hdecode hop
    obtain ⟨opens, htrace, hopens, hworld⟩ := (writeAll_writes c.mode text.toByteArray
      c.targets (r.log (.deliver text.length c.targets))).opens
    refine ⟨.deliver text.length c.targets :: opens, ?_, .written rfl hop hdecode hopens,
      hhands, ?_⟩
    · rw [deliver_of_takes code messages r hdecode hop]
      simp [Clause.writeTargets, htrace]
    · intro hnone
      rw [deliver_of_takes code messages r hdecode hop]
      exact hworld fun target ht => hnone target (List.mem_cons_of_mem _ ht)

end

/-! ## A program alone -/

/-- What has been collected of a program is what it has written. -/
lemma Process.collected_eq_some {process : Process} {raw : ByteArray}
    (h : process.collected = some raw) : raw = process.output.getD .empty := by
  obtain ⟨output, collects, hasInput, status⟩ := process
  cases output with
  | some bytes => exact (Option.some.inj h).symm
  | none =>
    cases collects with
    | true => exact (Option.some.inj h).symm
    | false => cases h

section
variable {number : Nat} {process : Process} {raw : ByteArray} (feed : Option Nat)
  (clause : Option Clause) (r : Run)

lemma collect_of_some (h : process.collected = some raw) :
    collect number process feed clause r =
      deliver (process.output.getD .empty) process.status clause []
        (r.log (.communicate number feed)) := by
  simp only [collect, h]
  rw [Process.collected_eq_some h]

lemma collect_of_none (h : process.collected = none) :
    collect number process feed clause r =
      (.left .outputMissing, r.logAll [.communicate number feed, .uncollected number]) := by
  simp [collect, h, Run.log, Run.logAll]

variable (number process)

/-- A program that has been started alone is fed and read before anything else is done. -/
lemma collect_trace : ∃ later, (collect number process feed clause r).2.trace =
    r.trace ++ .communicate number feed :: later := by
  cases hcollected : process.collected with
  | none =>
    rw [collect_of_none feed clause r hcollected]
    exact ⟨_, rfl⟩
  | some raw =>
    obtain ⟨delivery, hdelivered, -⟩ := deliver_spec (process.output.getD .empty) clause
      process.status [] (r.log (.communicate number feed))
    refine ⟨delivery, ?_⟩
    rw [collect_of_some feed clause r hcollected, hdelivered, Run.log_trace, List.append_assoc]
    rfl

end

/-! ## Reaping -/

namespace Chain

/-- What a chain has come to: what its last stage wrote, and the code under which it ended. -/
def output (c : Chain) : ByteArray × Int :=
  match c.previous with
  | none => (.empty, 0)
  | some (_, process) => (process.output.getD .empty, process.status)

/-- What is done about the last stage of a chain after it, if that is a program. -/
def draining (c : Chain) : List Action :=
  match c.previous with
  | none => []
  | some (number, ⟨none, _, _, _⟩) => [.wait number]
  | some (number, ⟨some _, _, _, _⟩) => [.readStdout number, .closeStdout number, .wait number]

/-- The programs that are waited for after the last one. -/
def waited (c : Chain) : List Nat :=
  match c.previous with
  | none => c.started
  | some (number, _) => c.started.filter (· ≠ number)

/-- What is done about the programs of a chain after its last stage. -/
def reaping (c : Chain) : List Action := c.draining ++ c.waited.map .wait

lemma finish_eq (c : Chain) (clause : Option Clause) :
    c.finish clause =
      deliver c.output.1 c.output.2 clause c.messages (c.run.logAll c.reaping) := by
  obtain ⟨r, messages, started, previous⟩ := c
  obtain _ | ⟨number, _ | bytes, collects, hasInput, status⟩ := previous
  · rfl
  · simp [finish, output, reaping, draining, waited, drain, Run.log, Run.logAll]
  · simp [finish, output, reaping, draining, waited, drain, Run.logAll]

lemma finish_trace (c : Chain) (clause : Option Clause) :
    ∃ delivery, (c.finish clause).2.trace = (c.run.trace ++ c.reaping) ++ delivery ∧
      ∀ a ∈ delivery, a.IsDelivery := by
  obtain ⟨delivery, htrace, hdelivery, -⟩ :=
    deliver_spec c.output.1 clause c.output.2 c.messages (c.run.logAll c.reaping)
  rw [← finish_eq] at htrace
  exact ⟨delivery, htrace, hdelivery.isDelivery⟩

end Chain

/-! ## Chains from end to end -/

/-- Only an input clause has a source, and it is its first target. -/
lemma inputSource_eq_ok {clause : Option Clause} {source : Option Path}
    (h : inputSource clause = .ok source) :
    (∃ path more, source = some path ∧ clause = some ⟨.input, path :: more⟩) ∨
      (source = none ∧ ∀ c ∈ clause, c.op ≠ .input) := by
  match clause with
  | none =>
    cases h
    exact .inr ⟨rfl, by simp⟩
  | some ⟨op, targets⟩ =>
    by_cases hop : op = .input
    · subst hop
      match targets with
      | [] => cases h
      | path :: more =>
        cases h
        exact .inl ⟨path, more, rfl, rfl⟩
    · simp only [inputSource, if_neg hop] at h
      cases h
      exact .inr ⟨rfl, by simpa using hop⟩

section
variable (reg : Registry Handler) (spawner : Spawner)

/-- The look at the source in front of the first stage, with the diagnostics that come of it. -/
inductive Noticed (first : Stage) (w : World) :
    Option Path → List Action → List String → Prop
  | program (source : Option Path) (hprogram : reg.builtin? first.command = none) :
      Noticed first w source [] []
  | sourceless {handler : Handler} (hbuiltin : reg.builtin? first.command = some handler) :
      Noticed first w none [] []
  | ignored {handler : Handler} {source : Path} {bytes : ByteArray}
      (hbuiltin : reg.builtin? first.command = some handler)
      (hread : w.read source = .ok bytes) :
      Noticed first w (some source) [.openSource source true, .closeSource source]
        [ignoredInput source first.command]

/-- How a chain can go, with all that is done from its start to its end. -/
inductive ChainCourse (first : Stage) (rest : List Stage) (clause : Option Clause) (r : Run) :
    List Action → Outcome × Run → Prop
  | sourceless {e : Escape} (hsource : inputSource clause = .error e) :
      ChainCourse first rest clause r [] (.left e, r)
  | unreadable {handler : Handler} {source : Path} {e : Escape}
      (hsource : inputSource clause = .ok (some source))
      (hbuiltin : reg.builtin? first.command = some handler)
      (hread : r.world.read source = .error e) :
      ChainCourse first rest clause r [.openSource source false]
        ((sourceFault source e).outcome [], r.logAll [.openSource source false])
  | halted {source : Option Path} {opening actions : List Action} {notices : List String}
      {halted : Outcome × Run}
      (hsource : inputSource clause = .ok source)
      (hnoticed : Noticed reg first r.world source opening notices)
      (hsteps : Chain.Steps reg spawner ⟨r.logAll opening, notices, [], none⟩ source
        (first :: rest) actions (.error halted)) :
      ChainCourse first rest clause r (opening ++ actions) halted
  | finished {source : Option Path} {opening actions delivery : List Action}
      {notices : List String} {c : Chain}
      (hsource : inputSource clause = .ok source)
      (hnoticed : Noticed reg first r.world source opening notices)
      (hsteps : Chain.Steps reg spawner ⟨r.logAll opening, notices, [], none⟩ source
        (first :: rest) actions (.ok c))
      (hdelivery : ∀ a ∈ delivery, a.IsDelivery)
      (htrace : (c.finish clause).2.trace = (c.run.trace ++ c.reaping) ++ delivery) :
      ChainCourse first rest clause r (opening ++ actions ++ c.reaping ++ delivery)
        (c.finish clause)

variable {reg spawner} {first : Stage} {rest : List Stage} {clause : Option Clause} {r : Run}

/-- The end of a chain whose stages have been dispatched. -/
def Chain.conclude (clause : Option Clause) : Except (Outcome × Run) Chain → Outcome × Run
  | .error halted => halted
  | .ok c => c.finish clause

lemma runChain_of_noticed {source : Option Path} {opening : List Action} {notices : List String}
    (hsource : inputSource clause = .ok source)
    (hnoticed : Noticed reg first r.world source opening notices) :
    runChain reg spawner first rest clause r =
      Chain.conclude clause (Chain.steps reg spawner ⟨r.logAll opening, notices, [], none⟩ source
        (first :: rest)) := by
  have hfirst : noticeFirst reg first source r = (.ok notices, r.logAll opening) := by
    cases hnoticed with
    | program source hprogram => simp [noticeFirst, Registry.isBuiltin, hprogram, Run.logAll_nil]
    | sourceless hbuiltin =>
      simp [noticeFirst, Registry.isBuiltin, hbuiltin, noticeIgnored, Run.logAll_nil]
    | ignored hbuiltin hread =>
      simp [noticeFirst, Registry.isBuiltin, hbuiltin, noticeIgnored, checkIgnored,
        Run.readSource_of_ok hread]
  simp only [runChain, hsource, hfirst]
  rfl

variable (reg spawner first rest clause r)

/-- Every chain goes one of these ways. -/
theorem runChain_course :
    ∃ actions, ChainCourse reg spawner first rest clause r actions
      (runChain reg spawner first rest clause r) := by
  cases hsource : inputSource clause with
  | error e => exact ⟨[], by simpa only [runChain, hsource] using .sourceless hsource⟩
  | ok source =>
    have hcourse {opening : List Action} {notices : List String}
        (hnoticed : Noticed reg first r.world source opening notices) :
        ∃ actions, ChainCourse reg spawner first rest clause r actions
          (runChain reg spawner first rest clause r) := by
      obtain ⟨actions, hsteps⟩ := Chain.steps_spec reg spawner
        ⟨r.logAll opening, notices, [], none⟩ source (first :: rest)
      rw [runChain_of_noticed hsource hnoticed]
      revert hsteps
      generalize Chain.steps reg spawner _ source (first :: rest) = result
      intro hsteps
      cases result with
      | error halted => exact ⟨_, .halted hsource hnoticed hsteps⟩
      | ok c =>
        obtain ⟨delivery, htrace, hdelivery⟩ := c.finish_trace clause
        exact ⟨_, .finished hsource hnoticed hsteps hdelivery htrace⟩
    cases hbuiltin : reg.builtin? first.command with
    | none => exact hcourse (.program source hbuiltin)
    | some handler =>
      cases source with
      | none => exact hcourse (.sourceless hbuiltin)
      | some source =>
        cases hread : r.world.read source with
        | ok bytes => exact hcourse (.ignored hbuiltin hread)
        | error e =>
          refine ⟨[.openSource source false], ?_⟩
          simpa [runChain, hsource, noticeFirst, Registry.isBuiltin, hbuiltin, noticeIgnored,
            checkIgnored, Run.readSource_of_error hread] using
            ChainCourse.unreadable hsource hbuiltin hread

variable {reg spawner first rest clause r}

lemma ChainCourse.trace {actions : List Action} {ended : Outcome × Run}
    (h : ChainCourse reg spawner first rest clause r actions ended) :
    ended.2.trace = r.trace ++ actions := by
  cases h with
  | sourceless => simp
  | unreadable => rfl
  | halted hsource hnoticed hsteps => simpa [reached] using hsteps.trace
  | finished hsource hnoticed hsteps hdelivery htrace =>
    have hreached := hsteps.trace
    simp only [reached, Run.logAll_trace] at hreached
    simp [htrace, hreached]

end

/-! ## A stage alone from end to end -/

/-- What a program alone reads, with the look at the source that it takes. -/
inductive Fed (clause : Option Clause) (w : World) : Stdin → List Action → Prop
  | inherited (hsource : inputSource clause = .ok none) : Fed clause w .inherited []
  | source {path : Path} {bytes : ByteArray} (hsource : inputSource clause = .ok (some path))
      (hread : w.read path = .ok bytes) :
      Fed clause w (.fed bytes) [.openSource path true, .closeSource path]

/-- A program alone has its input, or it stops over its source. -/
lemma singleInput_cases (clause : Option Clause) (r : Run) :
    (∃ e, inputSource clause = .error e ∧ singleInput clause r = (.error (.left e), r)) ∨
      (∃ path e, inputSource clause = .ok (some path) ∧ r.world.read path = .error e ∧
        singleInput clause r = (.error (sourceFault path e), r.logAll [.openSource path false])) ∨
      ∃ stdin opening, Fed clause r.world stdin opening ∧
        singleInput clause r = (.ok stdin, r.logAll opening) := by
  match clause with
  | none => exact .inr (.inr ⟨_, _, .inherited rfl, by rw [Run.logAll_nil]; rfl⟩)
  | some ⟨op, targets⟩ =>
    by_cases hop : op = .input
    · subst hop
      cases targets with
      | nil => exact .inl ⟨_, rfl, rfl⟩
      | cons path more =>
        simp only [singleInput, Clause.readSource, Clause.source?, if_true]
        cases hread : r.world.read path with
        | error e =>
          simp only [Run.readSource_of_error hread]
          exact .inr (.inl ⟨path, e, rfl, hread, rfl⟩)
        | ok bytes =>
          simp only [Run.readSource_of_ok hread]
          exact .inr (.inr ⟨_, _, .source rfl hread, rfl⟩)
    · simp only [singleInput, if_neg hop]
      exact .inr (.inr ⟨_, _, .inherited (if_neg hop), by rw [Run.logAll_nil]⟩)

lemma noticeIgnored_noticed {reg : Registry Handler} {stage : Stage} {handler : Handler}
    (hbuiltin : reg.builtin? stage.command = some handler) (source : Option Path) (r : Run) :
    (∃ path e, source = some path ∧ r.world.read path = .error e ∧
      noticeIgnored source stage.command r =
        (.error (sourceFault path e), r.logAll [.openSource path false])) ∨
      ∃ opening notices, Noticed reg stage r.world source opening notices ∧
        noticeIgnored source stage.command r = (.ok notices, r.logAll opening) := by
  cases source with
  | none => exact .inr ⟨[], [], .sourceless hbuiltin, by rw [Run.logAll_nil]; rfl⟩
  | some path =>
    cases hread : r.world.read path with
    | ok bytes =>
      refine .inr ⟨_, _, .ignored hbuiltin hread, ?_⟩
      simp only [noticeIgnored, checkIgnored, Run.readSource_of_ok hread]
    | error e =>
      refine .inl ⟨path, e, rfl, hread, ?_⟩
      simp only [noticeIgnored, checkIgnored, Run.readSource_of_error hread]

section
variable (reg : Registry Handler) (spawner : Spawner)

/-- What a stage alone comes to, with all that is done until delivery: its output, the code under
which it ended and the diagnostics. -/
inductive ComesTo (stage : Stage) (r : Run) :
    List Action → ByteArray × Int → List String → Run → Prop
  | called {handler : Handler} {source : Option Path} {opening : List Action}
      {notices : List String} {ended : HandlerEnd} {w : World}
      (hsource : inputSource stage.clause = .ok source)
      (hnoticed : Noticed reg stage r.world source opening notices)
      (hbuiltin : reg.builtin? stage.command = some handler)
      (hcall : handler (stage.args.map Path.ofString) r.world = (ended, w))
      (hback : ∀ e, ended ≠ .left e) :
      ComesTo stage r (opening ++ [.call stage.command stage.args, .returned ended]) (.empty, 0)
        (notices ++ ended.failures stage.command)
        ⟨w, r.started, r.trace ++ (opening ++ [.call stage.command stage.args, .returned ended])⟩
  | collected {stdin : Stdin} {opening : List Action} {process : Process} {raw : ByteArray}
      {w : World} (hfed : Fed stage.clause r.world stdin opening)
      (hprogram : reg.builtin? stage.command = none)
      (hspawn : spawner (reg.argv stage.command stage.args) stdin r.world = (.ok process, w))
      (hcollected : process.collected = some raw) :
      ComesTo stage r
        (opening ++ spawnActions (reg.argv stage.command stage.args) stdin
          (.ok (r.started, process)) ++ [.communicate r.started stdin.feed])
        (process.output.getD .empty, process.status) []
        ⟨w, r.started + 1, r.trace ++ (opening ++ spawnActions (reg.argv stage.command stage.args)
          stdin (.ok (r.started, process)) ++ [.communicate r.started stdin.feed])⟩

/-- How a stage alone can go, with all that is done from its start to its end. -/
inductive SingleCourse (stage : Stage) (r : Run) : List Action → Outcome × Run → Prop
  | sourceless {e : Escape} (hsource : inputSource stage.clause = .error e) :
      SingleCourse stage r [] (.left e, r)
  | unreadable {source : Path} {e : Escape}
      (hsource : inputSource stage.clause = .ok (some source))
      (hread : r.world.read source = .error e) :
      SingleCourse stage r [.openSource source false]
        ((sourceFault source e).outcome [], r.logAll [.openSource source false])
  | left {handler : Handler} {source : Option Path} {opening : List Action}
      {notices : List String} {e : Escape} {w : World}
      (hsource : inputSource stage.clause = .ok source)
      (hnoticed : Noticed reg stage r.world source opening notices)
      (hbuiltin : reg.builtin? stage.command = some handler)
      (hcall : handler (stage.args.map Path.ofString) r.world = (.left e, w)) :
      SingleCourse stage r (opening ++ [.call stage.command stage.args, .returned (.left e)])
        (.left e, ⟨w, r.started,
          r.trace ++ (opening ++ [.call stage.command stage.args, .returned (.left e)])⟩)
  | notStarted {stdin : Stdin} {opening : List Action} {fault : SpawnFault} {w : World}
      (hfed : Fed stage.clause r.world stdin opening)
      (hprogram : reg.builtin? stage.command = none)
      (hspawn : spawner (reg.argv stage.command stage.args) stdin r.world = (.error fault, w)) :
      SingleCourse stage r
        (opening ++ spawnActions (reg.argv stage.command stage.args) stdin (.error fault))
        ((spawnFault fault).outcome [], ⟨w, r.started, r.trace ++
          (opening ++ spawnActions (reg.argv stage.command stage.args) stdin (.error fault))⟩)
  | uncollected {stdin : Stdin} {opening : List Action} {process : Process} {w : World}
      (hfed : Fed stage.clause r.world stdin opening)
      (hprogram : reg.builtin? stage.command = none)
      (hspawn : spawner (reg.argv stage.command stage.args) stdin r.world = (.ok process, w))
      (hcollected : process.collected = none) :
      SingleCourse stage r
        (opening ++ spawnActions (reg.argv stage.command stage.args) stdin
          (.ok (r.started, process)) ++ [.communicate r.started stdin.feed] ++
            [.uncollected r.started])
        (.left .outputMissing, ⟨w, r.started + 1, r.trace ++ (opening ++
          spawnActions (reg.argv stage.command stage.args) stdin (.ok (r.started, process)) ++
            [.communicate r.started stdin.feed] ++ [.uncollected r.started])⟩)
  | delivered {before delivery : List Action} {came : ByteArray × Int} {messages : List String}
      {r' : Run} (hcomes : ComesTo reg spawner stage r before came messages r')
      (hdelivery : ∀ a ∈ delivery, a.IsDelivery)
      (htrace : (deliver came.1 came.2 stage.clause messages r').2.trace = r'.trace ++ delivery) :
      SingleCourse stage r (before ++ delivery) (deliver came.1 came.2 stage.clause messages r')

variable {reg spawner} {stage : Stage} {r r' : Run} {before : List Action}
  {came : ByteArray × Int} {messages : List String}

lemma ComesTo.trace (h : ComesTo reg spawner stage r before came messages r') :
    r'.trace = r.trace ++ before := by
  cases h <;> rfl

lemma ComesTo.course (h : ComesTo reg spawner stage r before came messages r') :
    ∃ actions, SingleCourse reg spawner stage r actions
      (deliver came.1 came.2 stage.clause messages r') := by
  obtain ⟨delivery, htrace, hdelivery, -⟩ := deliver_spec came.1 stage.clause came.2 messages r'
  exact ⟨_, .delivered h hdelivery.isDelivery htrace⟩

variable (reg spawner stage r)

lemma runBuiltin_course {handler : Handler}
    (hbuiltin : reg.builtin? stage.command = some handler) :
    ∃ actions, SingleCourse reg spawner stage r actions (runBuiltin handler stage r) := by
  cases hsource : inputSource stage.clause with
  | error e => exact ⟨[], by simpa only [runBuiltin, hsource] using .sourceless hsource⟩
  | ok source =>
    obtain ⟨path, e, rfl, hread, hlook⟩ | ⟨opening, notices, hnoticed, hlook⟩ :=
      noticeIgnored_noticed hbuiltin source r
    · exact ⟨_, by simpa only [runBuiltin, hsource, hlook] using .unreadable hsource hread⟩
    · cases hcall : handler (stage.args.map Path.ofString) r.world with
      | mk ended w =>
        have hback := callBuiltin_of_eq (r := r.logAll opening) hcall
        rw [Run.logAll_trace, Run.logAll_started, List.append_assoc] at hback
        simp only [runBuiltin, hsource, hlook, hback]
        cases ended with
        | left e => exact ⟨_, .left hsource hnoticed hbuiltin hcall⟩
        | done | failed =>
          exact (ComesTo.called hsource hnoticed hbuiltin hcall
            fun e => HandlerEnd.noConfusion).course

lemma runProgram_course (hprogram : reg.builtin? stage.command = none) :
    ∃ actions, SingleCourse reg spawner stage r actions (runProgram reg spawner stage r) := by
  obtain ⟨e, hsource, hlook⟩ | ⟨path, e, hsource, hread, hlook⟩ | ⟨stdin, opening, hfed, hlook⟩ :=
    singleInput_cases stage.clause r
  · exact ⟨[], by simpa only [runProgram, hlook] using .sourceless hsource⟩
  · exact ⟨_, by simpa only [runProgram, hlook] using .unreadable hsource hread⟩
  · cases hspawn : spawner (reg.argv stage.command stage.args) stdin r.world with
    | mk reply w =>
      cases reply with
      | error fault =>
        have hstart := Run.spawn_of_error (r := r.logAll opening) hspawn
        rw [Run.logAll_trace, Run.logAll_started, List.append_assoc] at hstart
        simp only [runProgram, hlook, hstart]
        exact ⟨_, .notStarted hfed hprogram hspawn⟩
      | ok process =>
        have hstart := Run.spawn_of_ok (r := r.logAll opening) hspawn
        rw [Run.logAll_trace, Run.logAll_started, List.append_assoc] at hstart
        simp only [runProgram, hlook, hstart]
        cases hcollected : process.collected with
        | some raw =>
          rw [collect_of_some _ _ _ hcollected, Run.log, List.append_assoc]
          exact (ComesTo.collected hfed hprogram hspawn hcollected).course
        | none =>
          rw [collect_of_none _ _ _ hcollected, Run.logAll, List.append_assoc]
          have hcourse := SingleCourse.uncollected hfed hprogram hspawn hcollected
          exact ⟨_, by simpa using hcourse⟩

/-- Every stage alone goes one of these ways. -/
theorem runSingle_course :
    ∃ actions, SingleCourse reg spawner stage r actions (runSingle reg spawner stage r) := by
  unfold runSingle
  cases hbuiltin : reg.builtin? stage.command with
  | some handler => exact runBuiltin_course reg spawner stage r hbuiltin
  | none => exact runProgram_course reg spawner stage r hbuiltin

variable {reg spawner stage r}

lemma SingleCourse.trace {actions : List Action} {ended : Outcome × Run}
    (h : SingleCourse reg spawner stage r actions ended) :
    ended.2.trace = r.trace ++ actions := by
  cases h with
  | sourceless => simp
  | unreadable | left | notStarted | uncollected => rfl
  | delivered hcomes hdelivery htrace => rw [htrace, hcomes.trace, List.append_assoc]

end

lemma execute_of_two_le (reg : Registry Handler) (spawner : Spawner) {p : Pipeline}
    (h : 2 ≤ p.stages.length) (r : Run) :
    ∃ first rest, p.stages = first :: rest ∧
      execute reg spawner p r =
        runChain reg spawner first rest p.clause (r.log (.execute p.stages)) := by
  obtain ⟨stages, hne⟩ := p
  match stages, hne, h with
  | first :: second :: rest, _, _ => exact ⟨first, second :: rest, rfl, rfl⟩

lemma execute_of_lt_two (reg : Registry Handler) (spawner : Spawner) {p : Pipeline}
    (h : p.stages.length < 2) (r : Run) :
    ∃ stage, p.stages = [stage] ∧ p.clause = stage.clause ∧
      execute reg spawner p r = runSingle reg spawner stage (r.log (.execute p.stages)) := by
  obtain ⟨stages, hne⟩ := p
  match stages, hne, h with
  | [stage], _, _ =>
    refine ⟨stage, rfl, ?_, rfl⟩
    cases hclause : stage.clause <;> simp [Pipeline.clause, hclause]

/-- How running a pipeline can go: as a chain, or as a stage alone. -/
inductive Course (reg : Registry Handler) (spawner : Spawner) (p : Pipeline) (r : Run)
    (actions : List Action) (ended : Outcome × Run) : Prop
  | chain {first : Stage} {rest : List Stage} (hstages : p.stages = first :: rest)
      (hchain : 2 ≤ p.stages.length)
      (hcourse : ChainCourse reg spawner first rest p.clause r actions ended)
  | single {stage : Stage} (hstages : p.stages = [stage]) (hclause : p.clause = stage.clause)
      (hcourse : SingleCourse reg spawner stage r actions ended)

lemma Course.trace {reg : Registry Handler} {spawner : Spawner} {p : Pipeline} {r : Run}
    {actions : List Action} {ended : Outcome × Run}
    (h : Course reg spawner p r actions ended) : ended.2.trace = r.trace ++ actions := by
  cases h with
  | chain hstages hchain hcourse => exact hcourse.trace
  | single hstages hclause hcourse => exact hcourse.trace

/-- Every pipeline goes one of these ways. -/
theorem execute_course (reg : Registry Handler) (spawner : Spawner) (p : Pipeline) (r : Run) :
    ∃ actions, actionsOf reg spawner p r = .execute p.stages :: actions ∧
      Course reg spawner p (r.log (.execute p.stages)) actions (execute reg spawner p r) := by
  suffices hcourse : ∃ actions,
      Course reg spawner p (r.log (.execute p.stages)) actions (execute reg spawner p r) by
    obtain ⟨actions, hcourse⟩ := hcourse
    refine ⟨actions, actionsOf_eq reg spawner ?_, hcourse⟩
    rw [hcourse.trace, Run.log_trace, List.append_assoc]
    rfl
  by_cases hchain : 2 ≤ p.stages.length
  · obtain ⟨first, rest, hstages, hrun⟩ := execute_of_two_le reg spawner hchain r
    obtain ⟨actions, hcourse⟩ :=
      runChain_course reg spawner first rest p.clause (r.log (.execute p.stages))
    exact ⟨actions, .chain hstages hchain (hrun ▸ hcourse)⟩
  · obtain ⟨stage, hstages, hclause, hrun⟩ :=
      execute_of_lt_two reg spawner (Nat.lt_of_not_le hchain) r
    obtain ⟨actions, hcourse⟩ := runSingle_course reg spawner stage (r.log (.execute p.stages))
    exact ⟨actions, .single hstages hclause (hrun ▸ hcourse)⟩

end CommandShell
