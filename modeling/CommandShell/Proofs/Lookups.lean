import CommandShell.Proofs.Reports

/-!
# Where files are looked up

A run looks at the source of its clause before it sends a stage off, so it is the source as it is in
the folder in which the run starts, and what a program is given of it is what it holds there. The
targets are looked up last, all of them in the folder to which the run has come, as writing to them
does not lead out of it.
-/
namespace CommandShell
open Text

/-! ## Sources -/

/-- A file at which a run may look: the source of its clause, as long as no stage is sent off. -/
def MayOpen (clause : Option Clause) (before : List Action) (path : Path) : Prop :=
  inputSource clause = .ok (some path) ∧ ∀ b ∈ before, b.isDispatch = false

/-- What is opened is the source as it is in a given world, and so is what a program is given of a
file. A program that is given nothing of a file reads what the shell reads, what the program before
it wrote, or nothing. -/
def FromSource (clause : Option Clause) (w : World) (before : List Action) : Action → Prop
  | .openSource path opened => MayOpen clause before path ∧ opened = (w.read path).isOk
  | .spawn _ (.source identity bytes) _ => ∃ path, MayOpen clause before path ∧
      w.read path = .ok bytes ∧ identity = w.identity? path
  | .spawn _ (.fed bytes) _ => bytes = .empty ∨ ∃ path, MayOpen clause before path ∧
      w.read path = .ok bytes
  | _ => True

/-- All along some actions, what is read of files is the source of a clause in a given world. -/
abbrev ReadsSource (clause : Option Clause) (w : World) (earlier actions : List Action) : Prop :=
  Throughout (fun before a _ => FromSource clause w before a) earlier actions

/-- Whether an action opens a file for reading or starts a program. -/
def Action.isReading : Action → Bool
  | .openSource .. => true
  | .spawn .. => true
  | _ => false

section
variable {clause : Option Clause} {w : World} {source : Option Path} {path : Path}
  {earlier before more actions : List Action} {a : Action}

lemma MayOpen.append (h : MayOpen clause before path) (hmore : ∀ b ∈ more, b.isDispatch = false) :
    MayOpen clause (before ++ more) path :=
  ⟨h.1, fun b hb => (List.mem_append.1 hb).elim (h.2 b) (hmore b)⟩

lemma FromSource.of_not_isReading (h : a.isReading = false) : FromSource clause w before a := by
  cases a with
  | openSource | spawn => cases h
  | _ => trivial

namespace ReadsSource

lemma of_not_isReading (h : ∀ a ∈ actions, a.isReading = false) :
    ReadsSource clause w earlier actions :=
  .of_forall fun a ha _ _ => .of_not_isReading (h a ha)

lemma append (h : ReadsSource clause w earlier actions)
    (hmore : ReadsSource clause w (earlier ++ actions) more) :
    ReadsSource clause w earlier (actions ++ more) :=
  Throughout.append (fun hfrom => hfrom) h hmore

lemma append_unread (h : ReadsSource clause w earlier actions)
    (hmore : ∀ a ∈ more, a.isReading = false) : ReadsSource clause w earlier (actions ++ more) :=
  h.append (.of_not_isReading hmore)

lemma of_look {bytes : ByteArray} (hmay : MayOpen clause earlier path)
    (hread : w.read path = .ok bytes) :
    ReadsSource clause w earlier [.openSource path true, .closeSource path] :=
  ⟨⟨hmay, by rw [hread]; rfl⟩, trivial, trivial⟩

lemma of_refused {e : Escape} (hmay : MayOpen clause earlier path)
    (hread : w.read path = .error e) :
    ReadsSource clause w earlier [.openSource path false] :=
  ⟨⟨hmay, by rw [hread]; rfl⟩, trivial⟩

end ReadsSource

lemma Action.IsDelivery.isReading (h : a.IsDelivery) : a.isReading = false := by
  cases h <;> rfl

/-- What is done around a call of the spawner reads nothing but the source. -/
lemma readsSource_spawnActions {argv : List String} {stdin : Stdin}
    {answer : Except SpawnFault (Nat × Process)}
    (h : FromSource clause w earlier (.spawn argv stdin none)) :
    ReadsSource clause w earlier (spawnActions argv stdin answer) := by
  have hgiven (started : Option Nat) : FromSource clause w earlier (.spawn argv stdin started) := by
    cases stdin <;> exact h
  obtain fault | ⟨number, process⟩ := answer
  · exact ⟨hgiven _, trivial, trivial⟩
  · exact ⟨hgiven _, trivial, trivial⟩

lemma Wiring.closing_not_isReading (wiring : Wiring) (answer : Except SpawnFault (Nat × Process)) :
    ∀ a ∈ wiring.closing answer, a.isReading = false := by
  cases wiring with
  | handoff | source => simp [closing, Action.isReading]
  | fresh => obtain h | ⟨number, h⟩ := closing_fresh answer <;> simp [h, Action.isReading]

/-- A program in a chain is given the source only where it may be opened. -/
lemma Wired.readsSource {v : World} {pending : Option (Nat × ByteArray)} {wiring : Wiring}
    (h : Wired v pending source wiring)
    (hstart : ∀ path ∈ source, v = w ∧ MayOpen clause earlier path) (argv : List String)
    (answer : Except SpawnFault (Nat × Process)) :
    ReadsSource clause w earlier (wiring.actions argv answer) := by
  refine ReadsSource.append_unread ?_ (wiring.closing_not_isReading answer)
  cases h with
  | handoff | fresh => exact readsSource_spawnActions (by simp [FromSource, Wiring.stdin])
  | @source path bytes hread =>
    obtain ⟨rfl, hmay⟩ := hstart path rfl
    have hopened : MayOpen clause (earlier ++ [.openSource path true]) path :=
      hmay.append (by simp [Action.isDispatch])
    exact ⟨⟨hmay, by rw [hread]; rfl⟩, readsSource_spawnActions ⟨path, hopened, hread, rfl⟩⟩

end

section
variable {reg : Registry Handler} {spawner : Spawner} {clause : Option Clause} {w : World}
  {c : Chain} {source : Option Path} {first stage : Stage} {rest stages : List Stage} {r : Run}
  {earlier actions opening : List Action} {result : Except (Outcome × Run) Chain}

lemma callActions_not_isReading (pending : Option (Nat × ByteArray)) (stage : Stage)
    (ended : HandlerEnd) : ∀ a ∈ callActions pending stage ended, a.isReading = false := by
  cases pending <;> simp [callActions, closePending, Action.isReading]

/-- A stage of a chain reads the source as it was when the chain started, or no file. -/
theorem Chain.Step.readsSource (h : Chain.Step reg spawner c source stage actions result)
    (hstart : ∀ path ∈ source, c.run.world = w ∧ MayOpen clause earlier path) :
    ReadsSource clause w earlier actions := by
  cases h with
  | called | left => exact .of_not_isReading (callActions_not_isReading _ _ _)
  | @unopened path e hprogram hpending hsource hread =>
    obtain ⟨hworld, hmay⟩ := hstart path hsource
    exact .of_refused hmay (hworld ▸ hread)
  | started hprogram hwired => exact hwired.readsSource hstart _ _
  | notStarted hprogram hwired => exact hwired.readsSource hstart _ _

/-- So do the stages one after the other: none but the first is shown the source. -/
theorem Chain.Steps.readsSource (h : Chain.Steps reg spawner c source stages actions result)
    (hstart : ∀ path ∈ source, c.run.world = w ∧ MayOpen clause earlier path) :
    ReadsSource clause w earlier actions := by
  induction h generalizing earlier with
  | nil => trivial
  | halt hstep => exact hstep.readsSource hstart
  | step hstep hrest ih => exact (hstep.readsSource hstart).append (ih (by simp))

/-- The look in front of the first stage leaves the source to that stage. -/
lemma Noticed.readsSource {notices : List String}
    (h : Noticed reg first w source opening notices) (hsource : inputSource clause = .ok source)
    (hearlier : ∀ b ∈ earlier, b.isDispatch = false) :
    ReadsSource clause w earlier opening ∧
      ∀ path ∈ source, MayOpen clause (earlier ++ opening) path := by
  have hmay : ∀ path ∈ source, MayOpen clause earlier path := by
    rintro path rfl
    exact ⟨hsource, hearlier⟩
  cases h with
  | program | sourceless => exact ⟨trivial, by simpa only [List.append_nil] using hmay⟩
  | @ignored handler path bytes hbuiltin hread =>
    refine ⟨.of_look (hmay path rfl) hread, fun p hp => (hmay p hp).append ?_⟩
    simp [Action.isDispatch]

lemma Chain.reaping_not_isReading (c : Chain) : ∀ a ∈ c.reaping, a.isReading = false := by
  obtain ⟨r, messages, started, previous⟩ := c
  obtain _ | ⟨number, _ | bytes, hasInput, status⟩ := previous <;>
    simp [reaping, draining, Action.isReading, or_imp, forall_and]

/-- A chain reads the source as it is when it starts. -/
theorem ChainCourse.readsSource {ended : Outcome × Run}
    (h : ChainCourse reg spawner first rest clause r actions ended)
    (hearlier : ∀ b ∈ earlier, b.isDispatch = false) :
    ReadsSource clause r.world earlier actions := by
  cases h with
  | sourceless => trivial
  | unreadable hsource hbuiltin hread => exact .of_refused ⟨hsource, hearlier⟩ hread
  | halted hsource hnoticed hsteps =>
    obtain ⟨hopening, hmay⟩ := hnoticed.readsSource hsource hearlier
    exact hopening.append (hsteps.readsSource fun path hpath => ⟨rfl, hmay path hpath⟩)
  | @finished source opening actions delivery notices c hsource hnoticed hsteps hdelivery =>
    obtain ⟨hopening, hmay⟩ := hnoticed.readsSource hsource hearlier
    have hstages := hopening.append (hsteps.readsSource fun path hpath => ⟨rfl, hmay path hpath⟩)
    exact (hstages.append_unread c.reaping_not_isReading).append_unread
      fun a ha => (hdelivery a ha).isReading

end

/-! ## Sources of a stage alone -/

section
variable {reg : Registry Handler} {spawner : Spawner} {clause : Option Clause} {w : World}
  {stage : Stage} {r : Run} {earlier actions opening : List Action}
  (hearlier : ∀ b ∈ earlier, b.isDispatch = false)
include hearlier

/-- The input of a program alone is what the shell reads or what the source holds. -/
lemma Fed.readsSource {stdin : Stdin} (h : Fed clause w stdin opening) :
    ReadsSource clause w earlier opening ∧
      ∀ argv, FromSource clause w (earlier ++ opening) (.spawn argv stdin none) := by
  cases h with
  | inherited => exact ⟨trivial, fun argv => trivial⟩
  | @source path bytes hsource hread =>
    have hmay : MayOpen clause earlier path := ⟨hsource, hearlier⟩
    exact ⟨.of_look hmay hread,
      fun argv => .inr ⟨path, hmay.append (by simp [Action.isDispatch]), hread⟩⟩

lemma Fed.readsSource_spawned {stdin : Stdin} (h : Fed clause w stdin opening)
    (argv : List String) (answer : Except SpawnFault (Nat × Process)) :
    ReadsSource clause w earlier (opening ++ spawnActions argv stdin answer) :=
  (h.readsSource hearlier).1.append (readsSource_spawnActions ((h.readsSource hearlier).2 argv))

lemma ComesTo.readsSource {before : List Action} {came : ByteArray × Int} {messages : List String}
    {r' : Run} (h : ComesTo reg spawner stage r before came messages r') :
    ReadsSource stage.clause r.world earlier before := by
  cases h with
  | called hsource hnoticed =>
    exact (hnoticed.readsSource hsource hearlier).1.append_unread (by simp [Action.isReading])
  | collected hfed =>
    exact (hfed.readsSource_spawned hearlier _ _).append_unread (by simp [Action.isReading])

/-- A stage alone reads the source as it is when it starts. -/
theorem SingleCourse.readsSource {ended : Outcome × Run}
    (h : SingleCourse reg spawner stage r actions ended) :
    ReadsSource stage.clause r.world earlier actions := by
  cases h with
  | sourceless => trivial
  | unreadable hsource hread => exact .of_refused ⟨hsource, hearlier⟩ hread
  | left hsource hnoticed =>
    exact (hnoticed.readsSource hsource hearlier).1.append_unread (by simp [Action.isReading])
  | notStarted hfed => exact hfed.readsSource_spawned hearlier _ _
  | uncollected hfed =>
    exact ((hfed.readsSource_spawned hearlier _ _).append_unread
      (by simp [Action.isReading])).append_unread (by simp [Action.isReading])
  | delivered hcomes hdelivery =>
    exact (hcomes.readsSource hearlier).append_unread fun a ha => (hdelivery a ha).isReading

end

/-- Every run reads its source in the world in which it starts. -/
theorem execute_readsSource (reg : Registry Handler) (spawner : Spawner) (p : Pipeline) (r : Run) :
    ReadsSource p.clause r.world [] (actionsOf reg spawner p r) := by
  have hearlier : ∀ b ∈ [Action.execute p.stages], b.isDispatch = false := by
    simp [Action.isDispatch]
  obtain ⟨actions, hactions, hcourse⟩ := execute_course reg spawner p r
  rw [hactions]
  cases hcourse with
  | chain hstages hchain hcourse => exact ⟨trivial, hcourse.readsSource hearlier⟩
  | single hstages hclause hcourse =>
    have hreads := hcourse.readsSource hearlier
    rw [hclause]
    exact ⟨trivial, hreads⟩

/-! ## Targets -/

namespace Attempts
variable {mode : WriteMode} {bytes : ByteArray} {w w' : World} {attempts : List Attempt}

lemma place (h : Attempts mode bytes w attempts w') : w'.place = w.place := by
  obtain ⟨files, rfl, -⟩ := h.overwritten
  rfl

/-- The targets from any of them on are tried in the world that those before it have left. -/
lemma split {front back : List Attempt} (h : Attempts mode bytes w attempts w')
    (hsplit : attempts = front ++ back) :
    ∃ u, Attempts mode bytes w front u ∧ Attempts mode bytes u back w' := by
  induction front generalizing w attempts with
  | nil =>
    subst hsplit
    exact ⟨w, .nil w, h⟩
  | cons a front ih =>
    subst hsplit
    cases h with
    | written hwrite hrest =>
      obtain ⟨u, hfront, hback⟩ := ih hrest rfl
      exact ⟨u, .written hwrite hfront, hback⟩
    | refused hwrite hrest =>
      obtain ⟨u, hfront, hback⟩ := ih hrest rfl
      exact ⟨u, .refused hwrite hfront, hback⟩

lemma opened_eq {a : Attempt} (h : Attempts mode bytes w (a :: attempts) w') :
    a.opened = w.opens a.target := by
  cases h with
  | written hwrite => exact (World.opens_of_write hwrite).symm
  | refused => rfl

end Attempts

/-- Targets that are tried in one folder, each in the world that those before it have left. -/
structure TriedIn (place : Place) (mode : WriteMode) (bytes : ByteArray) (w : World)
    (attempts : List Attempt) (w' : World) : Prop where
  tried : Attempts mode bytes w attempts w'
  looked : ∀ front a back, attempts = front ++ a :: back →
    ∃ u, Attempts mode bytes w front u ∧ u.place = place ∧ a.opened = u.opens a.target

lemma Attempts.triedIn {mode : WriteMode} {bytes : ByteArray} {w w' : World}
    {attempts : List Attempt} (h : Attempts mode bytes w attempts w') :
    TriedIn w'.place mode bytes w attempts w' where
  tried := h
  looked front a back hsplit := by
    obtain ⟨u, hfront, hback⟩ := h.split hsplit
    exact ⟨u, hfront, hback.place.symm, hback.opened_eq⟩

/-- Whether an action tries a target. -/
def Action.isTry : Action → Bool
  | .openTarget .. => true
  | _ => false

/-- What a run does about the targets of its clause from the world on to which the stages have led.
It may not come so far; otherwise it tries all of them, or those up to one that no host takes. -/
inductive TriesTargets (clause : Option Clause) (raw : ByteArray) (w : World)
    (actions : List Action) : Outcome × Run → Prop
  | none {outcome : Outcome} {r : Run} (htries : actions.filter Action.isTry = [])
      (hends : (∃ a ∈ actions, a.isFailure = true) ∨ ∃ e, inputSource clause = .error e)
      (hworld : r.world = w) : TriesTargets clause raw w actions (outcome, r)
  | all {attempts : List Attempt} {result : Result} {r : Run}
      (htried : TriedIn r.world.place (writeModeOf clause) raw w attempts r.world)
      (htargets : attempts.map Attempt.target = takingTargets raw clause)
      (htries : actions.filter Action.isTry = attempts.map Attempt.action) :
      TriesTargets clause raw w actions (.finished result, r)
  | cut {attempts : List Attempt} {target : Path} {back : List Path} {r : Run}
      (htried : TriedIn r.world.place (writeModeOf clause) raw w attempts r.world)
      (htargets : attempts.map Attempt.target ++ target :: back = takingTargets raw clause)
      (hnull : target.hasNull = true)
      (htries : actions.filter Action.isTry =
        attempts.map Attempt.action ++ [.openTarget target false]) :
      TriesTargets clause raw w actions (.left .nullCharacter, r)

section
variable {clause : Option Clause} {raw : ByteArray} {w : World} {actions : List Action}
  {ended : Outcome × Run}

/-- Whatever it does about them, the run ends in the folder in which it finds them. -/
lemma TriesTargets.place (h : TriesTargets clause raw w actions ended) :
    ended.2.world.place = w.place := by
  cases h with
  | none htries hends hworld => rw [hworld]
  | all htried => exact htried.tried.place
  | cut htried => exact htried.tried.place

lemma filter_isTry_of_quiet (h : ∀ a ∈ actions, ¬ a.IsDelivery) :
    actions.filter Action.isTry = [] := by
  rw [List.filter_eq_nil_iff]
  intro a ha
  cases a with
  | openTarget path opened => exact absurd (.openTarget path opened) (h _ ha)
  | _ => exact Bool.false_ne_true

lemma filter_isTry_attempts (attempts : List Attempt) :
    (attempts.map Attempt.action).filter Action.isTry = attempts.map Attempt.action := by
  simp [List.filter_eq_self, Attempt.action, Action.isTry]

lemma TriesTargets.behind {before : List Action} (h : TriesTargets clause raw w actions ended)
    (hbefore : ∀ a ∈ before, ¬ a.IsDelivery) :
    TriesTargets clause raw w (before ++ actions) ended := by
  have hfilter : (before ++ actions).filter Action.isTry = actions.filter Action.isTry := by
    rw [List.filter_append, filter_isTry_of_quiet hbefore, List.nil_append]
  cases h with
  | none htries hends hworld =>
    refine .none (hfilter.trans htries) (hends.imp_left ?_) hworld
    rintro ⟨a, ha, hfails⟩
    exact ⟨a, List.mem_append_right _ ha, hfails⟩
  | all htried htargets htries => exact .all htried htargets (hfilter.trans htries)
  | cut htried htargets hnull htries => exact .cut htried htargets hnull (hfilter.trans htries)

lemma deliver_triesTargets (raw : ByteArray) (clause : Option Clause) (code : Int)
    (messages : List String) (r : Run) :
    ∃ delivery, (deliver raw code clause messages r).2.trace = r.trace ++ delivery ∧
      TriesTargets clause raw r.world delivery (deliver raw code clause messages r) := by
  have hkept {result : Result} (hnone : takingTargets raw clause = []) :
      TriesTargets clause raw r.world [] (.finished result, r) :=
    .all (Attempts.nil r.world).triedIn hnone.symm rfl
  cases destined raw clause with
  | nowhere hdecode =>
    rw [deliver_of_error code messages r hdecode]
    exact ⟨[], (List.append_nil _).symm, hkept (takingTargets_of_error hdecode)⟩
  | back hdecode hkeeps =>
    rw [deliver_of_keeps code messages r hdecode hkeeps]
    exact ⟨[], (List.append_nil _).symm, hkept (takingTargets_of_keeps hkeeps)⟩
  | @targets c text hdecode hop =>
    have htaking : takingTargets raw (some c) = c.targets := takingTargets_of_takes hdecode hop
    have hwrites := writeAll_writes c.mode raw c.targets (r.log (.deliver text.length c.targets))
    rw [deliver_of_takes code messages r hdecode hop, Clause.writeTargets,
      Utf8.toByteArray_of_decode hdecode]
    generalize writeAll c.mode raw c.targets (r.log (.deliver text.length c.targets)) =
      written at hwrites
    generalize htargets : c.targets = targets at hwrites
    rw [htargets] at htaking
    cases hwrites with
    | @all attempts w h =>
      refine ⟨.deliver text.length c.targets :: attempts.map Attempt.action, by simp [htargets],
        ?_⟩
      simp only [writtenOutcome_attempts]
      exact .all h.triedIn htaking.symm (filter_isTry_attempts attempts)
    | @cut attempts w target h hnull back =>
      refine ⟨.deliver text.length c.targets ::
        (attempts.map Attempt.action ++ [.openTarget target false]), by simp [htargets], ?_⟩
      refine .cut h.triedIn htaking.symm hnull ?_
      rw [List.filter_cons_of_neg (by simp [Action.isTry]), List.filter_append,
        filter_isTry_attempts]
      rfl

end

/-- Wherever a run ends, it has tried the targets or has not come so far. -/
lemma Reported.triesTargets {reg : Registry Handler} {spawner : Spawner} {p : Pipeline} {w : World}
    {actions : List Action} {ended : Outcome × Run}
    (h : Reported reg spawner p w actions ended) :
    TriesTargets p.clause (lastOutput actions) (worldLeft reg spawner w actions) actions ended := by
  have hquiet {front : List Stage} {calls : List Returned} {before later : List Action}
      {v : World} (hsent : SentOff reg spawner front calls w before v)
      (hlater : ∀ a ∈ later, ¬ a.IsDelivery) :
      (before ++ later).filter Action.isTry = [] :=
    filter_isTry_of_quiet fun a ha =>
      (List.mem_append.1 ha).elim (hsent.leads.quiet a) (hlater a)
  cases h with
  | unnamed hbefore hsource hworld =>
    refine .none (filter_isTry_of_quiet ?_) (.inr ⟨_, hsource⟩) ?_
    · have hleads : Leads reg spawner w _ w := .of_handling hbefore.isHandling
      exact hleads.quiet
    · rw [hworld, worldLeft_of_idle hbefore.neither.isSending]
  | @unreadable front calls before source e messages r hsource hread hnext hsent =>
    refine .none (hquiet hsent ?_) (.inl ⟨.openSource source false, by simp, rfl⟩) ?_
    · rintro a ha ⟨⟩ <;> simp at ha
    · rw [worldLeft_append, ← hsent.leads.world]
      rfl
  | @left front stage calls before handler e v r hnext hsent hbuiltin hcall =>
    refine .none (hquiet hsent ?_) (.inl ⟨.returned (.left e), by simp, rfl⟩) ?_
    · rintro a ha ⟨⟩ <;> simp at ha
    · rw [worldLeft_append, ← hsent.leads.world]
      simp [worldLeft, changed, hbuiltin, hcall]
  | @notStarted front stage calls before after stdin fault halt v r hnext hsent hprogram hspawn
      hafter =>
    have hspawned : Leads reg spawner v
        (spawnActions (reg.argv stage.command stage.args) stdin (.error fault) ++ after) r.world :=
      (Leads.of_spawn hspawn).append (.of_handling hafter.isHandling)
    rw [List.append_assoc]
    refine .none (hquiet hsent hspawned.quiet)
      (.inl ⟨.notStarted fault, by simp [spawnActions], rfl⟩) ?_
    rw [worldLeft_append, ← hsent.leads.world]
    exact hspawned.world
  | @uncollected stage before stdin number process v r hstages hsent =>
    refine .none (hquiet hsent ?_) (.inl ⟨.uncollected number, by simp, rfl⟩) ?_
    · rintro a ha ⟨⟩ <;> simp at ha
    · rw [worldLeft_append, ← hsent.leads.world]
      rfl
  | @delivered calls before delivery code r hsent hdelivery htrace =>
    have hidle := (neither_of_delivery hdelivery).isSending
    obtain ⟨tried, htried, htries⟩ :=
      deliver_triesTargets (lastOutput before) p.clause code (p.notices reg calls) r
    obtain rfl := List.append_cancel_left (htried.symm.trans htrace)
    rw [lastOutput_append_of_idle hidle, worldLeft_append, worldLeft_of_idle hidle,
      ← hsent.leads.world]
    exact htries.behind hsent.leads.quiet

/-- So every run tries its targets in the folder in which it ends. -/
theorem execute_triesTargets (reg : Registry Handler) (spawner : Spawner) (p : Pipeline) (r : Run) :
    TriesTargets p.clause (lastOutput (actionsOf reg spawner p r))
      (worldLeft reg spawner r.world (actionsOf reg spawner p r)) (actionsOf reg spawner p r)
      (execute reg spawner p r) :=
  (execute_reported reg spawner p r).triesTargets

end CommandShell
