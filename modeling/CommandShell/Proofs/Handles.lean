import CommandShell.Proofs.Course
import Mathlib.Data.List.Basic

/-!
# Output handles in chains

The shell holds a handle on the output of every program that it starts with one. A chain keeps at
most one of them open: it is the input of the next program and is closed once that is started, or
it is closed before a builtin is called, or it is read to its end after the last stage. So at every
dispatch it is known which handles are open, and none is left when the chain has ended, no matter
which program fails to start and which builtin leaves.
-/
namespace CommandShell

/-- The handles that are open after an action, with what can be read from them. -/
def trackOutput (opened : List (Nat × ByteArray)) : Action → List (Nat × ByteArray)
  | .started number ⟨some bytes, _, _, _⟩ => opened ++ [(number, bytes)]
  | .closeStdout number => opened.eraseP (·.1 = number)
  | _ => opened

/-- The handles that are still open after all of the actions. -/
def openOutputs (actions : List Action) : List (Nat × ByteArray) := actions.foldl trackOutput []

section
variable (opened : List (Nat × ByteArray)) (number : Nat)

@[simp] lemma trackOutput_openSource (path : Path) (isOpen : Bool) :
    trackOutput opened (.openSource path isOpen) = opened := rfl
@[simp] lemma trackOutput_closeSource (path : Path) :
    trackOutput opened (.closeSource path) = opened := rfl
@[simp] lemma trackOutput_spawn (argv : List String) (stdin : Stdin) (started : Option Nat) :
    trackOutput opened (.spawn argv stdin started) = opened := rfl
@[simp] lemma trackOutput_closeStdin : trackOutput opened (.closeStdin number) = opened := rfl
@[simp] lemma trackOutput_closeStdout :
    trackOutput opened (.closeStdout number) = opened.eraseP (·.1 = number) := rfl
@[simp] lemma trackOutput_readStdout : trackOutput opened (.readStdout number) = opened := rfl
@[simp] lemma trackOutput_wait : trackOutput opened (.wait number) = opened := rfl
@[simp] lemma trackOutput_call (name : String) (args : List String) :
    trackOutput opened (.call name args) = opened := rfl
@[simp] lemma trackOutput_returned (ended : HandlerEnd) :
    trackOutput opened (.returned ended) = opened := rfl

end

namespace Action

/-- Whether an action sends a stage off. -/
def isDispatch : Action → Bool
  | .spawn .. => true
  | .call .. => true
  | _ => false

/-- Whether an action is an answer of the spawner. -/
def isAnswer : Action → Bool
  | .started .. => true
  | .notStarted _ => true
  | _ => false

end Action

/-- What is owed around a call of the spawner that has been answered: the one open handle is its
input and is closed next; or none is open, and its input is the source of the clause, opened right
before the call and closed next, if no stage has been sent off yet, or a new pipe that is closed
next. -/
def WellFed (clause : Option Clause) (before : List Action) (answer : Action)
    (after : List Action) : Stdin → Prop
  | .inherited => False
  | .handoff number bytes =>
    openOutputs before = [(number, bytes)] ∧ after.head? = some (.closeStdout number)
  | .source _ _ =>
    openOutputs before = [] ∧ before.any Action.isDispatch = false ∧
      ∃ source more, clause = some ⟨.input, source :: more⟩ ∧
        before.getLast? = some (.openSource source true) ∧
        after.head? = some (.closeSource source)
  | .fed bytes =>
    openOutputs before = [] ∧ bytes = .empty ∧
      ∀ number process, answer = .started number process → process.hasInput = true →
        after.head? = some (.closeStdin number)

/-- What is owed at an action, given those before and after it. -/
def WellHandled (clause : Option Clause) (before : List Action) (a : Action)
    (after : List Action) : Prop :=
  match a with
  | .spawn _ stdin _ => ∃ answer later, after = answer :: later ∧ answer.isAnswer ∧
      WellFed clause before answer later stdin
  | .call _ _ => openOutputs before = []
  | _ => True

/-! ## Properties of every action in its place -/

/-- A property of an action and those before and after it holds all along some actions that come
after earlier ones. -/
def Throughout (P : List Action → Action → List Action → Prop) (earlier : List Action) :
    List Action → Prop
  | [] => True
  | a :: later => P earlier a later ∧ Throughout P (earlier ++ [a]) later

namespace Throughout
variable {P : List Action → Action → List Action → Prop} {earlier actions more : List Action}

lemma at_split {before after : List Action} {a : Action}
    (h : Throughout P earlier (before ++ a :: after)) : P (earlier ++ before) a after := by
  induction before generalizing earlier with
  | nil => simpa using h.1
  | cons b before ih => simpa using ih h.2

/-- What comes later cannot undo a property that later actions do not spoil. -/
lemma append (hmono : ∀ {before a after}, P before a after → P before a (after ++ more))
    (h : Throughout P earlier actions) (hmore : Throughout P (earlier ++ actions) more) :
    Throughout P earlier (actions ++ more) := by
  induction actions generalizing earlier with
  | nil => simpa using hmore
  | cons a later ih => exact ⟨hmono h.1, ih h.2 (by simpa using hmore)⟩

lemma of_forall (h : ∀ a ∈ actions, ∀ before after, P before a after) :
    Throughout P earlier actions := by
  induction actions generalizing earlier with
  | nil => trivial
  | cons a later ih =>
    exact ⟨h a List.mem_cons_self _ _, ih fun b hb => h b (List.mem_cons_of_mem _ hb)⟩

end Throughout

lemma WellFed.append {clause : Option Clause} {before after more : List Action} {answer : Action}
    {stdin : Stdin} (h : WellFed clause before answer after stdin) :
    WellFed clause before answer (after ++ more) stdin := by
  cases stdin with
  | inherited => exact h
  | handoff number bytes => exact ⟨h.1, List.mem_head?_append_of_mem_head? h.2⟩
  | source identity bytes =>
    obtain ⟨hopen, hfirst, source, rest, hclause, hlast, hclosed⟩ := h
    exact ⟨hopen, hfirst, source, rest, hclause, hlast, List.mem_head?_append_of_mem_head? hclosed⟩
  | fed bytes =>
    obtain ⟨hopen, hbytes, hclosed⟩ := h
    exact ⟨hopen, hbytes, fun number process hanswer hinput =>
      List.mem_head?_append_of_mem_head? (hclosed number process hanswer hinput)⟩

lemma WellHandled.append {clause : Option Clause} {before after more : List Action} {a : Action}
    (h : WellHandled clause before a after) : WellHandled clause before a (after ++ more) := by
  cases a with
  | spawn argv stdin started =>
    obtain ⟨answer, later, rfl, hanswer, hfed⟩ := h
    exact ⟨answer, later ++ more, rfl, hanswer, hfed.append⟩
  | _ => exact h

lemma WellHandled.of_not_isDispatch {clause : Option Clause} {a : Action}
    (h : a.isDispatch = false) (before after : List Action) :
    WellHandled clause before a after := by
  cases a with
  | spawn argv stdin started => cases h
  | call name args => cases h
  | _ => trivial

lemma openOutputs_append (earlier actions : List Action) :
    openOutputs (earlier ++ actions) = actions.foldl trackOutput (openOutputs earlier) :=
  List.foldl_append

/-! ## One stage -/

/-- The handles that are left open where a chain stands or has halted. -/
def leftOpen : Except (Outcome × Run) Chain → List (Nat × ByteArray)
  | .ok c => c.pending.toList
  | .error _ => []

/-- What is known before a stage is sent off: the one handle that is open, and that a stage with a
source is the first. -/
structure Chain.InOrder (clause : Option Clause) (c : Chain) (source : Option Path)
    (earlier : List Action) : Prop where
  openOutputs_eq : openOutputs earlier = c.pending.toList
  first : ∀ path ∈ source, earlier.any Action.isDispatch = false ∧
    ∃ more, clause = some ⟨.input, path :: more⟩

section
variable {reg : Registry Handler} {spawner : Spawner} {clause : Option Clause} {c : Chain}
  {source : Option Path} {earlier actions : List Action} {stage : Stage}
  {result : Except (Outcome × Run) Chain}

/-- A handle that nobody will read is closed before the builtin is called. -/
lemma callActions_handled (hopen : openOutputs earlier = c.pending.toList) (ended : HandlerEnd) :
    Throughout (WellHandled clause) earlier (callActions c.pending stage ended) ∧
      openOutputs (earlier ++ callActions c.pending stage ended) = [] := by
  generalize c.pending = pending at hopen
  cases pending <;>
    simp [callActions, closePending, Throughout, WellHandled, openOutputs_append, hopen]

/-- The handle that comes with an answer of the spawner. -/
def handleOf : Except SpawnFault (Nat × Process) → List (Nat × ByteArray)
  | .ok (number, ⟨some bytes, _, _, _⟩) => [(number, bytes)]
  | _ => []

lemma spawnActions_eq (argv : List String) (stdin : Stdin)
    (answer : Except SpawnFault (Nat × Process)) :
    ∃ started given, spawnActions argv stdin answer = [.spawn argv stdin started, given] ∧
      given.isAnswer ∧ (∀ opened, trackOutput opened given = opened ++ handleOf answer) ∧
      ∀ number process, given = .started number process → answer = .ok (number, process) := by
  match answer with
  | .error fault =>
    exact ⟨none, .notStarted fault, rfl, rfl, fun opened => (List.append_nil opened).symm,
      fun _ _ h => Action.noConfusion h⟩
  | .ok (number, ⟨none, collects, hasInput, status⟩) =>
    refine ⟨some number, .started number ⟨none, collects, hasInput, status⟩, rfl, rfl,
      fun opened => (List.append_nil opened).symm, ?_⟩
    rintro _ _ ⟨⟩
    rfl
  | .ok (number, ⟨some bytes, collects, hasInput, status⟩) =>
    refine ⟨some number, .started number ⟨some bytes, collects, hasInput, status⟩, rfl, rfl,
      fun opened => rfl, ?_⟩
    rintro _ _ ⟨⟩
    rfl

/-- A call of the spawner is handled if its input is what it should be. -/
lemma throughout_call {argv : List String} {stdin : Stdin} {started : Option Nat} {given : Action}
    {closing : List Action} (hanswer : given.isAnswer)
    (hclosing : ∀ a ∈ closing, a.isDispatch = false)
    (hfed : WellFed clause earlier given closing stdin) :
    Throughout (WellHandled clause) earlier (.spawn argv stdin started :: given :: closing) := by
  have hgiven : given.isDispatch = false := by
    cases given with
    | started number process => rfl
    | notStarted fault => rfl
    | _ => cases hanswer
  refine ⟨⟨given, closing, rfl, hanswer, hfed⟩, WellHandled.of_not_isDispatch hgiven _ _, ?_⟩
  exact .of_forall fun a ha => WellHandled.of_not_isDispatch (hclosing a ha)

/-- After a call of the spawner no handle is left but that of the program it has started. -/
lemma Wiring.actions_handled {w : World} {wiring : Wiring}
    (hwired : Wired w c.pending source wiring) (horder : c.InOrder clause source earlier)
    (argv : List String) (answer : Except SpawnFault (Nat × Process)) :
    Throughout (WellHandled clause) earlier (wiring.actions argv answer) ∧
      openOutputs (earlier ++ wiring.actions argv answer) = handleOf answer := by
  -- The new handle is added behind the old one, so closing the old one leaves the new one.
  have hopen := horder.openOutputs_eq
  obtain ⟨started, given, hspawn, hanswer, htrack, hgiven⟩ :=
    spawnActions_eq argv wiring.stdin answer
  rw [Wiring.actions, hspawn]
  generalize c.pending = pending at hwired hopen
  cases hwired with
  | handoff number bytes =>
    rw [Option.toList_some] at hopen
    constructor
    · exact throughout_call hanswer (by simp [Wiring.closing, Action.isDispatch]) ⟨hopen, rfl⟩
    · simp [Wiring.opening, Wiring.closing, openOutputs_append, hopen, htrack]
  | source hread =>
    rename_i path bytes
    rw [Option.toList_none] at hopen
    obtain ⟨hfirst, more, hclause⟩ := horder.first path rfl
    constructor
    · refine ⟨trivial, throughout_call hanswer (by simp [Wiring.closing, Action.isDispatch]) ?_⟩
      refine ⟨?_, ?_, path, more, hclause, List.getLast?_concat, rfl⟩
      · simp [openOutputs_append, hopen]
      · rw [List.any_append, hfirst]
        rfl
    · simp [Wiring.opening, Wiring.closing, openOutputs_append, hopen, htrack]
  | fresh =>
    rw [Option.toList_none] at hopen
    have hclosing : (∀ a ∈ Wiring.fresh.closing answer, a.isDispatch = false) ∧
        ∀ opened, (Wiring.fresh.closing answer).foldl trackOutput opened = opened := by
      obtain hnil | ⟨number, hclose⟩ := Wiring.closing_fresh answer
      · simp [hnil]
      · simp [hclose, Action.isDispatch]
    constructor
    · refine throughout_call hanswer hclosing.1 ⟨hopen, rfl, ?_⟩
      intro number process hstarted hinput
      rw [hgiven number process hstarted]
      simp [Wiring.closing, hinput]
    · simp [Wiring.opening, openOutputs_append, hopen, htrack, hclosing.2]

/-- Sending a stage off keeps what is owed, and leaves open what the chain knows to be open. -/
theorem Chain.Step.handled (h : Chain.Step reg spawner c source stage actions result)
    (horder : c.InOrder clause source earlier) :
    Throughout (WellHandled clause) earlier actions ∧
      openOutputs (earlier ++ actions) = leftOpen result := by
  cases h with
  | called => exact callActions_handled horder.openOutputs_eq _
  | left => exact callActions_handled horder.openOutputs_eq _
  | unopened hprogram hpending =>
    have hopen := horder.openOutputs_eq
    rw [hpending, Option.toList_none] at hopen
    simp [Throughout, WellHandled, openOutputs_append, hopen, leftOpen]
  | @started wiring process w hprogram hwired hspawn =>
    obtain ⟨hthroughout, hopen⟩ := Wiring.actions_handled hwired horder
      (reg.argv stage.command stage.args) (.ok (c.run.started, process))
    refine ⟨hthroughout, hopen.trans ?_⟩
    obtain ⟨output, collects, hasInput, status⟩ := process
    cases output <;> rfl
  | notStarted hprogram hwired =>
    exact Wiring.actions_handled hwired horder _ _

/-- So does sending off stage after stage. -/
theorem Chain.Steps.handled {stages : List Stage}
    (h : Chain.Steps reg spawner c source stages actions result)
    (horder : c.InOrder clause source earlier) :
    Throughout (WellHandled clause) earlier actions ∧
      openOutputs (earlier ++ actions) = leftOpen result := by
  induction h generalizing earlier with
  | nil => exact ⟨trivial, by simpa [leftOpen] using horder.openOutputs_eq⟩
  | halt hstep => exact hstep.handled horder
  | step hstep hrest ih =>
    obtain ⟨hthroughout, hopen⟩ := hstep.handled horder
    obtain ⟨hmore, hleft⟩ := ih ⟨hopen, by simp⟩
    exact ⟨hthroughout.append WellHandled.append hmore, by rw [← List.append_assoc, hleft]⟩

end

/-! ## The whole chain -/

section
variable {clause : Option Clause}

lemma foldl_trackOutput_wait (numbers : List Nat) (opened : List (Nat × ByteArray)) :
    (numbers.map Action.wait).foldl trackOutput opened = opened := by
  induction numbers with
  | nil => rfl
  | cons number numbers ih => simpa using ih

lemma Chain.reaping_handled (clause : Option Clause) {c : Chain} {earlier : List Action}
    (hopen : openOutputs earlier = c.pending.toList) :
    Throughout (WellHandled clause) earlier c.reaping ∧
      openOutputs (earlier ++ c.reaping) = [] := by
  obtain ⟨r, messages, started, previous⟩ := c
  constructor
  · refine .of_forall fun a ha => WellHandled.of_not_isDispatch ?_
    rw [reaping, List.mem_append, List.mem_map] at ha
    obtain hdrain | ⟨number, -, rfl⟩ := ha
    · obtain _ | ⟨number, _ | bytes, hasInput, status⟩ := previous
      · cases hdrain
      · obtain rfl := List.mem_singleton.1 hdrain
        rfl
      · simp only [draining, List.mem_cons, List.not_mem_nil, or_false] at hdrain
        obtain rfl | rfl | rfl := hdrain <;> rfl
    · rfl
  · rw [openOutputs_append, hopen, reaping, List.foldl_append, foldl_trackOutput_wait]
    obtain _ | ⟨number, _ | bytes, hasInput, status⟩ := previous
    · rfl
    · rfl
    · simp [draining, pending]

lemma openOutputs_delivery {earlier delivery : List Action}
    (h : ∀ a ∈ delivery, a.IsDelivery) :
    openOutputs (earlier ++ delivery) = openOutputs earlier := by
  rw [openOutputs_append]
  refine List.foldlRecOn (motive := (· = openOutputs earlier)) delivery trackOutput rfl ?_
  intro opened hopened a ha
  cases h a ha <;> exact hopened

variable {reg : Registry Handler} {spawner : Spawner} {first : Stage} {rest : List Stage}
  {r : Run} {actions earlier : List Action}

lemma Noticed.handled {w : World} {source : Option Path} {opening : List Action}
    {notices : List String} (hnoticed : Noticed reg first w source opening notices)
    (hsource : inputSource clause = .ok source)
    (hopen : openOutputs earlier = []) (hearlier : earlier.any Action.isDispatch = false) :
    Throughout (WellHandled clause) earlier opening ∧
      Chain.InOrder clause ⟨r.logAll opening, notices, [], none⟩ source (earlier ++ opening) := by
  have hquiet : (∀ a ∈ opening, a.isDispatch = false) ∧
      ∀ opened, opening.foldl trackOutput opened = opened := by
    cases hnoticed <;> simp [Action.isDispatch]
  refine ⟨.of_forall fun a ha => WellHandled.of_not_isDispatch (hquiet.1 a ha), ?_, ?_⟩
  · rw [openOutputs_append, hquiet.2, hopen]
    rfl
  · rintro path rfl
    obtain ⟨_, more, ⟨⟩, hclause⟩ | ⟨⟨⟩, -⟩ := inputSource_eq_ok hsource
    refine ⟨?_, more, hclause⟩
    rw [List.any_append, hearlier, Bool.false_or, List.any_eq_false]
    intro a ha
    rw [hquiet.1 a ha]
    exact Bool.false_ne_true

/-- A chain that starts with no handle open ends with none. -/
theorem ChainCourse.handled {ended : Outcome × Run}
    (h : ChainCourse reg spawner first rest clause r actions ended)
    (hopen : openOutputs earlier = []) (hearlier : earlier.any Action.isDispatch = false) :
    Throughout (WellHandled clause) earlier actions ∧ openOutputs (earlier ++ actions) = [] := by
  cases h with
  | sourceless => exact ⟨trivial, by simpa using hopen⟩
  | unreadable => exact ⟨⟨trivial, trivial⟩, by simp [openOutputs_append, hopen]⟩
  | halted hsource hnoticed hsteps =>
    obtain ⟨hopening, horder⟩ := hnoticed.handled (r := r) hsource hopen hearlier
    obtain ⟨hthroughout, hleft⟩ := hsteps.handled horder
    exact ⟨hopening.append WellHandled.append hthroughout, by rw [← List.append_assoc, hleft]; rfl⟩
  | finished hsource hnoticed hsteps hdelivery htrace =>
    obtain ⟨hopening, horder⟩ := hnoticed.handled (r := r) hsource hopen hearlier
    obtain ⟨hthroughout, hleft⟩ := hsteps.handled horder
    obtain ⟨hreaping, hclosed⟩ := Chain.reaping_handled clause hleft
    constructor
    · have hdispatched := hopening.append WellHandled.append hthroughout
      rw [List.append_assoc] at hreaping
      refine (hdispatched.append WellHandled.append hreaping).append WellHandled.append ?_
      refine .of_forall fun a ha => WellHandled.of_not_isDispatch ?_
      cases hdelivery a ha <;> rfl
    · simp only [← List.append_assoc]
      rw [openOutputs_delivery hdelivery, hclosed]

end

/-- The discipline of handles in chains: at every call of the spawner at most one handle is open and
it is the input of that call, no program reads what the shell reads, whatever was opened for a call
is closed next, nothing is open when a builtin is called, and nothing is left open in the end. -/
theorem chain_closes_outputs (reg : Registry Handler) (spawner : Spawner) (p : Pipeline)
    (hchain : 2 ≤ p.stages.length) (r : Run) :
    (∀ before a after, actionsOf reg spawner p r = before ++ a :: after →
      WellHandled p.clause before a after) ∧
    openOutputs (actionsOf reg spawner p r) = [] := by
  obtain ⟨first, rest, -, hrun⟩ := execute_of_two_le reg spawner hchain r
  obtain ⟨actions, hcourse⟩ :=
    runChain_course reg spawner first rest p.clause (r.log (.execute p.stages))
  have htrace := hcourse.trace
  rw [← hrun, Run.log_trace, List.append_assoc] at htrace
  rw [actionsOf_eq reg spawner htrace]
  have hstart : openOutputs [.execute p.stages] = [] := rfl
  obtain ⟨hthroughout, hclosed⟩ := hcourse.handled hstart rfl
  refine ⟨fun before a after hactions => ?_, hclosed⟩
  have hall : Throughout (WellHandled p.clause) [] (.execute p.stages :: actions) :=
    ⟨trivial, hthroughout⟩
  rw [← List.singleton_append, hactions] at hall
  exact hall.at_split

/-- A builtin that leaves does not leave the handle of the program before it open. -/
theorem chain_closes_outputs_leaving :
    let reg : Registry Handler := ⟨[("exit", fun _ w => (.left (.exit 0), w))], [], []⟩
    let spawner : Spawner := fun _ _ w => (.ok (.writing .empty true 0), w)
    let p : Pipeline := ⟨[⟨"yes", [], none⟩, ⟨"exit", [], none⟩], by decide⟩
    let r := Run.begin (.ofEntries [])
    2 ≤ p.stages.length ∧
      (∀ before a after, actionsOf reg spawner p r = before ++ a :: after →
        WellHandled p.clause before a after) ∧
      openOutputs (actionsOf reg spawner p r) = [] :=
  ⟨by decide, chain_closes_outputs _ _ _ (by decide) _⟩

end CommandShell
