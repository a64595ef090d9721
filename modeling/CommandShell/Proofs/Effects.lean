import CommandShell.Proofs.Handles
import Mathlib.Data.List.Forall2

/-!
# What programs and builtins do

Until its output is delivered, a run changes the world only through the programs that it starts and
the builtins that it calls, and each of them meets the world as those before it have left it. What
the shell does besides is about handles and waiting, and changes nothing.
-/
namespace CommandShell

namespace Action

/-- Whether an action is about handles and waiting alone. -/
@[simp] def isHandling : Action → Bool
  | .execute _ => true
  | .openSource .. => true
  | .closeSource _ => true
  | .closeStdin _ => true
  | .closeStdout _ => true
  | .readStdout _ => true
  | .wait _ => true
  | .communicate .. => true
  | .uncollected _ => true
  | _ => false

/-- Whether an action is a failure after which a run does not go on. -/
@[simp] def isFailure : Action → Bool
  | .openSource _ opened => !opened
  | .notStarted _ => true
  | .returned (.left _) => true
  | .uncollected _ => true
  | _ => false

/-- Whether an action sends a stage off or says that its program has started. -/
@[simp] def isSending : Action → Bool
  | .spawn .. => true
  | .started .. => true
  | .call .. => true
  | _ => false

lemma isSending_of_isHandling {a : Action} (h : a.isHandling = true) : a.isSending = false := by
  cases a with
  | spawn | started | call => cases h
  | _ => rfl

lemma IsDelivery.isSending {a : Action} (h : a.IsDelivery) : a.isSending = false := by
  cases h <;> rfl

lemma IsDelivery.isFailure {a : Action} (h : a.IsDelivery) : a.isFailure = false := by
  cases h <;> rfl

/-- An action that reports the reply of a spawner. -/
def Reports (reply : Except SpawnFault Process) : Action → Prop
  | .started _ process => reply = .ok process
  | .notStarted fault => reply = .error fault
  | _ => False

end Action

/-! ## What is written -/

/-- What the last stage wrote, after one more action. -/
def trackLast (last : ByteArray) : Action → ByteArray
  | .started _ process => process.output.getD .empty
  | .call .. => .empty
  | _ => last

/-- What the last of the stages wrote that have been sent off. -/
def lastOutput (actions : List Action) : ByteArray := actions.foldl trackLast .empty

section
variable (reg : Registry Handler) (spawner : Spawner)

/-! ## The world of programs and builtins -/

/-- The world after an action, when only programs and builtins change it. -/
def changed (w : World) : Action → World
  | .spawn argv stdin _ => (spawner argv stdin w).2
  | .call name args =>
    match reg.builtin? name with
    | some handler => (handler (args.map Path.ofString) w).2
    | none => w
  | _ => w

/-- The world after some actions, when only programs and builtins change it. -/
def worldLeft (w : World) (actions : List Action) : World := actions.foldl (changed reg spawner) w

/-- Programs and builtins answer for a given world. -/
def Answered (w : World) (a : Action) (later : List Action) : Prop :=
  match a with
  | .spawn argv stdin _ =>
    ∃ answer, later.head? = some answer ∧ answer.Reports (spawner argv stdin w).1
  | .call name args => ∃ handler, reg.builtin? name = some handler ∧
    later.head? = some (.returned (handler (args.map Path.ofString) w).1)
  | _ => True

/-- Actions without delivery that lead from one world to another: only programs and builtins change
it, and they answer for the world that those before them have left. -/
structure Leads (w : World) (actions : List Action) (w' : World) : Prop where
  quiet : ∀ a ∈ actions, ¬ a.IsDelivery
  world : w' = worldLeft reg spawner w actions
  answered : Throughout (fun before => Answered reg spawner (worldLeft reg spawner w before)) []
    actions

variable {reg spawner}

lemma worldLeft_append (w : World) (actions more : List Action) :
    worldLeft reg spawner w (actions ++ more) =
      worldLeft reg spawner (worldLeft reg spawner w actions) more :=
  List.foldl_append

lemma Answered.append {w : World} {a : Action} {later more : List Action}
    (h : Answered reg spawner w a later) : Answered reg spawner w a (later ++ more) := by
  cases a with
  | spawn argv stdin started =>
    obtain ⟨answer, hanswer, hreports⟩ := h
    exact ⟨answer, List.mem_head?_append_of_mem_head? hanswer, hreports⟩
  | call name args =>
    obtain ⟨handler, hbuiltin, hreturned⟩ := h
    exact ⟨handler, hbuiltin, List.mem_head?_append_of_mem_head? hreturned⟩
  | _ => trivial

lemma Answered.of_idle {w : World} {a : Action} (h : a.isSending = false) (later : List Action) :
    Answered reg spawner w a later := by
  cases a with
  | spawn | call => cases h
  | _ => trivial

section
variable {actions : List Action} (h : ∀ a ∈ actions, a.isSending = false)
include h

lemma filter_isDispatch_of_idle : actions.filter Action.isDispatch = [] := by
  rw [List.filter_eq_nil_iff]
  intro a ha
  cases a with
  | spawn | call => cases h _ ha
  | _ => exact Bool.false_ne_true

lemma foldl_trackLast_of_idle (last : ByteArray) : actions.foldl trackLast last = last := by
  refine List.foldlRecOn (motive := (· = last)) actions trackLast rfl ?_
  intro _ hlast a ha
  cases a with
  | started | call => cases h _ ha
  | _ => exact hlast

lemma lastOutput_append_of_idle (before : List Action) :
    lastOutput (before ++ actions) = lastOutput before := by
  rw [lastOutput, List.foldl_append, foldl_trackLast_of_idle h]
  rfl

lemma not_started_of_idle {number : Nat} {process : Process} :
    .started number process ∉ actions := fun hstarted => Bool.noConfusion (h _ hstarted)

lemma worldLeft_of_idle (w : World) : worldLeft reg spawner w actions = w := by
  refine List.foldlRecOn (motive := (· = w)) actions (changed reg spawner) rfl ?_
  intro v hv a ha
  cases a with
  | spawn | call => cases h _ ha
  | _ => exact hv

end

/-- What holds all along some actions also holds behind other ones that it takes into account. -/
lemma Throughout.behind {P Q : List Action → Action → List Action → Prop}
    {ahead earlier actions : List Action}
    (hpq : ∀ {before a after}, P before a after → Q (ahead ++ before) a after)
    (h : Throughout P earlier actions) : Throughout Q (ahead ++ earlier) actions := by
  induction actions generalizing earlier with
  | nil => trivial
  | cons a later ih =>
    have hlater := ih h.2
    rw [← List.append_assoc] at hlater
    exact ⟨hpq h.1, hlater⟩

namespace Leads
variable {w w' w'' : World} {actions more : List Action}

lemma append (h : Leads reg spawner w actions w') (hmore : Leads reg spawner w' more w'') :
    Leads reg spawner w (actions ++ more) w'' where
  quiet a ha := (List.mem_append.1 ha).elim (h.quiet a) (hmore.quiet a)
  world := by rw [worldLeft_append, ← h.world, hmore.world]
  answered := by
    refine h.answered.append Answered.append ?_
    rw [List.nil_append, ← List.append_nil actions]
    refine hmore.answered.behind fun {before a after} hanswered => ?_
    rwa [worldLeft_append, ← h.world]

lemma of_handling (h : ∀ a ∈ actions, a.isHandling = true) : Leads reg spawner w actions w where
  quiet a ha hdelivery := by cases hdelivery <;> cases h _ ha
  world := (worldLeft_of_idle (fun a ha => Action.isSending_of_isHandling (h a ha)) w).symm
  answered := .of_forall fun a ha before after =>
    .of_idle (Action.isSending_of_isHandling (h a ha)) after

lemma of_call {name : String} {args : List String} {handler : Handler} {ended : HandlerEnd}
    (hbuiltin : reg.builtin? name = some handler)
    (hcall : handler (args.map Path.ofString) w = (ended, w')) :
    Leads reg spawner w [.call name args, .returned ended] w' where
  quiet a ha hdelivery := by
    simp only [List.mem_cons, List.not_mem_nil, or_false] at ha
    obtain rfl | rfl := ha <;> cases hdelivery
  world := by simp [worldLeft, changed, hbuiltin, hcall]
  answered := ⟨⟨handler, hbuiltin, by simp [worldLeft, hcall]⟩, trivial, trivial⟩

lemma of_spawn {argv : List String} {stdin : Stdin} {answer : Except SpawnFault (Nat × Process)}
    (hspawn : spawner argv stdin w = (answer.map Prod.snd, w')) :
    Leads reg spawner w (spawnActions argv stdin answer) w' := by
  have hreply : (spawner argv stdin w).1 = answer.map Prod.snd := by rw [hspawn]
  have hworld : (spawner argv stdin w).2 = w' := by rw [hspawn]
  cases answer with
  | ok started =>
    exact ⟨by rintro a ha ⟨⟩ <;> simp [spawnActions] at ha, hworld.symm,
      ⟨_, rfl, hreply⟩, trivial, trivial⟩
  | error fault =>
    exact ⟨by rintro a ha ⟨⟩ <;> simp [spawnActions] at ha, hworld.symm,
      ⟨_, rfl, hreply⟩, trivial, trivial⟩

end Leads

end

/-! ## Handling -/

def HandlesWithoutFailure (actions : List Action) : Prop :=
  ∀ a ∈ actions, a.isHandling = true ∧ a.isFailure = false

section
variable {actions : List Action}

lemma HandlesWithoutFailure.isHandling (h : HandlesWithoutFailure actions) :
    ∀ a ∈ actions, a.isHandling = true :=
  fun a ha => (h a ha).1

lemma HandlesWithoutFailure.nil : HandlesWithoutFailure [] := by simp [HandlesWithoutFailure]

/-- Actions among which no stage is sent off and nothing fails. -/
def NeitherSendsNorFails (actions : List Action) : Prop :=
  ∀ a ∈ actions, a.isSending = false ∧ a.isFailure = false

lemma NeitherSendsNorFails.isSending (h : NeitherSendsNorFails actions) :
    ∀ a ∈ actions, a.isSending = false :=
  fun a ha => (h a ha).1

lemma NeitherSendsNorFails.isFailure (h : NeitherSendsNorFails actions) :
    ∀ a ∈ actions, a.isFailure = false :=
  fun a ha => (h a ha).2

lemma HandlesWithoutFailure.neither (h : HandlesWithoutFailure actions) :
    NeitherSendsNorFails actions :=
  fun a ha => ⟨Action.isSending_of_isHandling (h a ha).1, (h a ha).2⟩

lemma neither_of_delivery (h : ∀ a ∈ actions, a.IsDelivery) : NeitherSendsNorFails actions :=
  fun a ha => ⟨(h a ha).isSending, (h a ha).isFailure⟩

/-- There is no failure in a call of a builtin that comes back. -/
lemma not_isFailure_of_call {name : String} {args : List String} {ended : HandlerEnd}
    (hback : ∀ e, ended ≠ .left e) :
    ∀ a ∈ [Action.call name args, .returned ended], a.isFailure = false := by
  intro a ha
  simp only [List.mem_cons, List.not_mem_nil, or_false] at ha
  obtain rfl | rfl := ha
  · rfl
  · cases ended with
    | left e => exact absurd rfl (hback e)
    | _ => rfl

end

lemma Wiring.opening_handles (wiring : Wiring) : HandlesWithoutFailure wiring.opening := by
  cases wiring <;> simp [opening, HandlesWithoutFailure, Action.isHandling, Action.isFailure]

lemma Wiring.closing_handles (wiring : Wiring) (answer : Except SpawnFault (Nat × Process)) :
    HandlesWithoutFailure (wiring.closing answer) := by
  cases wiring with
  | fresh =>
    obtain hnil | ⟨number, hclose⟩ := Wiring.closing_fresh answer
    · rw [hnil]
      exact HandlesWithoutFailure.nil
    · simp [hclose, HandlesWithoutFailure, Action.isHandling, Action.isFailure]
  | _ => simp [closing, HandlesWithoutFailure, Action.isHandling, Action.isFailure]

lemma closePending_handles (pending : Option (Nat × ByteArray)) :
    HandlesWithoutFailure (closePending pending) := by
  cases pending <;> simp [closePending, HandlesWithoutFailure, Action.isHandling, Action.isFailure]

lemma Chain.draining_handles (c : Chain) : HandlesWithoutFailure c.draining := by
  obtain ⟨r, messages, started, previous⟩ := c
  obtain _ | ⟨number, _ | bytes, hasInput, status⟩ := previous <;>
    simp [draining, HandlesWithoutFailure, Action.isHandling, Action.isFailure]

lemma Chain.reaping_handles (c : Chain) : HandlesWithoutFailure c.reaping := by
  intro a ha
  obtain hdrain | hwait := List.mem_append.1 ha
  · exact c.draining_handles a hdrain
  · obtain ⟨number, -, rfl⟩ := List.mem_map.1 hwait
    exact ⟨rfl, rfl⟩

lemma Chain.wait_mem_reaping {c : Chain} {number : Nat} (h : number ∈ c.started) :
    .wait number ∈ c.reaping := by
  obtain ⟨r, messages, started, previous⟩ := c
  obtain _ | ⟨last, _ | bytes, hasInput, status⟩ := previous
  · simpa [reaping, draining, waited] using h
  all_goals
    by_cases hlast : number = last
    · simp [reaping, draining, hlast]
    · simpa [reaping, draining, waited, hlast] using h

lemma Noticed.handles {reg : Registry Handler} {first : Stage} {w : World} {source : Option Path}
    {opening : List Action} {notices : List String}
    (h : Noticed reg first w source opening notices) : HandlesWithoutFailure opening := by
  cases h <;> simp [HandlesWithoutFailure, Action.isHandling, Action.isFailure]

lemma Fed.handles {clause : Option Clause} {w : World} {stdin : Stdin} {opening : List Action}
    (h : Fed clause w stdin opening) : HandlesWithoutFailure opening := by
  cases h <;> simp [HandlesWithoutFailure, Action.isHandling, Action.isFailure]

/-! ## Sending off stages -/

/-- The action that sends a stage off. -/
def Dispatches (reg : Registry Handler) (stage : Stage) : Action → Prop
  | .spawn argv _ started => reg.builtin? stage.command = none ∧
      argv = reg.argv stage.command stage.args ∧ started.isSome = true
  | .call name args =>
      reg.isBuiltin stage.command = true ∧ name = stage.command ∧ args = stage.args
  | _ => False

section
variable {reg : Registry Handler} {spawner : Spawner} {c d : Chain} {source : Option Path}
  {stage : Stage} {stages : List Stage} {actions more : List Action}
  {result : Except (Outcome × Run) Chain} {w w' : World}

lemma Wiring.leads {wiring : Wiring} {argv : List String}
    {answer : Except SpawnFault (Nat × Process)}
    (h : spawner argv wiring.stdin w = (answer.map Prod.snd, w')) :
    Leads reg spawner w (wiring.actions argv answer) w' :=
  ((Leads.of_handling wiring.opening_handles.isHandling).append (.of_spawn h)).append
    (.of_handling (wiring.closing_handles answer).isHandling)

lemma callActions_leads {handler : Handler} {ended : HandlerEnd}
    (hbuiltin : reg.builtin? stage.command = some handler)
    (hcall : handler (stage.args.map Path.ofString) w = (ended, w'))
    (pending : Option (Nat × ByteArray)) :
    Leads reg spawner w (callActions pending stage ended) w' :=
  (Leads.of_handling (closePending_handles pending).isHandling).append (.of_call hbuiltin hcall)

/-- Sending a stage off leads to where the chain stands or has halted. -/
theorem Chain.Step.leads (h : Chain.Step reg spawner c source stage actions result) :
    Leads reg spawner c.run.world actions (reached result).world := by
  cases h with
  | called hbuiltin hcall => exact callActions_leads hbuiltin hcall _
  | left hbuiltin hcall => exact callActions_leads hbuiltin hcall _
  | unopened => exact .of_handling (by simp [Action.isHandling])
  | started _ _ hspawn => exact Wiring.leads hspawn
  | notStarted _ _ hspawn => exact Wiring.leads hspawn

theorem Chain.Steps.leads (h : Chain.Steps reg spawner c source stages actions result) :
    Leads reg spawner c.run.world actions (reached result).world := by
  induction h with
  | nil => exact .of_handling (by simp)
  | halt hstep => exact hstep.leads
  | step hstep hrest ih => exact hstep.leads.append ih

lemma isBuiltin_of_eq {name : String} {handler : Handler} (h : reg.builtin? name = some handler) :
    reg.isBuiltin name = true := by
  rw [Registry.isBuiltin, h]
  rfl

lemma isBuiltin_of_eq_none {name : String} (h : reg.builtin? name = none) :
    reg.isBuiltin name = false := by
  rw [Registry.isBuiltin, h]
  rfl

/-- From the look at the source to the last wait, a chain leads where its stages lead. -/
lemma Chain.Steps.leads_reaped {first : Stage} {rest : List Stage} {r : Run}
    {opening : List Action} {notices : List String}
    (h : Chain.Steps reg spawner ⟨r.logAll opening, notices, [], none⟩ source (first :: rest)
      actions (.ok c)) (hnoticed : Noticed reg first r.world source opening notices) :
    Leads reg spawner r.world (opening ++ actions ++ c.reaping) c.run.world :=
  ((Leads.of_handling hnoticed.handles.isHandling).append h.leads).append
    (.of_handling c.reaping_handles.isHandling)

/-- Stages have been sent off one after the other, and what that has come to. -/
structure Chain.Sent (reg : Registry Handler) (c d : Chain) (stages : List Stage)
    (actions : List Action) : Prop where
  dispatched : List.Forall₂ (Dispatches reg) stages (actions.filter Action.isDispatch)
  faultless : ∀ a ∈ actions, a.isFailure = false
  kept : c.started ⊆ d.started
  listed : ∀ number process, .started number process ∈ actions → number ∈ d.started
  output : d.output.1 = actions.foldl trackLast c.output.1

lemma Chain.Sent.of_neither (h : NeitherSendsNorFails actions) (c : Chain) :
    c.Sent reg c [] actions where
  dispatched := by
    rw [filter_isDispatch_of_idle h.isSending]
    exact .nil
  faultless := h.isFailure
  kept := List.Subset.refl _
  listed number process hstarted := absurd hstarted (not_started_of_idle h.isSending)
  output := (foldl_trackLast_of_idle h.isSending _).symm

lemma Chain.Sent.trans {e : Chain} {rest : List Stage} (h : c.Sent reg d stages actions)
    (hrest : d.Sent reg e rest more) : c.Sent reg e (stages ++ rest) (actions ++ more) where
  dispatched := by
    rw [List.filter_append]
    exact List.rel_append h.dispatched hrest.dispatched
  faultless a ha := (List.mem_append.1 ha).elim (h.faultless a) (hrest.faultless a)
  kept := List.Subset.trans h.kept hrest.kept
  listed number process ha := (List.mem_append.1 ha).elim
    (fun ha => hrest.kept (h.listed number process ha)) (hrest.listed number process)
  output := by rw [List.foldl_append, ← h.output, hrest.output]

lemma Chain.Sent.between {first later : List Action} (hfirst : NeitherSendsNorFails first)
    (h : c.Sent reg d stages actions) (hlater : NeitherSendsNorFails later) :
    c.Sent reg d stages (first ++ actions ++ later) := by
  simpa using ((of_neither hfirst c).trans h).trans (of_neither hlater d)

/-- A chain that goes on has sent its stage off. -/
theorem Chain.Step.sent (h : Chain.Step reg spawner c source stage actions (.ok d)) :
    c.Sent reg d [stage] actions := by
  cases h with
  | @called handler ended w hbuiltin hcall hback =>
    refine (Chain.Sent.of_neither (closePending_handles c.pending).neither c).trans
      ⟨.cons ⟨isBuiltin_of_eq hbuiltin, rfl, rfl⟩ .nil, not_isFailure_of_call hback,
        List.Subset.refl _, by simp, rfl⟩
  | @started wiring process w hprogram hwired hspawn =>
    refine .between wiring.opening_handles.neither ?_ (wiring.closing_handles _).neither
    exact ⟨.cons ⟨hprogram, rfl, rfl⟩ .nil, by simp [spawnActions, Action.isFailure],
      List.subset_append_left _ _, by simp +contextual [spawnActions], rfl⟩

theorem Chain.Steps.sent (h : Chain.Steps reg spawner c source stages actions result)
    (hok : result = .ok d) : c.Sent reg d stages actions := by
  induction h with
  | nil =>
    cases hok
    exact .of_neither HandlesWithoutFailure.nil.neither _
  | halt => cases hok
  | step hstep hrest ih => exact hstep.sent.trans (ih hok)

variable {r r' : Run} {before : List Action} {came : ByteArray × Int} {messages : List String}

lemma ComesTo.leads (h : ComesTo reg spawner stage r before came messages r') :
    Leads reg spawner r.world before r'.world := by
  cases h with
  | called hsource hnoticed hbuiltin hcall =>
    exact (Leads.of_handling hnoticed.handles.isHandling).append (.of_call hbuiltin hcall)
  | collected hfed hprogram hspawn =>
    exact ((Leads.of_handling hfed.handles.isHandling).append (.of_spawn hspawn)).append
      (.of_handling (by simp [Action.isHandling]))

lemma ComesTo.lastOutput_eq (h : ComesTo reg spawner stage r before came messages r') :
    lastOutput before = came.1 := by
  cases h with
  | called =>
    rw [lastOutput, List.foldl_append]
    rfl
  | collected =>
    rw [lastOutput, List.foldl_append, List.foldl_append]
    rfl

end

end CommandShell
