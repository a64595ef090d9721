import CommandShell.Programs.Standard
import CommandShell.Proofs.Endings
import CommandShell.Proofs.Planning
import CommandShell.Shell

/-!
# What gets out of a line

A line either gives a result or is left. On a host that fails only with errors of its own, a shell
with the usual builtins is left in two ways. One is meant: the builtin that leaves was called. The
other is a null character in the line or in what an alias stands for: no host takes it in a word of
a program or in the path of a file, and of the places where it is found out none turns it into a
message.
-/
namespace CommandShell
open Text

/-! ## Null characters -/

/-- A text with the character that no host takes. -/
def HoldsNull (s : String) : Prop := '\x00' ∈ s.toList

lemma HoldsNull.of_mem_words {s word : String} (h : word ∈ words s) (hnull : HoldsNull word) :
    HoldsNull s := by
  obtain ⟨run, hrun, rfl⟩ := List.mem_map.1 h
  have hpiece : run ∈ cut isBlank s.toList := (List.mem_filter.1 hrun).1
  rw [HoldsNull, String.toList_ofList] at hnull
  exact (sublist_of_mem_cut hpiece).subset hnull

lemma HoldsNull.of_hasNull {s : String} (h : (Path.ofString s).hasNull = true) : HoldsNull s := by
  obtain ⟨part, hpart, hnull⟩ := List.any_eq_true.1 h
  obtain ⟨piece, hpiece, rfl⟩ := List.mem_map.1 (List.mem_filter.1 hpart).1
  exact (sublist_of_mem_cut hpiece).subset (by simpa using hnull)

/-! ## Hosts -/

/-- A host fails with errors of its own, or because a word holds a null character. A program that it
starts has the output handle that the shell asks for. -/
structure Starter.IsHost (start : Starter) : Prop where
  faults (program : String) (args : List String) (stdin : Stdin) (w : World) (e : Escape)
    (h : (start program args stdin w).1 = .error e) : (∃ error, e = .system error) ∨
      (e = .nullCharacter ∧ ∃ word ∈ program :: args, HoldsNull word)
  writes (program : String) (args : List String) (stdin : Stdin) (w : World) (process : Process)
    (h : (start program args stdin w).1 = .ok process) : process.output.isSome

/-- Only a null character in a word gets through the spawner of a host. -/
lemma Starter.IsHost.escaped {start : Starter} (h : start.IsHost) {argv : List String}
    {stdin : Stdin} {e : Escape} {w w' : World}
    (hspawn : Spawner.ofStarter start argv stdin w = (.error (.escaped e), w')) :
    e = .nullCharacter ∧ ∃ word ∈ argv, HoldsNull word := by
  cases argv with
  | nil => cases hspawn
  | cons program args =>
    have hfault := h.faults program args stdin w
    cases hanswer : start program args stdin w with
    | mk reply v =>
      rw [hanswer] at hfault
      simp only [Spawner.ofStarter, hanswer] at hspawn
      cases reply with
      | ok process => cases hspawn
      | error fault =>
        obtain ⟨error, rfl⟩ | ⟨rfl, hword⟩ := hfault fault rfl
        · cases hspawn
        · cases hspawn
          exact ⟨rfl, hword⟩

lemma Starter.IsHost.collected {start : Starter} (h : start.IsHost) {argv : List String}
    {stdin : Stdin} {process : Process} {w w' : World}
    (hspawn : Spawner.ofStarter start argv stdin w = (.ok process, w')) :
    process.collected ≠ none := by
  cases argv with
  | nil => cases hspawn
  | cons program args =>
    have hwrites := h.writes program args stdin w
    cases hanswer : start program args stdin w with
    | mk reply v =>
      rw [hanswer] at hwrites
      simp only [Spawner.ofStarter, hanswer] at hspawn
      cases reply with
      | ok started =>
        cases hspawn
        obtain ⟨bytes, hbytes⟩ := Option.isSome_iff_exists.1 (hwrites process rfl)
        simp [Process.collected, hbytes]
      | error fault => cases fault <;> cases hspawn

/-- The standard tools are a host. -/
lemma Standard.start_isHost (environment : List (String × String)) :
    (Standard.start environment).IsHost where
  faults program args stdin w e h := by
    unfold Standard.start at h
    split at h
    · next hnull =>
      obtain ⟨word, hword, hholds⟩ := List.any_eq_true.1 hnull
      exact .inr ⟨(Except.error.inj h).symm, word, hword, by simpa [HoldsNull] using hholds⟩
    · dsimp only at h
      split at h
      · cases h
      · exact .inl ⟨_, (Except.error.inj h).symm⟩
  writes program args stdin w process h := by
    unfold Standard.start at h
    split at h
    · cases h
    · dsimp only at h
      split at h
      · obtain rfl := Except.ok.inj h
        rfl
      · cases h

/-! ## Builtins -/

namespace Builtin

lemma handler_left {b : Builtin} {s : Surroundings} {paths : List Path} {e : Escape}
    {w w' : World} (h : b.handler s paths w = (.left e, w')) : b = .leave ∧ e = .exit 0 := by
  cases b with
  | leave =>
    simp only [handler] at h
    split at h <;> cases h
    exact ⟨rfl, rfl⟩
  | history =>
    simp only [handler] at h
    split at h <;> cases h
  | changeFolder =>
    simp only [handler, moveTo] at h
    repeat' split at h
    all_goals cases h
  | _ => cases h

/-- A builtin has one of the names under which the builtins are announced. -/
lemma mem_of_builtin? {aliases : Table String} {name : String} {b : Builtin}
    (h : (registry aliases).builtin? name = some b) :
    (name, b) ∈ [("exit", leave), ("clear", clear), ("help", help), ("history", history),
      ("cd", changeFolder), ("cf", changeFolder)] := by
  have htable : (registry aliases).builtins =
      [("exit", leave), ("clear", clear), ("help", help), ("history", history),
        ("cd", changeFolder), ("cf", changeFolder)] := rfl
  rw [Registry.builtin?, htable, List.lookup_eq_some_iff] at h
  obtain ⟨before, after, hsplit, -⟩ := h
  rw [hsplit]
  simp

lemma name_of_leave {aliases : Table String} {name : String}
    (h : (registry aliases).builtin? name = some .leave) : name = "exit" := by
  simpa using mem_of_builtin? h

/-- A builtin that leaves was called as `exit`. -/
lemma handlers_left {aliases : Table String} {history : Option (List String)}
    {policy : LeavePolicy} {name : String} {handler : Handler} {paths : List Path} {e : Escape}
    {w w' : World} (hbuiltin : (handlers aliases history policy).builtin? name = some handler)
    (hcall : handler paths w = (.left e, w')) : name = "exit" ∧ e = .exit 0 := by
  rw [handlers, Registry.builtin?_map, Option.map_eq_some_iff] at hbuiltin
  obtain ⟨b, hb, rfl⟩ := hbuiltin
  obtain ⟨rfl, rfl⟩ := handler_left hcall
  exact ⟨name_of_leave hb, rfl⟩

end Builtin

/-! ## Words of a pipeline -/

lemma mem_lineTokens_of_call {calls : List Call} {call : Call} {word : String} (h : call ∈ calls)
    (hword : word ∈ call.1 :: call.2) (redirection : Option (Redirect × List String)) :
    word ∈ lineTokens calls redirection := by
  induction calls with
  | nil => cases h
  | cons first rest ih =>
    cases rest with
    | nil =>
      obtain rfl := List.mem_singleton.1 h
      exact List.mem_append_left _ (by simpa [List.intercalate] using hword)
    | cons second rest =>
      rw [lineTokens_cons (List.cons_ne_nil _ _)]
      obtain rfl | h := List.mem_cons.1 h
      · exact List.mem_append_left _ hword
      · exact List.mem_append_right _ (List.mem_cons_of_mem _ (ih h))

lemma mem_lineTokens_of_target {calls : List Call} {op : Redirect} {targets : List String}
    {target : String} (h : target ∈ targets) :
    target ∈ lineTokens calls (some (op, targets)) :=
  List.mem_append_right _ (List.mem_cons_of_mem _ h)

section
variable {tree : Node} {p : Pipeline} (h : tree.WellFormed) (hp : Pipeline.ofNode tree = .ok p)
include h hp

lemma mem_words_of_stage {stage : Stage} {word : String} (hstage : stage ∈ p.stages)
    (hword : word ∈ stage.command :: stage.args) : word ∈ tree.words := by
  have hcall : stage.call ∈ tree.calls := by
    rw [← Pipeline.calls_of_ofNode h hp]
    exact List.mem_map_of_mem hstage
  rw [Node.words_eq_lineTokens h]
  exact mem_lineTokens_of_call hcall hword _

/-- The clause of a line has targets, and they are paths that it names. -/
lemma targets_of_clause {c : Clause} (hclause : c ∈ p.clause) :
    c.targets ≠ [] ∧ ∀ path ∈ c.targets, ∃ word ∈ tree.words, path = Path.ofString word := by
  rw [Pipeline.clause_of_ofNode h hp] at hclause
  obtain ⟨⟨op, targets⟩, hred, rfl⟩ := Option.map_eq_some_iff.1 hclause
  refine ⟨by simpa [Clause.ofNames] using Node.redirection_ne_nil h _ hred, fun path hpath => ?_⟩
  obtain ⟨target, htarget, rfl⟩ := List.mem_map.1 hpath
  refine ⟨target, ?_, rfl⟩
  rw [Node.words_eq_lineTokens h, hred]
  exact mem_lineTokens_of_target htarget

end

/-- The words of a program come from its stage or from an alias. -/
lemma Registry.mem_argv {β : Type} {reg : Registry β} {name word : String} {args : List String}
    (h : word ∈ reg.argv name args) :
    word ∈ name :: args ∨ ∃ a ∈ reg.aliases, word ∈ words a.2 := by
  obtain hexpand | hargs := List.mem_append.1 h
  · rw [expand] at hexpand
    split at hexpand
    · next => exact .inl (List.mem_cons.2 (.inl (List.mem_singleton.1 hexpand)))
    · next target halias =>
      obtain ⟨before, after, hsplit, -⟩ := List.lookup_eq_some_iff.1 halias
      exact .inr ⟨(name, target), by simp [hsplit], hexpand⟩
  · exact .inl (List.mem_cons_of_mem _ hargs)

/-! ## Lines -/

/-- What running a line does, action by action. -/
def lineActions (reg : Registry Handler) (spawner : Spawner) (line : String) (r : Run) :
    List Action :=
  (runLine reg spawner line r).2.trace.drop r.trace.length

section
variable {reg : Registry Handler} {spawner : Spawner} {line : String} {r : Run} {tree : Node}
  {p : Pipeline}

/-- Running a line that can be read and planned is running its pipeline. -/
lemma runLine_of_plan (hwords : words line ≠ []) (hparse : parse (words line) = .ok tree)
    (hplan : Pipeline.ofNode tree = .ok p) :
    runLine reg spawner line r = execute reg spawner p (r.logAll
      [.readWords (words line), .readTree (words line) tree, .planned p, .showTree tree]) := by
  unfold runLine
  split
  · contradiction
  · simp [runWords, hparse, runTree, hplan, Run.log, Run.logAll]

lemma exists_pipeline {e : Escape} (h : (runLine reg spawner line r).1 = .left e) :
    ∃ tree p earlier, parse (words line) = .ok tree ∧ Pipeline.ofNode tree = .ok p ∧
      runLine reg spawner line r = execute reg spawner p (r.logAll earlier) := by
  have hwords : words line ≠ [] := by
    intro hnil
    simp only [runLine, hnil] at h
    cases h
  have hrun : (runWords reg spawner (words line) (r.log (.readWords (words line)))).1 =
      .left e := by
    unfold runLine at h
    split at h
    · contradiction
    · exact h
  cases hparse : parse (words line) with
  | error refusal =>
    simp only [runWords, hparse] at hrun
    cases hrun
  | ok tree =>
    cases hplan : Pipeline.ofNode tree with
    | error fault =>
      simp only [runWords, hparse, runTree, hplan] at hrun
      cases hrun
    | ok p => exact ⟨tree, p, _, rfl, hplan, runLine_of_plan hwords hparse hplan⟩

end

/-- On a host, a shell with the usual builtins is only left by `exit`, or over a null character in
the line or in what an alias stands for. -/
theorem runLine_leaves (start : Starter) (hstart : start.IsHost) (aliases : Table String)
    (history : Option (List String)) (line : String) (r : Run) (e : Escape)
    (h : (runLine (Builtin.handlers aliases history .quit) (.ofStarter start) line r).1 =
      .left e) :
    (e = .exit 0 ∧ ∃ args, [.call "exit" args, .returned (.left (.exit 0))] <:+
      lineActions (Builtin.handlers aliases history .quit) (.ofStarter start) line r) ∨
    (e = .nullCharacter ∧ (HoldsNull line ∨ ∃ a ∈ aliases, HoldsNull a.2)) := by
  obtain ⟨tree, p, earlier, hparse, hplan, hrun⟩ := exists_pipeline h
  obtain ⟨hwf, hwords⟩ := parse_eq_ok_iff.1 hparse
  rw [lineActions, hrun]
  rw [hrun] at h
  obtain ⟨actions, htrace, hleaves⟩ := (execute_ending _ _ p (r.logAll earlier)).leaves h
  cases hleaves with
  | unnamed hclause hnone => exact absurd hnone (targets_of_clause hwf hplan hclause).1
  | misnamed hclause hpath hnull =>
    obtain ⟨word, hword, rfl⟩ := (targets_of_clause hwf hplan hclause).2 _ hpath
    exact .inr ⟨rfl, .inl (.of_mem_words (hwords ▸ hword) (.of_hasNull hnull))⟩
  | @called stage handler _ w w' hstage hbuiltin hcall hlast =>
    obtain ⟨hname, rfl⟩ := Builtin.handlers_left hbuiltin hcall
    refine .inl ⟨rfl, stage.args, ?_⟩
    rw [htrace, Run.log_trace, Run.logAll_trace, List.append_assoc, List.append_assoc,
      List.drop_left, ← List.append_assoc, ← hname]
    exact hlast.trans (List.suffix_append _ _)
  | spawned hstage hprogram hspawn =>
    obtain ⟨rfl, word, hword, hnull⟩ := hstart.escaped hspawn
    refine .inr ⟨rfl, ?_⟩
    obtain hword | ⟨a, ha, hword⟩ := Registry.mem_argv hword
    · exact .inl (.of_mem_words (hwords ▸ mem_words_of_stage hwf hplan hstage hword) hnull)
    · exact .inr ⟨a, ha, .of_mem_words hword hnull⟩
  | uncollected hstages hprogram hspawn hnone => exact absurd hnone (hstart.collected hspawn)

/-! ## Lines of one call -/

section
variable {line word : String} {args : List String} (hwords : words line = word :: args)
  (hname : word ≠ "") (hargs : ∀ arg ∈ args, isFilename arg = true)
include hwords hname hargs

lemma runLine_of_call (reg : Registry Handler) (spawner : Spawner) (r : Run) :
    ∃ r', r'.world = r.world ∧
      runLine reg spawner line r = runSingle reg spawner ⟨word, args, none⟩ r' := by
  let tree := Node.expr (.ofCall (word, args)) none
  have hwf : tree.WellFormed := by
    simpa [tree, Node.wellFormed_expr] using hargs
  have hcalls : tree.calls = [(word, args)] := by
    simp [tree, Node.calls_expr]
  have hparse : parse (words line) = .ok tree :=
    parse_eq_ok_iff.2 ⟨hwf, by simp [tree, Node.words_expr, hwords]⟩
  obtain ⟨p, hp, hstages⟩ :=
    Pipeline.ofNode_eq_ok hwf (by rw [hcalls]; simpa using Ne.symm hname)
  rw [hcalls] at hstages
  have hone : p.stages = [⟨word, args, none⟩] := hstages
  have hlt : p.stages.length < 2 := by simp [hone]
  obtain ⟨stage, hstage, -, hrun⟩ := execute_of_lt_two reg spawner hlt (r.logAll
    [.readWords (words line), .readTree (words line) tree, .planned p, .showTree tree])
  obtain rfl : stage = ⟨word, args, none⟩ := List.singleton_injective (hstage.symm.trans hone)
  exact ⟨_, by simp, (runLine_of_plan (by simp [hwords]) hparse hp).trans hrun⟩

/-- If a builtin is called and comes back, the line leaves the world that the builtin leaves. -/
lemma runLine_of_builtin {reg : Registry Handler} {handler : Handler} {r : Run} {w : World}
    (hbuiltin : reg.builtin? word = some handler)
    (hcall : handler (args.map Path.ofString) r.world = (.done, w)) (spawner : Spawner) :
    ∃ r', runLine reg spawner line r = (.finished ⟨"", "", 0⟩, r') ∧ r'.world = w := by
  obtain ⟨r', hworld, hrun⟩ := runLine_of_call hwords hname hargs reg spawner r
  have hdecode : Utf8.decode .empty = .ok "" := Utf8.decode_toByteArray ""
  rw [← hworld] at hcall
  rw [hrun]
  simp [runSingle, hbuiltin, runBuiltin, inputSource, noticeIgnored, callBuiltin, Run.call, hcall,
    deliver, hdecode, unlines]

end

/-- A line with a null character can take the shell down, with nobody having called `exit`. -/
theorem runLine_leaves_over_null :
    ¬ ∀ aliases history line r e,
      (runLine (Builtin.handlers aliases history .quit) (Standard.spawner []) line r).1 =
        .left e → ∃ code, e = .exit code := by
  intro h
  let r := Run.begin (.ofEntries [])
  have hwords : words "a\x00b" = ["a\x00b"] := by decide
  obtain ⟨r', -, hrun⟩ := runLine_of_call hwords (by decide) (by simp)
    (Builtin.handlers [] none .quit) (Standard.spawner []) r
  have hleft : (runLine (Builtin.handlers [] none .quit) (Standard.spawner []) "a\x00b" r).1 =
      .left .nullCharacter := by
    rw [hrun]
    rfl
  obtain ⟨code, hcode⟩ := h [] none "a\x00b" r _ hleft
  cases hcode

/-- The builtin that leaves is the one by which the shell should be left. -/
theorem runLine_leaves_on_exit :
    let reg := Builtin.handlers [] none .quit
    let r := Run.begin (.ofEntries [])
    (Standard.start []).IsHost ∧ (runLine reg (Standard.spawner []) "exit" r).1 = .left (.exit 0) ∧
      ∃ args, [.call "exit" args, .returned (.left (.exit 0))] <:+
        lineActions reg (Standard.spawner []) "exit" r := by
  intro reg r
  have hwords : words "exit" = ["exit"] := by decide
  obtain ⟨r', -, hrun⟩ :=
    runLine_of_call hwords (by decide) (by simp) reg (Standard.spawner []) r
  have hleft : (runLine reg (Standard.spawner []) "exit" r).1 = .left (.exit 0) := by
    rw [hrun]
    rfl
  obtain ⟨-, hcalled⟩ | ⟨hnull, -⟩ := runLine_leaves (Standard.start [])
    (Standard.start_isHost []) [] none "exit" r _ hleft
  · exact ⟨Standard.start_isHost [], hleft, hcalled⟩
  · cases hnull

end CommandShell
