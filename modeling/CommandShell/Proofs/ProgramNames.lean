import CommandShell.Proofs.Sides

/-!
# What a spawned program is called

The first of the words that a stage is run with is its program. It is found from the command of the
stage and the table of aliases alone, and the arguments come behind it, unless the alias of the
command is blank: then nothing stands for the program, and the first argument is taken for it.
Commands that are names of builtins are never spawned, but an alias stands for an external program,
whatever it is called, also if a builtin is called so.
-/
namespace CommandShell
open Text

/-- The `i`-th call of a run is one of the spawner, with the words `argv`. -/
def SpawnsAt (reg : Registry Handler) (spawner : Spawner) (p : Pipeline) (r : Run) (i : ℕ)
    (argv : List String) : Prop :=
  ∃ stdin started, (callsIn reg spawner p r)[i]? = some (.spawn argv stdin started)

/-- A table of aliases names a program for a name unless it has a blank alias for it. -/
def NamesProgram (aliases : Table String) (name : String) : Prop :=
  ∀ target, aliases.lookup name = some target → isBlankLine target = false

/-- An alias for a name, if there is one, begins with a word that is no builtin's name. -/
def Registry.LeadsAway (reg : Registry Handler) (name : String) : Prop :=
  ∀ target, reg.alias? name = some target →
    ∃ program others, words target = program :: others ∧ reg.isBuiltin program = false

section
variable {aliases : Table String} {name target : String}

lemma leadingWords_of_none (h : aliases.lookup name = none) :
    leadingWords aliases name = [name] := by rw [leadingWords, h]

lemma leadingWords_of_some (h : aliases.lookup name = some target) :
    leadingWords aliases name = words target := by rw [leadingWords, h]

lemma leadingWords_ne_nil_iff : leadingWords aliases name ≠ [] ↔ NamesProgram aliases name := by
  cases halias : aliases.lookup name with
  | none => simp [leadingWords_of_none halias, NamesProgram, halias]
  | some target =>
    simp [leadingWords_of_some halias, NamesProgram, halias, words_eq_nil_iff]

lemma leadingWords_eq_nil (h : ¬ NamesProgram aliases name) : leadingWords aliases name = [] :=
  not_not.1 (mt leadingWords_ne_nil_iff.1 h)

end

section
variable {reg : Registry Handler} {spawner : Spawner} {p : Pipeline} {r : Run}
  {stages : List Stage} {calls : List Action} {w w' : World} {i : ℕ} {argv : List String}

/-- A call of the spawner is that of the stage at its place. -/
lemma Routed.spawned (h : Routed reg spawner w stages calls w') {stdin : Stdin}
    {started : Option ℕ} (hspawn : calls[i]? = some (.spawn argv stdin started)) :
    ∃ stage, stages[i]? = some stage ∧ reg.isBuiltin stage.command = false ∧
      argv = leadingWords reg.aliases stage.command ++ stage.args := by
  induction h generalizing i with
  | nil => simp at hspawn
  | toBuiltin hbuiltin hrest ih =>
    cases i with
    | zero => simp at hspawn
    | succ i => exact ih hspawn
  | @toSpawner stage rest stdin' started' calls w w' hprogram hrest ih =>
    cases i with
    | zero =>
      obtain ⟨rfl, -, -⟩ : leadingWords reg.aliases stage.command ++ stage.args = argv ∧
          stdin' = stdin ∧ started' = started := by simpa using hspawn
      exact ⟨stage, rfl, isBuiltin_of_eq_none hprogram, rfl⟩
    | succ i => exact ih hspawn

lemma SpawnsAt.exists_stage (h : SpawnsAt reg spawner p r i argv) :
    ∃ stage, p.stages[i]? = some stage ∧ reg.isBuiltin stage.command = false ∧
      argv = leadingWords reg.aliases stage.command ++ stage.args := by
  obtain ⟨stdin, started, hspawn⟩ := h
  obtain ⟨front, back, hstages, hrouted, -⟩ := (execute_reported reg spawner p r).routed
  obtain ⟨stage, hstage, hside, hargv⟩ := hrouted.spawned hspawn
  refine ⟨stage, ?_, hside, hargv⟩
  have hlt : i < front.length := (List.getElem?_eq_some_iff.1 hstage).1
  rw [hstages, List.getElem?_append_left hlt, hstage]

lemma spawnsAt_of_plain (reg : Registry Handler) (spawner : Spawner) (name : String)
    (args : List String) (r : Run) (hprogram : reg.builtin? name = none) :
    SpawnsAt reg spawner ⟨[⟨name, args, none⟩], List.cons_ne_nil _ _⟩ r 0
      (reg.argv name args) := by
  obtain ⟨world, started, trace⟩ := r
  set p : Pipeline := ⟨[⟨name, args, none⟩], List.cons_ne_nil _ _⟩
  have hrun : execute reg spawner p ⟨world, started, trace⟩ =
      runSingle reg spawner ⟨name, args, none⟩
        ⟨world, started, trace ++ [.execute p.stages]⟩ := rfl
  have hactions : ∃ number later, (execute reg spawner p ⟨world, started, trace⟩).2.trace =
      trace ++ (.execute p.stages :: .spawn (reg.argv name args) .inherited number :: later) := by
    cases hspawn : spawner (reg.argv name args) .inherited world with
    | mk reply w' =>
      have hinput : ∀ c ∈ (⟨name, args, none⟩ : Stage).clause, c.op ≠ .input := by simp
      rw [hrun, runSingle_of_spawn reg spawner hinput hprogram hspawn]
      cases reply with
      | error fault => exact ⟨none, [.notStarted fault], by simp [spawnActions]⟩
      | ok process =>
        obtain ⟨later, hlater⟩ := collect_trace started process (Stdin.feed .inherited) none
          ⟨w', started + 1, trace ++ [.execute p.stages] ++
            spawnActions (reg.argv name args) .inherited (.ok (started, process))⟩
        refine ⟨some started, .started started process :: .communicate started none :: later, ?_⟩
        refine hlater.trans ?_
        simp [spawnActions, Stdin.feed]
  obtain ⟨number, later, htrace⟩ := hactions
  refine ⟨.inherited, number, ?_⟩
  rw [callsIn, actionsOf_eq reg spawner htrace]
  rfl

end

/-! ## Names of builtins -/

/-- What is called like a builtin where none is asked for is the first word of an alias. -/
lemma exists_alias_of_isBuiltin {reg : Registry Handler} {name program : String}
    {args : List String} (hside : reg.isBuiltin name = false)
    (hprogram : (leadingWords reg.aliases name ++ args).head? = some program)
    (hbuiltin : reg.isBuiltin program = true) :
    ∃ target, reg.alias? name = some target ∧
      ∀ first others, words target = first :: others → program = first := by
  cases halias : reg.alias? name with
  | none =>
    obtain rfl : name = program := by simpa [leadingWords_of_none halias] using hprogram
    rw [hside] at hbuiltin
    cases hbuiltin
  | some target =>
    refine ⟨target, rfl, fun first others hwords => ?_⟩
    simpa [leadingWords_of_some halias, hwords, eq_comm] using hprogram

/-- No stage whose command is a builtin's name is ever spawned. A program that is called like a
builtin is only spawned for an alias, and it is the first word of it, if it has words at all. So
none is if the aliases in a pipeline begin with other words. -/
theorem builtin_names_spawned_through_aliases (reg : Registry Handler) (spawner : Spawner)
    (p : Pipeline) (r : Run) :
    (∀ i argv, SpawnsAt reg spawner p r i argv →
      ∃ stage, p.stages[i]? = some stage ∧ reg.isBuiltin stage.command = false ∧
        argv = leadingWords reg.aliases stage.command ++ stage.args ∧
        ∀ program, argv.head? = some program → reg.isBuiltin program = true →
          ∃ target, reg.alias? stage.command = some target ∧
            ∀ first others, words target = first :: others → program = first) ∧
    ((∀ stage ∈ p.stages, reg.isBuiltin stage.command = false → reg.LeadsAway stage.command) →
      ∀ i argv, SpawnsAt reg spawner p r i argv →
        ∀ program, argv.head? = some program → reg.isBuiltin program = false) := by
  constructor
  · intro i argv hspawn
    obtain ⟨stage, hstage, hside, rfl⟩ := hspawn.exists_stage
    exact ⟨stage, hstage, hside, rfl, fun program => exists_alias_of_isBuiltin hside⟩
  · intro haway i argv hspawn program hprogram
    obtain ⟨stage, hstage, hside, rfl⟩ := hspawn.exists_stage
    by_contra hbuiltin
    obtain ⟨target, halias, hfirst⟩ :=
      exists_alias_of_isBuiltin hside hprogram (by simpa using hbuiltin)
    obtain ⟨first, others, hwords, hother⟩ :=
      haway stage (List.mem_of_getElem? hstage) hside target halias
    rw [hfirst first others hwords] at hbuiltin
    exact hbuiltin hother

/-- The name of a builtin among the arguments of an alias that begins with another word. -/
theorem builtin_names_spawned_through_aliases_of_argument :
    let reg : Registry Handler :=
      ⟨[("cd", fun _ w => (.done, w))], [("removef", "rm -r"), ("cd", "rm")], []⟩
    let spawner : Spawner := fun _ _ w => (.ok (.writing .empty true 0), w)
    let p : Pipeline := ⟨[⟨"removef", ["cd"], none⟩], by decide⟩
    let r := Run.begin (.ofEntries [])
    SpawnsAt reg spawner p r 0 ["rm", "-r", "cd"] ∧ reg.isBuiltin "rm" = false := by
  intro reg spawner p r
  have hwords : words "rm -r" = ["rm", "-r"] := by decide
  have hargv : reg.argv "removef" ["cd"] = ["rm", "-r", "cd"] := congrArg (· ++ ["cd"]) hwords
  have hspawn : SpawnsAt reg spawner p r 0 ["rm", "-r", "cd"] := by
    rw [← hargv]
    exact spawnsAt_of_plain reg spawner "removef" ["cd"] r rfl
  have haway : ∀ stage ∈ p.stages, reg.isBuiltin stage.command = false →
      reg.LeadsAway stage.command := by
    intro stage hstage _ target htarget
    obtain rfl := List.mem_singleton.1 hstage
    obtain rfl : "rm -r" = target := Option.some.inj htarget
    exact ⟨"rm", ["-r"], hwords, rfl⟩
  exact ⟨hspawn,
    (builtin_names_spawned_through_aliases reg spawner p r).2 haway 0 _ hspawn "rm" rfl⟩

/-- An alias whose first word is the name of a builtin: a program of that name is spawned. -/
theorem alias_spawns_builtin_name :
    ¬ ∀ (reg : Registry Handler) (spawner : Spawner) (p : Pipeline) (r : Run) i argv,
      SpawnsAt reg spawner p r i argv →
        ∀ program, argv.head? = some program → reg.isBuiltin program = false := by
  intro h
  let reg : Registry Handler := ⟨[("echo", fun _ w => (.done, w))], [("x", "echo")], []⟩
  let spawner : Spawner := fun _ _ w => (.ok (.writing .empty true 0), w)
  let r := Run.begin (.ofEntries [])
  have hspawn := spawnsAt_of_plain reg spawner "x" ["a"] r rfl
  have hargv : reg.argv "x" ["a"] = ["echo", "a"] := by
    have halias : leadingWords reg.aliases "x" = ["echo"] := by decide
    exact congrArg (· ++ ["a"]) halias
  rw [hargv] at hspawn
  exact Bool.noConfusion (h reg spawner _ r _ _ hspawn "echo" rfl)

/-! ## Arguments -/

section
variable {reg : Registry Handler} {name : String}

lemma argv?_of_program (hside : reg.isBuiltin name = false) (args : List String) :
    reg.argv? name args = some (leadingWords reg.aliases name ++ args) := by
  rw [Registry.argv?, hside]
  rfl

lemma exists_first_iff (hside : reg.isBuiltin name = false) :
    (∃ first, first ≠ [] ∧ ∀ args, reg.argv? name args = some (first ++ args)) ↔
      NamesProgram reg.aliases name := by
  rw [← leadingWords_ne_nil_iff]
  constructor
  · rintro ⟨first, hfirst, hall⟩ hnil
    have hnone : some (leadingWords reg.aliases name ++ []) = some (first ++ []) :=
      (argv?_of_program hside []).symm.trans (hall [])
    rw [hnil] at hnone
    exact hfirst (by simpa [eq_comm] using hnone)
  · exact fun hprogram => ⟨_, hprogram, argv?_of_program hside⟩

/-- The program that is spawned for a stage is found from its command. -/
lemma SpawnsAt.head?_eq {spawner : Spawner} {p : Pipeline} {r : Run} {i : ℕ} {argv : List String}
    {stage : Stage} {program : String} {others : List String} (h : SpawnsAt reg spawner p r i argv)
    (hstage : p.stages[i]? = some stage)
    (hwords : leadingWords reg.aliases stage.command = program :: others) :
    argv.head? = some program := by
  obtain ⟨stage', hstage', -, rfl⟩ := h.exists_stage
  obtain rfl : stage = stage' := Option.some.inj (hstage.symm.trans hstage')
  rw [hwords]
  rfl

end

/-- The words that a name is run with begin with those that it stands for in the table of aliases,
and the arguments come behind them as they are. There is a program among the former exactly if the
alias, where there is one, is not blank. Then any two runs spawn the same program for the name, at
whatever place of whatever pipeline and with whatever arguments, and otherwise the arguments are all
that is spawned. -/
theorem arguments_follow_program (reg : Registry Handler) :
    (∀ name, reg.isBuiltin name = false →
      (∀ args, reg.argv? name args = some (leadingWords reg.aliases name ++ args)) ∧
      ((∃ first, first ≠ [] ∧ ∀ args, reg.argv? name args = some (first ++ args)) ↔
        NamesProgram reg.aliases name)) ∧
    ∀ spawner p r i argv, SpawnsAt reg spawner p r i argv →
      ∃ stage, p.stages[i]? = some stage ∧ reg.isBuiltin stage.command = false ∧
        argv = leadingWords reg.aliases stage.command ++ stage.args ∧
        (¬ NamesProgram reg.aliases stage.command → argv = stage.args) ∧
        (NamesProgram reg.aliases stage.command →
          ∀ other spawner' q r' j argv' stage', other.aliases = reg.aliases →
            SpawnsAt other spawner' q r' j argv' → q.stages[j]? = some stage' →
            stage'.command = stage.command →
            ∃ program, argv.head? = some program ∧ argv'.head? = some program) := by
  constructor
  · exact fun name hside => ⟨argv?_of_program hside, exists_first_iff hside⟩
  · intro spawner p r i argv hspawn
    obtain ⟨stage, hstage, hside, hargv⟩ := hspawn.exists_stage
    refine ⟨stage, hstage, hside, hargv, fun hblank => ?_, ?_⟩
    · rw [hargv, leadingWords_eq_nil hblank, List.nil_append]
    · intro hnames other spawner' q r' j argv' stage' haliases hspawn' hstage' hsame
      obtain ⟨program, others, hwords⟩ :=
        List.exists_cons_of_ne_nil (leadingWords_ne_nil_iff.2 hnames)
      have hwords' : leadingWords other.aliases stage'.command = program :: others := by
        rw [haliases, hsame, hwords]
      exact ⟨program, hspawn.head?_eq hstage hwords, hspawn'.head?_eq hstage' hwords'⟩

/-- An alias with an argument of its own, and two pipelines with different ones behind it. -/
theorem arguments_follow_program_of_alias :
    let reg : Registry Handler := ⟨[], [("removef", "rm -r")], []⟩
    let spawner : Spawner := fun _ _ w => (.ok (.writing .empty true 0), w)
    let p : Pipeline := ⟨[⟨"removef", ["cd"], none⟩], by decide⟩
    let q : Pipeline := ⟨[⟨"removef", ["ls", ""], none⟩], by decide⟩
    let r := Run.begin (.ofEntries [])
    SpawnsAt reg spawner p r 0 ["rm", "-r", "cd"] ∧
      SpawnsAt reg spawner q r 0 ["rm", "-r", "ls", ""] ∧
      NamesProgram reg.aliases "removef" ∧
      ∃ program, ["rm", "-r", "cd"].head? = some program ∧
        ["rm", "-r", "ls", ""].head? = some program := by
  intro reg spawner p q r
  have hwords : words "rm -r" = ["rm", "-r"] := by decide
  have hargv (args : List String) : reg.argv "removef" args = ["rm", "-r"] ++ args :=
    congrArg (· ++ args) hwords
  have hspawn (args : List String) : SpawnsAt reg spawner
      ⟨[⟨"removef", args, none⟩], List.cons_ne_nil _ _⟩ r 0 (["rm", "-r"] ++ args) := by
    rw [← hargv]
    exact spawnsAt_of_plain reg spawner "removef" args r rfl
  have hnames : NamesProgram reg.aliases "removef" := by
    intro target htarget
    obtain rfl : "rm -r" = target := Option.some.inj htarget
    decide
  obtain ⟨stage, hstage, -, -, -, hsame⟩ :=
    (arguments_follow_program reg).2 spawner p r 0 _ (hspawn ["cd"])
  obtain rfl : ⟨"removef", ["cd"], none⟩ = stage := Option.some.inj hstage
  exact ⟨hspawn ["cd"], hspawn ["ls", ""], hnames,
    hsame hnames reg spawner q r 0 _ _ rfl (hspawn ["ls", ""]) rfl rfl⟩

/-- A blank alias: whatever comes first among the arguments is spawned. -/
theorem arguments_become_program :
    let reg : Registry Handler := ⟨[], [("x", " ")], []⟩
    let spawner : Spawner := fun _ _ w => (.ok (.writing .empty true 0), w)
    let p : Pipeline := ⟨[⟨"x", ["rm"], none⟩], by decide⟩
    let q : Pipeline := ⟨[⟨"x", ["ls"], none⟩], by decide⟩
    let r := Run.begin (.ofEntries [])
    (¬ ∃ first, first ≠ [] ∧ ∀ args, reg.argv? "x" args = some (first ++ args)) ∧
      SpawnsAt reg spawner p r 0 ["rm"] ∧ SpawnsAt reg spawner q r 0 ["ls"] := by
  intro reg spawner p q r
  have hwords : words " " = [] := by decide
  have hargv (args : List String) : reg.argv "x" args = args := congrArg (· ++ args) hwords
  have hspawn (args : List String) :
      SpawnsAt reg spawner ⟨[⟨"x", args, none⟩], List.cons_ne_nil _ _⟩ r 0 args := by
    have hplain := spawnsAt_of_plain reg spawner "x" args r rfl
    rwa [hargv] at hplain
  refine ⟨?_, hspawn ["rm"], hspawn ["ls"]⟩
  rintro ⟨first, hfirst, hall⟩
  have hnone : some (reg.argv "x" []) = some (first ++ []) := hall []
  rw [hargv] at hnone
  exact hfirst (by simpa [eq_comm] using hnone)

end CommandShell
