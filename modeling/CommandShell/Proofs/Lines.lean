import CommandShell.Proofs.Escapes
import CommandShell.Proofs.Joining
import CommandShell.Proofs.Sessions

/-!
# Lines as a whole

A line outside the grammar is refused before any of it is run, however much of it could be read. A
line of the grammar always has a pipeline: a word is never empty, so each of its calls has a name.
Written down again, that pipeline is the line, with the files of its redirection in their normal
spelling.
-/
namespace CommandShell
open Text

lemma runLine_of_refusal {line : String} {refusal : Refusal} (hwords : words line ≠ [])
    (hparse : parse (words line) = .error refusal) (reg : Registry Handler) (spawner : Spawner)
    (r : Run) :
    runLine reg spawner line r = (refused refusal.message, r.log (.readWords (words line))) := by
  unfold runLine
  split
  · contradiction
  · simp only [runWords, hparse]

lemma Repl.runLine_of_refusal {line : String} {refusal : Refusal} (hwords : words line ≠ [])
    (hparse : parse (words line) = .error refusal) (host : Host) (settings : Settings) (s : Repl) :
    (runLine host settings line s).1 = none ∧ (runLine host settings line s).2.world = s.world := by
  have hrefused := CommandShell.runLine_of_refusal hwords hparse s.registry host.spawner
    { s.run with trace := [] }
  simp only [Repl.runLine, hrefused, refused, present]
  exact ⟨trivial, rfl⟩

/-- What is not the rendering of a tree is refused at one of its tokens, or at its end. -/
lemma exists_fault_of_ne {tokens : List String}
    (h : ∀ tree : Node, tree.WellFormed → tree.words ≠ tokens) :
    ∃ index detail, parse tokens = .error (.fault index detail) := by
  cases hparse : parse tokens with
  | ok tree =>
    obtain ⟨hwf, hwords⟩ := parse_eq_ok_iff.1 hparse
    exact absurd hwords (h tree hwf)
  | error refusal =>
    obtain ⟨index, detail, rfl⟩ := exists_fault hparse
    exact ⟨index, detail, rfl⟩

section
variable {tree : Node} {line : String} (h : tree.WellFormed) (hwords : tree.words = words line)
include h hwords

/-- The name of a call is a word of the line, and no word is empty. -/
lemma name_ne_empty_of_words : "" ∉ tree.calls.map Prod.fst := by
  intro hname
  obtain ⟨call, hcall, hempty⟩ := List.mem_map.1 hname
  have hmem : call.1 ∈ words line := by
    rw [← hwords, Node.words_eq_lineTokens h]
    exact mem_lineTokens_of_call hcall List.mem_cons_self _
  exact ne_empty_of_mem_words hmem hempty

lemma words_ne_nil_of_tree : words line ≠ [] := by
  obtain ⟨call, t, -, rfl⟩ := Node.exists_expr h
  rw [← hwords, Node.words_expr, Node.words_ofCall]
  exact List.cons_ne_nil _ _

end

/-- A pipeline is written like its line, with files in their normal spelling. -/
lemma Pipeline.words_of_ofNode {tree : Node} {p : Pipeline} (h : tree.WellFormed)
    (hp : ofNode tree = .ok p) :
    p.words = lineTokens tree.calls
      (tree.redirection.map fun r => (r.1, r.2.map normalSpelling)) := by
  rw [p.words_eq_lineTokens, calls_of_ofNode h hp, clause_of_ofNode h hp, Option.map_map]
  simp only [Function.comp_def, Clause.names_ofNames]

/-- A line is refused as a whole or run as a whole. When its words are not those of a tree of the
grammar, the result is the refusal, and all that has been done is to read the words; the loop
around it is left with its world, its history and all that it records. When they are, the tree has
a pipeline, which is what is run, and which is written with the words of the line, up to the
spelling of the files that its redirection names. -/
theorem line_refused_or_run (reg : Registry Handler) (spawner : Spawner) (line : String)
    (r : Run) :
    (words line ≠ [] → (∀ tree : Node, tree.WellFormed → tree.words ≠ words line) →
      ∃ index detail, parse (words line) = .error (.fault index detail) ∧
        runLine reg spawner line r =
          (.finished ⟨"", s!"parse error at token {index}: " ++ detail.message ++ "\n", 2⟩,
            r.log (.readWords (words line))) ∧
        ∀ host settings s, (Repl.runLine host settings line s).1 = none ∧
          (Repl.runLine host settings line s).2.world = s.world ∧
          Repl.SameRecords s (Repl.runLine host settings line s).2) ∧
    ∀ tree : Node, tree.WellFormed → tree.words = words line →
      ∃ p, parse (words line) = .ok tree ∧ Pipeline.ofNode tree = .ok p ∧
        runLine reg spawner line r = execute reg spawner p (r.logAll
          [.readWords (words line), .readTree (words line) tree, .planned p, .showTree tree]) ∧
        words line = lineTokens (p.stages.map Stage.call) tree.redirection ∧
        p.words = lineTokens (p.stages.map Stage.call)
          (tree.redirection.map fun r => (r.1, r.2.map normalSpelling)) := by
  refine ⟨fun hwords hnone => ?_, fun tree hwf htree => ?_⟩
  · obtain ⟨index, detail, hparse⟩ := exists_fault_of_ne hnone
    refine ⟨index, detail, hparse, runLine_of_refusal hwords hparse reg spawner r,
      fun host settings s => ?_⟩
    obtain ⟨hgoesOn, hworld⟩ := Repl.runLine_of_refusal hwords hparse host settings s
    exact ⟨hgoesOn, hworld, Repl.runLine_sameRecords host settings line s⟩
  · have hparse : parse (words line) = .ok tree := parse_eq_ok_iff.2 ⟨hwf, htree⟩
    obtain ⟨p, hp, -⟩ := Pipeline.ofNode_eq_ok hwf (name_ne_empty_of_words hwf htree)
    have hcalls := Pipeline.calls_of_ofNode hwf hp
    refine ⟨p, hparse, hp, runLine_of_plan (words_ne_nil_of_tree hwf htree) hparse hp, ?_, ?_⟩
    · rw [hcalls, ← htree]
      exact Node.words_eq_lineTokens hwf
    · rw [hcalls]
      exact Pipeline.words_of_ofNode hwf hp

/-- Two stages and a target stand in front of the token that no line has there; neither is the
program started nor the target touched. -/
theorem line_refused_or_run_behind_stages :
    let line := "echo a | cat > f | wc"
    let reg := Builtin.handlers [] none .quit
    let r := Run.begin (.ofEntries [])
    words line ≠ [] ∧ (∀ tree : Node, tree.WellFormed → tree.words ≠ words line) ∧
      runLine reg (Standard.spawner []) line r =
        (.finished ⟨"", "parse error at token 6: expected end of input, got '|'\n", 2⟩,
          r.log (.readWords ["echo", "a", "|", "cat", ">", "f", "|", "wc"])) := by
  intro line reg r
  have hwords : words line = ["echo", "a", "|", "cat", ">", "f", "|", "wc"] := by decide
  have hne : words line ≠ [] := by simp [hwords]
  have hscan : Expecting.command.scan 0 (words line) = some (.fault 6 (.endMissing "|")) := by
    rw [hwords]
    decide
  have hparse : parse (words line) = .error (.fault 6 (.endMissing "|")) :=
    parse_eq_error_iff.2 hscan
  have hnone : ∀ tree : Node, tree.WellFormed → tree.words ≠ words line := by
    intro tree hwf htree
    cases hparse.symm.trans (parse_eq_ok_iff.2 ⟨hwf, htree⟩)
  obtain ⟨index, detail, hfault, hrun, -⟩ :=
    (line_refused_or_run reg (Standard.spawner []) line r).1 hne hnone
  obtain ⟨rfl, rfl⟩ : index = 6 ∧ detail = .endMissing "|" := by
    simpa using hfault.symm.trans hparse
  refine ⟨hne, hnone, ?_⟩
  rw [hrun, hwords]
  rfl

end CommandShell
