import CommandShell.Proofs.Joining
import CommandShell.Proofs.Spelling
import CommandShell.Text.Blank

/-!
# Pipelines that are written and read again

What a pipeline is written as is again the token list of a line, with the same calls and the same
redirection, as long as none of the files is spelt like an operator. Such a spelling is met when a
file was named by a longer one, which a path does not keep; then the line that is written is
refused.
-/
namespace CommandShell

/-! ## Lines of given calls -/

/-- A row of calls and a redirection that a line can have. -/
structure Writable (calls : List Call) (redirection : Option (Redirect × List String)) : Prop where
  calls_ne_nil : calls ≠ []
  isCall : ∀ call ∈ calls, (Node.ofCall call).IsCall
  targets_ne_nil : ∀ r ∈ redirection, r.2 ≠ []
  isFilename : ∀ r ∈ redirection, ∀ target ∈ r.2, isFilename target = true

namespace Node

lemma isCall_of_mem_calls {tree : Node} (h : tree.WellFormed) :
    ∀ call ∈ tree.calls, (ofCall call).IsCall := by
  have htail {u : Node} (hu : u.IsTail) : ∀ call ∈ u.calls, (ofCall call).IsCall := by
    induction u, hu using IsTail.induction with
    | redirection op first rest h => simp [calls]
    | pipe call t h ih =>
      rw [calls_pipeExpr, calls_ofCall]
      intro other hother
      obtain rfl | hother := List.mem_cons.1 hother
      · exact (isTail_pipeExpr.1 h).1
      · obtain ⟨u, hu, hother⟩ := List.mem_flatMap.1 hother
        exact ih u (by simpa using hu) other hother
  obtain ⟨call, t, ht, rfl⟩ := exists_expr h
  rw [calls_expr, calls_ofCall]
  intro other hother
  obtain rfl | hother := List.mem_cons.1 hother
  · exact (wellFormed_expr.1 h).1
  · obtain ⟨u, hu, hother⟩ := List.mem_flatMap.1 hother
    exact htail (ht u (by simpa using hu)) other hother

/-- Calls and a redirection behind a call are a tail of it. -/
lemma exists_tail {calls : List Call} {redirection : Option (Redirect × List String)}
    (hcalls : ∀ call ∈ calls, (ofCall call).IsCall) (hne : ∀ r ∈ redirection, r.2 ≠ [])
    (hfiles : ∀ r ∈ redirection, ∀ target ∈ r.2, isFilename target = true) :
    ∃ t : Option Node, (∀ u ∈ t, u.IsTail) ∧ t.toList.flatMap Node.calls = calls ∧
      t.bind Node.redirection = redirection := by
  induction calls with
  | nil =>
    match redirection with
    | none => exact ⟨none, by simp, rfl, rfl⟩
    | some (op, []) => exact absurd rfl (hne _ rfl)
    | some (op, first :: rest) =>
      refine ⟨some (redirectExpr (redirect op) (file first) (rest.map file)), ?_, ?_, ?_⟩
      · simpa [IsTail, IsOperand] using hfiles _ rfl
      · simp [Node.calls]
      · simp [Node.redirection, words, words_map_file]
  | cons call rest ih =>
    obtain ⟨t, ht, hrest, hred⟩ :=
      ih fun other hother => hcalls other (List.mem_cons_of_mem _ hother)
    refine ⟨some (pipeExpr pipe (ofCall call) t), ?_, ?_, ?_⟩
    · rintro _ ⟨⟩
      exact isTail_pipeExpr.2 ⟨hcalls call List.mem_cons_self, ht⟩
    · simp [calls_pipeExpr, hrest]
    · simpa [redirection_pipeExpr] using hred

lemma exists_wellFormed {calls : List Call} {redirection : Option (Redirect × List String)}
    (h : Writable calls redirection) :
    ∃ tree : Node, tree.WellFormed ∧ tree.calls = calls ∧ tree.redirection = redirection := by
  obtain ⟨call, rest, rfl⟩ := List.exists_cons_of_ne_nil h.calls_ne_nil
  obtain ⟨t, ht, hrest, hred⟩ := exists_tail
    (fun other hother => h.isCall other (List.mem_cons_of_mem _ hother)) h.targets_ne_nil
    h.isFilename
  refine ⟨expr (ofCall call) t, wellFormed_expr.2 ⟨h.isCall call List.mem_cons_self, ht⟩, ?_, ?_⟩
  · simp [calls_expr, hrest]
  · rw [redirection_expr, hred]

end Node

lemma parse_lineTokens {calls : List Call} {redirection : Option (Redirect × List String)}
    (h : Writable calls redirection) :
    ∃ tree, parse (lineTokens calls redirection) = .ok tree ∧ tree.WellFormed ∧
      tree.calls = calls ∧ tree.redirection = redirection := by
  obtain ⟨tree, hwf, rfl, rfl⟩ := Node.exists_wellFormed h
  exact ⟨tree, parse_eq_ok_iff.2 ⟨hwf, Node.words_eq_lineTokens hwf⟩, hwf, rfl, rfl⟩

/-! ## Files that are spelt like operators -/

namespace Expecting

lemma scan_furtherTarget_stops {targets : List String} (index : Nat)
    (h : ∃ target ∈ targets, isFilename target = false) :
    ∃ refusal, furtherTarget.scan index targets = some refusal := by
  induction targets generalizing index with
  | nil => simp at h
  | cons target rest ih =>
    cases hfile : isFilename target with
    | false => exact ⟨_, by simp [scan, next, hfile]; rfl⟩
    | true =>
      have hrest : ∃ other ∈ rest, isFilename other = false := by simpa [hfile] using h
      obtain ⟨refusal, hrefusal⟩ := ih (index + 1) hrest
      exact ⟨refusal, by simpa [scan, next, hfile] using hrefusal⟩

lemma scan_target_stops {targets : List String} (op : Redirect) (index : Nat)
    (h : ∃ target ∈ targets, isFilename target = false) :
    ∃ refusal, (target op).scan index targets = some refusal := by
  cases targets with
  | nil => simp at h
  | cons first rest =>
    cases hfile : isFilename first with
    | false => exact ⟨_, by simp [scan, next, hfile]; rfl⟩
    | true =>
      have hrest : ∃ other ∈ rest, isFilename other = false := by simpa [hfile] using h
      obtain ⟨refusal, hrefusal⟩ := scan_furtherTarget_stops (index + 1) hrest
      exact ⟨refusal, by simpa [scan, next, hfile] using hrefusal⟩

end Expecting

lemma lineTokens_some (calls : List Call) (op : Redirect) (targets : List String) :
    lineTokens calls (some (op, targets)) = lineTokens calls none ++ op.symbol :: targets := by
  simp [lineTokens]

lemma parse_lineTokens_of_operator {calls : List Call} {op : Redirect} {targets : List String}
    (hne : calls ≠ []) (hcalls : ∀ call ∈ calls, (Node.ofCall call).IsCall)
    (h : ∃ target ∈ targets, isFilename target = false) :
    ∃ refusal, parse (lineTokens calls (some (op, targets))) = .error refusal := by
  have hwritable : Writable calls none := ⟨hne, hcalls, by simp, by simp⟩
  obtain ⟨tree, hwf, rfl, hred⟩ := Node.exists_wellFormed hwritable
  have hafter := Expecting.after_words hwf
  rw [Node.words_eq_lineTokens hwf, hred] at hafter
  obtain ⟨refusal, hrefusal⟩ := Expecting.scan_target_stops op
    (0 + (lineTokens tree.calls none).length + 1) h
  refine ⟨refusal, parse_eq_error_iff.2 ?_⟩
  rw [lineTokens_some, Expecting.scan_append _ hafter]
  simpa only [Expecting.atEnd, Expecting.scan, Expecting.next_operand_symbol] using hrefusal

/-! ## Reading a pipeline again -/

lemma Clause.ofNames_names {c : Clause} (h : ∀ target ∈ c.targets, target.IsNormal) :
    Clause.ofNames c.names = c := by
  obtain ⟨op, targets⟩ := c
  simp only [ofNames, names, List.map_map]
  congr
  refine (List.map_congr_left fun target htarget => ?_).trans (List.map_id targets)
  exact Path.ofString_text (h target htarget)

namespace Pipeline

lemma eq_of_stages {p q : Pipeline} (h : p.stages = q.stages) : p = q := by
  cases p
  cases q
  simpa using h

section
variable {tree : Node} {p : Pipeline} (h : tree.WellFormed) (hp : ofNode tree = .ok p)
include h hp

lemma names_of_ofNode : "" ∉ tree.calls.map Prod.fst := by
  intro hname
  rw [ofNode_eq_error h hname] at hp
  cases hp

/-- The files of a line's clause are named in their normal spelling. -/
lemma isNormal_of_ofNode {c : Clause} (hc : c ∈ p.clause) :
    ∀ target ∈ c.targets, target.IsNormal := by
  rw [clause_of_ofNode h hp] at hc
  obtain ⟨r, -, rfl⟩ := Option.map_eq_some_iff.1 hc
  intro target htarget
  obtain ⟨name, -, rfl⟩ := List.mem_map.1 htarget
  exact Path.ofString_isNormal name

/-- A pipeline of a line whose files are spelt like files can be written as a line. -/
lemma writable_of_ofNode (hfiles : ∀ c ∈ p.clause, ∀ target ∈ c.targets,
    isFilename target.text = true) :
    Writable (p.stages.map Stage.call) (p.clause.map Clause.names) where
  calls_ne_nil := by
    rw [calls_of_ofNode h hp]
    exact Node.calls_ne_nil h
  isCall := by
    rw [calls_of_ofNode h hp]
    exact Node.isCall_of_mem_calls h
  targets_ne_nil := by
    rw [clause_of_ofNode h hp, Option.map_map]
    intro r hr
    obtain ⟨r', hr', rfl⟩ := Option.map_eq_some_iff.1 hr
    simpa [Clause.names, Clause.ofNames] using Node.redirection_ne_nil h r' hr'
  isFilename := by
    intro r hr target htarget
    obtain ⟨c, hc, rfl⟩ := Option.map_eq_some_iff.1 hr
    obtain ⟨path, hpath, rfl⟩ := List.mem_map.1 htarget
    exact hfiles c hc path hpath

/-- A line with the calls and the clause of a pipeline has that pipeline. -/
lemma ofNode_of_calls {other : Node} (hother : other.WellFormed)
    (hcalls : other.calls = p.stages.map Stage.call)
    (hred : other.redirection = p.clause.map Clause.names) : ofNode other = .ok p := by
  have hsame : other.calls = tree.calls := hcalls.trans (calls_of_ofNode h hp)
  obtain ⟨q, hq, hstages⟩ := ofNode_eq_ok hother (hsame ▸ names_of_ofNode h hp)
  have hclause : other.redirection.map Clause.ofNames = p.clause := by
    rw [hred, Option.map_map]
    cases hc : p.clause with
    | none => rfl
    | some c => exact congrArg some (Clause.ofNames_names (isNormal_of_ofNode h hp hc))
  rw [hq, eq_of_stages (p := p) (q := q)]
  rw [stages_of_ofNode h hp, hstages, hclause, hsame, clause_of_ofNode h hp]

end

end Pipeline

/-- A pipeline is written as a line that means the same pipeline if no file of its clause is spelt
like an operator. If one is, the line is refused. -/
theorem replan_words (tokens : List String) (tree : Node) (p : Pipeline)
    (h : parse tokens = .ok tree) (hp : Pipeline.ofNode tree = .ok p) :
    ((∀ c ∈ p.clause, ∀ target ∈ c.targets, isFilename target.text = true) →
      ∃ again, parse p.words = .ok again ∧ Pipeline.ofNode again = .ok p) ∧
    ((∃ c ∈ p.clause, ∃ target ∈ c.targets, isFilename target.text = false) →
      ∃ refusal, parse p.words = .error refusal) := by
  obtain ⟨hwf, -⟩ := parse_eq_ok_iff.1 h
  rw [p.words_eq_lineTokens]
  constructor
  · intro hfiles
    obtain ⟨again, hparse, hagain, hcalls, hred⟩ :=
      parse_lineTokens (Pipeline.writable_of_ofNode hwf hp hfiles)
    exact ⟨again, hparse, Pipeline.ofNode_of_calls hwf hp hagain hcalls hred⟩
  · rintro ⟨c, hc, target, htarget, hoperator⟩
    rw [Option.mem_def.1 hc, Option.map_some, Pipeline.calls_of_ofNode hwf hp]
    exact parse_lineTokens_of_operator (Node.calls_ne_nil hwf) (Node.isCall_of_mem_calls hwf)
      ⟨target.text, List.mem_map_of_mem htarget, hoperator⟩

/-- The spelling of a file changes, and an input clause moves; the pipeline stays. -/
theorem replan_words_of_input :
    let tree : Node := .expr (.ofCall ("sort", ["-r"]))
      (some (.pipeExpr .pipe (.ofCall ("cat", []))
        (some (.redirectExpr (.redirect .input) (.file "a//b/") []))))
    parse ["sort", "-r", "|", "cat", "<", "a//b/"] = .ok tree ∧
      ∃ p, Pipeline.ofNode tree = .ok p ∧
        (∀ c ∈ p.clause, ∀ target ∈ c.targets, isFilename target.text = true) ∧
        ∃ again, parse ["sort", "-r", "|", "cat", "<", "a/b"] = .ok again ∧
          Pipeline.ofNode again = .ok p := by
  intro tree
  have hcalls : tree.calls = [("sort", ["-r"]), ("cat", [])] := by simp [tree, Node.calls]
  have hred : tree.redirection = some (.input, ["a//b/"]) := by
    simp [tree, Node.redirection, Node.words]
  have hfiles : isFilename "-r" = true ∧ isFilename "a//b/" = true := by decide
  have hwf : tree.WellFormed := by
    simp [tree, Node.wellFormed_expr, Node.IsTail, Node.IsOperand, hfiles]
  have hparse : parse ["sort", "-r", "|", "cat", "<", "a//b/"] = .ok tree := by
    refine parse_eq_ok_iff.2 ⟨hwf, ?_⟩
    rw [Node.words_eq_lineTokens hwf, hcalls, hred]
    rfl
  obtain ⟨p, hp, hstages⟩ := Pipeline.ofNode_eq_ok hwf (by rw [hcalls]; decide)
  have hclause : p.clause = some ⟨.input, [⟨.here, ["a", "b"]⟩]⟩ := by
    rw [Pipeline.clause_of_ofNode hwf hp, hred]
    decide
  have hspelt : ∀ c ∈ p.clause, ∀ target ∈ c.targets, isFilename target.text = true := by
    rw [hclause]
    simpa using (by decide : isFilename (Path.text ⟨.here, ["a", "b"]⟩) = true)
  have hwords : p.words = ["sort", "-r", "|", "cat", "<", "a/b"] := by
    rw [p.words_eq_lineTokens, Pipeline.calls_of_ofNode hwf hp, hcalls, hclause]
    decide
  obtain ⟨again, hagain, hplan⟩ := (replan_words _ tree p hparse hp).1 hspelt
  exact ⟨hparse, p, hp, hspelt, again, hwords ▸ hagain, hplan⟩

/-- A file can be named so that its path is spelt like an operator. -/
theorem replan_words_refused :
    ¬ ∀ line tree p, parse (Text.words line) = .ok tree → Pipeline.ofNode tree = .ok p →
      ∃ again, parse p.words = .ok again ∧ Pipeline.ofNode again = .ok p := by
  intro h
  let tree : Node := .expr (.ofCall ("cat", []))
    (some (.redirectExpr (.redirect .output) (.file "./>") []))
  have htokens : Text.words "cat > ./>" = ["cat", ">", "./>"] := by decide
  have hwf : tree.WellFormed := by
    simp [tree, Node.wellFormed_expr, Node.IsTail, Node.IsOperand,
      (by decide : isFilename "./>" = true)]
  have hcalls : tree.calls = [("cat", [])] := by simp [tree, Node.calls]
  have hred : tree.redirection = some (.output, ["./>"]) := by
    simp [tree, Node.redirection, Node.words]
  have hparse : parse (Text.words "cat > ./>") = .ok tree := by
    refine parse_eq_ok_iff.2 ⟨hwf, ?_⟩
    rw [htokens, Node.words_eq_lineTokens hwf, hcalls, hred]
    rfl
  obtain ⟨p, hp, -⟩ := Pipeline.ofNode_eq_ok hwf (by rw [hcalls]; decide)
  have hwords : p.words = lineTokens [("cat", [])] (some (.output, [">"])) := by
    rw [p.words_eq_lineTokens, Pipeline.calls_of_ofNode hwf hp, hcalls,
      Pipeline.clause_of_ofNode hwf hp, hred]
    decide
  obtain ⟨again, hagain, -⟩ := h _ tree p hparse hp
  obtain ⟨refusal, hrefusal⟩ : ∃ refusal, parse p.words = .error refusal := by
    rw [hwords]
    exact parse_lineTokens_of_operator (List.cons_ne_nil _ _) (by simp) ⟨">", by simp, by decide⟩
  rw [hrefusal] at hagain
  cases hagain

end CommandShell
