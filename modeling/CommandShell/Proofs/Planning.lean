import CommandShell.Pipeline
import CommandShell.Proofs.Grammar
import Mathlib.Data.List.Basic

/-!
# Plans of lines

A line is a row of calls between pipes, with at most one redirection behind the last of them. Its
pipeline has one stage for each call, and only a call without a name keeps it from having one. The
redirection becomes the clause of the stage where it takes effect. Written down again, the pipeline
differs from the line in nothing but the spelling of the files that the redirection names.
-/
namespace CommandShell

abbrev Call := String × List String

/-! ## What a tree says -/

namespace Node

/-- The calls of a tree from left to right. -/
def calls : Node → List Call
  | commandExpr (command name) files => [(name, files.flatMap words)]
  | pipeExpr _ c none => c.calls
  | pipeExpr _ c (some t) => c.calls ++ t.calls
  | expr c none => c.calls
  | expr c (some t) => c.calls ++ t.calls
  | _ => []

/-- The redirection at the end of a tree, with the names of its files. -/
def redirection : Node → Option (Redirect × List String)
  | redirectExpr (redirect op) first rest => some (op, first.words ++ rest.flatMap words)
  | pipeExpr _ _ (some t) => t.redirection
  | expr _ (some t) => t.redirection
  | _ => none

section
variable (p c : Node) (t : Option Node)

lemma calls_expr : (expr c t).calls = c.calls ++ t.toList.flatMap calls := by
  cases t <;> simp [calls]

lemma calls_pipeExpr : (pipeExpr p c t).calls = c.calls ++ t.toList.flatMap calls := by
  cases t <;> simp [calls]

lemma redirection_expr : (expr c t).redirection = t.bind redirection := by
  cases t <;> simp [redirection]

lemma redirection_pipeExpr : (pipeExpr p c t).redirection = t.bind redirection := by
  cases t <;> simp [redirection]

lemma words_expr : (expr c t).words = c.words ++ t.toList.flatMap words := by
  cases t <;> simp [words]

lemma words_pipeExpr :
    (pipeExpr .pipe c t).words = pipeToken :: (c.words ++ t.toList.flatMap words) := by
  cases t <;> simp [words]

end

def ofCall (call : Call) : Node := commandExpr (command call.1) (call.2.map file)

@[simp] lemma calls_ofCall (call : Call) : (ofCall call).calls = [call] := by
  simp [ofCall, calls, words_map_file]

@[simp] lemma words_ofCall (call : Call) : (ofCall call).words = call.1 :: call.2 := by
  simp [ofCall, words, words_map_file]

@[simp] lemma isCall_ofCall {call : Call} :
    (ofCall call).IsCall ↔ ∀ name ∈ call.2, isFilename name = true := by
  simp [ofCall, IsCall, IsOperand]

lemma exists_ofCall {node : Node} (h : node.IsCall) : ∃ call, node = ofCall call := by
  obtain ⟨name, files, hfiles, rfl⟩ := isCall_iff.1 h
  obtain ⟨names, -, rfl⟩ := exists_names hfiles
  exact ⟨(name, names), rfl⟩

lemma isTail_pipeExpr {c : Node} {t : Option Node} :
    (pipeExpr pipe c t).IsTail ↔ c.IsCall ∧ ∀ u ∈ t, u.IsTail := by
  cases t <;> simp [IsTail]

lemma wellFormed_expr {c : Node} {t : Option Node} :
    (expr c t).WellFormed ↔ c.IsCall ∧ ∀ u ∈ t, u.IsTail := by
  cases t <;> simp [WellFormed]

lemma exists_expr {tree : Node} (h : tree.WellFormed) :
    ∃ call t, (∀ u ∈ t, u.IsTail) ∧ tree = expr (ofCall call) t := by
  cases tree with
  | expr c t =>
    obtain ⟨hc, ht⟩ := wellFormed_expr.1 h
    obtain ⟨call, rfl⟩ := exists_ofCall hc
    exact ⟨call, t, ht, rfl⟩
  | _ => simp only [WellFormed] at h

/-- Tails are redirections, and pipes with a call that may have a tail again. -/
theorem IsTail.induction {motive : (node : Node) → node.IsTail → Prop}
    (redirection : ∀ op first (rest : List String)
      (h : (redirectExpr (redirect op) (file first) (rest.map file)).IsTail),
      motive (redirectExpr (redirect op) (file first) (rest.map file)) h)
    (pipe : ∀ call t (h : (pipeExpr .pipe (ofCall call) t).IsTail),
      (∀ u (hu : u ∈ t), motive u ((isTail_pipeExpr.1 h).2 u hu)) →
        motive (pipeExpr .pipe (ofCall call) t) h)
    (node : Node) (h : node.IsTail) : motive node h := by
  match node, h with
  | redirectExpr (redirect op) first rest, h =>
    have hfiles := h
    simp only [IsTail] at hfiles
    obtain ⟨name, -, rfl⟩ := isOperand_iff.1 hfiles.1
    obtain ⟨names, -, rfl⟩ := exists_names hfiles.2
    exact redirection op name names h
  | pipeExpr Node.pipe c none, h =>
    obtain ⟨call, rfl⟩ := exists_ofCall (isTail_pipeExpr.1 h).1
    exact pipe call none h (by simp)
  | pipeExpr Node.pipe c (some u), h =>
    obtain ⟨hc, hu⟩ := isTail_pipeExpr.1 h
    obtain ⟨call, rfl⟩ := exists_ofCall hc
    refine pipe call (some u) h ?_
    rintro _ ⟨⟩
    exact IsTail.induction redirection pipe u (hu u rfl)

end Node

/-! ## The tokens of a line -/

/-- The tokens of a row of calls with a redirection behind it. -/
def lineTokens (calls : List Call) (redirection : Option (Redirect × List String)) :
    List String :=
  [pipeToken].intercalate (calls.map fun call => call.1 :: call.2) ++
    match redirection with
    | none => []
    | some (op, targets) => op.symbol :: targets

lemma lineTokens_cons {calls : List Call} (h : calls ≠ []) (call : Call)
    (redirection : Option (Redirect × List String)) :
    lineTokens (call :: calls) redirection =
      call.1 :: call.2 ++ pipeToken :: lineTokens calls redirection := by
  obtain ⟨second, rest, rfl⟩ := List.exists_cons_of_ne_nil h
  simp [lineTokens, List.intercalate]

namespace Node

lemma calls_ne_nil {tree : Node} (h : tree.WellFormed) : tree.calls ≠ [] := by
  obtain ⟨call, t, -, rfl⟩ := exists_expr h
  simp [calls_expr]

lemma words_tail {u : Node} (hu : u.IsTail) (call : Call) :
    call.1 :: call.2 ++ u.words = lineTokens (call :: u.calls) u.redirection := by
  induction u, hu using IsTail.induction generalizing call with
  | redirection op first rest h =>
    simp [words, calls, redirection, lineTokens, List.intercalate, words_map_file]
  | pipe second t h ih =>
    have hrest : second.1 :: second.2 ++ t.toList.flatMap words =
        lineTokens (second :: t.toList.flatMap calls) (t.bind redirection) := by
      cases t with
      | none => simp [lineTokens, List.intercalate]
      | some u => simpa using ih u rfl second
    rw [words_pipeExpr, words_ofCall, hrest, calls_pipeExpr, redirection_pipeExpr, calls_ofCall,
      List.singleton_append, lineTokens_cons (List.cons_ne_nil _ _)]

/-- The tokens of a well-formed tree are those of its calls and of its redirection. -/
theorem words_eq_lineTokens {tree : Node} (h : tree.WellFormed) :
    tree.words = lineTokens tree.calls tree.redirection := by
  obtain ⟨call, t, ht, rfl⟩ := exists_expr h
  rw [words_expr, words_ofCall, calls_expr, calls_ofCall, redirection_expr]
  cases t with
  | none => simp [lineTokens, List.intercalate]
  | some u => simpa using words_tail (ht u rfl) call

lemma redirection_ne_nil {tree : Node} (h : tree.WellFormed) :
    ∀ r ∈ tree.redirection, r.2 ≠ [] := by
  have htail {u : Node} (hu : u.IsTail) : ∀ r ∈ u.redirection, r.2 ≠ [] := by
    induction u, hu using IsTail.induction with
    | redirection op first rest h => simp [redirection, words]
    | pipe call t h ih =>
      rw [redirection_pipeExpr]
      intro r hr
      obtain ⟨u, hu, hr⟩ := Option.bind_eq_some_iff.1 hr
      exact ih u hu r hr
  obtain ⟨call, t, ht, rfl⟩ := exists_expr h
  rw [redirection_expr]
  intro r hr
  obtain ⟨u, hu, hr⟩ := Option.bind_eq_some_iff.1 hr
  exact htail (ht u hu) r hr

end Node

/-! ## Clauses in their places -/

/-- The stage of a call, without a clause. -/
def Stage.ofCall (call : Call) : Stage := ⟨call.1, call.2, none⟩

def Stage.call (s : Stage) : Call := (s.command, s.args)

def Clause.ofNames (redirection : Redirect × List String) : Clause :=
  ⟨redirection.1, redirection.2.map Path.ofString⟩

/-- The redirection of a clause, with the texts of its paths. -/
def Clause.names (c : Clause) : Redirect × List String := (c.op, c.targets.map Path.text)

/-- Gives the last stage a clause in the place of its own. -/
def giveLast (clause : Option Clause) : List Stage → List Stage
  | [] => []
  | [s] => [{ s with clause }]
  | s :: rest => s :: giveLast clause rest

/-- A clause in its place: input feeds the first stage, output comes from the last. -/
def place (clause : Option Clause) (stages : List Stage) : List Stage :=
  match clause with
  | none => stages
  | some c => if c.op = .input then giveFirst c stages else giveLast (some c) stages

lemma giveLast_cons {stages : List Stage} (h : stages ≠ []) (clause : Option Clause) (s : Stage) :
    giveLast clause (s :: stages) = s :: giveLast clause stages := by
  obtain ⟨second, rest, rfl⟩ := List.exists_cons_of_ne_nil h
  rfl

lemma giveLast_concat (clause : Option Clause) (stages : List Stage) (s : Stage) :
    giveLast clause (stages ++ [s]) = stages ++ [{ s with clause }] := by
  induction stages with
  | nil => rfl
  | cons first rest ih => rw [List.cons_append, giveLast_cons (by simp), ih, List.cons_append]

lemma bareLast_eq_giveLast (stages : List Stage) : bareLast stages = giveLast none stages := by
  induction stages with
  | nil => rfl
  | cons s rest ih =>
    cases rest with
    | nil => rfl
    | cons second rest => exact congrArg (s :: ·) ih

section
variable {stages : List Stage} (clause : Option Clause)

@[simp] lemma map_call_ofCall (calls : List Call) :
    (calls.map Stage.ofCall).map Stage.call = calls := by
  rw [List.map_map]
  exact List.map_id calls

@[simp] lemma map_call_giveLast : (giveLast clause stages).map Stage.call =
    stages.map Stage.call := by
  obtain rfl | ⟨front, s, rfl⟩ := List.eq_nil_or_concat' stages
  · rfl
  · rw [giveLast_concat, List.map_append, List.map_append]
    rfl

@[simp] lemma map_call_giveFirst (c : Clause) : (giveFirst c stages).map Stage.call =
    stages.map Stage.call := by
  cases stages <;> rfl

/-- Placing a clause changes no call. -/
@[simp] lemma map_call_place : (place clause stages).map Stage.call = stages.map Stage.call := by
  cases clause with
  | none => rfl
  | some c => simp only [place]; split <;> simp

variable (hbare : ∀ s ∈ stages, s.clause = none)
include hbare

lemma findSome?_bare : stages.findSome? Stage.clause = none :=
  List.findSome?_eq_none_iff.2 hbare

lemma findSome?_place (hne : stages ≠ []) :
    (place clause stages).findSome? Stage.clause = clause := by
  cases clause with
  | none => exact findSome?_bare hbare
  | some c =>
    simp only [place]
    split
    · obtain ⟨s, rest, rfl⟩ := List.exists_cons_of_ne_nil hne
      rfl
    · obtain ⟨front, s, rfl⟩ := (List.eq_nil_or_concat' stages).resolve_left hne
      have hfront : front.findSome? Stage.clause = none :=
        findSome?_bare fun s hs => hbare s (List.mem_append_left _ hs)
      rw [giveLast_concat, List.findSome?_append, hfront]
      rfl

/-- Moving an input clause from the last stage to the first puts it in its place. -/
lemma relocate_giveLast : relocate (giveLast clause stages) = place clause stages := by
  obtain rfl | ⟨front, s, rfl⟩ := List.eq_nil_or_concat' stages
  · cases clause with
    | none => rfl
    | some c => simp [place, giveFirst, giveLast, relocate]
  have hnone : s.clause = none := hbare s (by simp)
  have hs : { s with clause := none } = s := by rw [← hnone]
  have hlast := List.getLast?_concat (l := front) (a := { s with clause })
  rw [giveLast_concat, relocate, hlast, Option.bind_some]
  cases clause with
  | none =>
    rw [hs]
    split
    · next hsome => simp [hnone] at hsome
    · rfl
  | some c =>
    cases front with
    | nil => simp [place, giveFirst, giveLast]
    | cons first rest =>
      simp [bareLast_eq_giveLast, giveLast_cons, giveLast_concat, hs, place]

end

/-! ## The stages of a tree -/

namespace StageDraft

/-- The draft of a call that has been read. -/
def ofCall (call : Call) : StageDraft := ⟨call.1, call.2, none⟩

lemma readCall_files (d : StageDraft) (names : List String) :
    d.readCall (names.map Node.file) = .ok { d with args := d.args ++ names } := by
  induction names generalizing d with
  | nil => simp [readCall]
  | cons name names ih => simp [readCall, ih]

lemma readCall_ofCall (call : Call) :
    blank.readCall (.command call.1 :: call.2.map Node.file) = .ok (ofCall call) := by
  simp [readCall, readCall_files, blank, ofCall]

lemma readRedirection_files (op : Redirect) (target : Path) (targets : List Path)
    (names : List String) :
    readRedirection (some op) (target :: targets) (names.map Node.file) =
      .ok ⟨op, target :: targets ++ names.map Path.ofString⟩ := by
  induction names generalizing targets with
  | nil => simp [readRedirection]
  | cons name names ih => simp [readRedirection, ih]

lemma readRedirection_names (op : Redirect) (first : String) (rest : List String) :
    readRedirection none [] (.redirect op :: .file first :: rest.map Node.file) =
      .ok (.ofNames (op, first :: rest)) := by
  rw [readRedirection, readRedirection, List.nil_append, readRedirection_files]
  rfl

lemma finish_ofCall (call : Call) (clause : Option Clause) :
    { ofCall call with clause }.finish =
      if call.1 = "" then .error .commandMissing
      else .ok { Stage.ofCall call with clause } := rfl

end StageDraft

/-- The stages of calls with a clause behind them; a call without a name has none. -/
def stagesOfCalls (calls : List Call) (redirection : Option (Redirect × List String)) :
    Except PlanFault (List Stage) :=
  if "" ∈ calls.map Prod.fst then .error .commandMissing
  else .ok (giveLast (redirection.map Clause.ofNames) (calls.map Stage.ofCall))

lemma stagesOfCalls_cons {calls : List Call} (h : calls ≠ []) (call : Call)
    (redirection : Option (Redirect × List String)) :
    stagesOfCalls (call :: calls) redirection =
      if call.1 = "" then .error .commandMissing
      else (stagesOfCalls calls redirection).map (Stage.ofCall call :: ·) := by
  by_cases hcall : call.1 = ""
  · simp [stagesOfCalls, hcall]
  · by_cases hcalls : "" ∈ calls.map Prod.fst
    · simp [stagesOfCalls, hcalls, Except.map]
    · have hnone : "" ∉ (call :: calls).map Prod.fst := by
        simpa [Ne.symm hcall] using hcalls
      rw [stagesOfCalls, if_neg hnone, stagesOfCalls, if_neg hcalls, if_neg hcall, List.map_cons,
        giveLast_cons (by simpa using h)]
      rfl

namespace Node

lemma ofCall_ne_pipe (call : Call) : ofCall call ≠ pipe := by simp [ofCall]

lemma afterPipe_ofCall (call : Call) {t : Option Node} (ht : ∀ u ∈ t, u ≠ pipe) :
    afterPipe .pipe (ofCall call) t = ofCall call :: t.toList := by
  rw [afterPipe, List.filter_cons_of_neg (by simp), List.filter_eq_self]
  intro node hnode
  rcases List.mem_cons.1 hnode with rfl | hnode
  · simpa using ofCall_ne_pipe call
  · simpa using ht node (by simpa using hnode)

lemma ne_pipe_of_isTail {u : Node} (hu : u.IsTail) : u ≠ pipe := by
  rintro rfl
  simp [IsTail] at hu

lemma stagesOf_ofCall (call : Call) (rest : List Node) :
    stagesOf .blank (ofCall call :: rest) = stagesOf (.ofCall call) rest := by
  rw [ofCall, stagesOf, StageDraft.readCall_ofCall]

/-- A draft with a clause is a stage of its own when nothing is left to be read. -/
lemma stagesOf_nil (call : Call) (redirection : Option (Redirect × List String)) :
    stagesOf { StageDraft.ofCall call with clause := redirection.map Clause.ofNames } [] =
      stagesOfCalls [call] redirection := by
  rw [stagesOf, StageDraft.finish_ofCall]
  by_cases hcall : call.1 = ""
  · simp [stagesOfCalls, hcall]
  · simp [stagesOfCalls, hcall, Ne.symm hcall, giveLast]

/-- The draft of a call and the tail behind it give the stages of that call and of the tail. -/
lemma stagesOf_tail {u : Node} (hu : u.IsTail) (call : Call) :
    stagesOf (.ofCall call) [u] = stagesOfCalls (call :: u.calls) u.redirection := by
  induction u, hu using IsTail.induction generalizing call with
  | redirection op first rest h =>
    have hred := stagesOf_nil call (some (op, first :: rest))
    rw [stagesOf, StageDraft.readRedirection_names]
    simpa [calls, redirection, words, words_map_file] using hred
  | pipe second t h ih =>
    have hrest : stagesOf (.ofCall second) t.toList =
        stagesOfCalls (second :: t.toList.flatMap calls) (t.bind redirection) := by
      cases t with
      | none => exact stagesOf_nil second none
      | some u => simpa using ih u rfl second
    have hfinish : (StageDraft.ofCall call).finish =
        if call.1 = "" then .error .commandMissing else .ok (Stage.ofCall call) := rfl
    have hpipes : ∀ u ∈ t, u ≠ pipe := fun u hu => ne_pipe_of_isTail ((isTail_pipeExpr.1 h).2 u hu)
    rw [stagesOf, afterPipe_ofCall second hpipes, stagesOf_ofCall, hrest, hfinish, calls_pipeExpr,
      redirection_pipeExpr, calls_ofCall, List.singleton_append,
      stagesOfCalls_cons (List.cons_ne_nil _ _)]
    by_cases hcall : call.1 = ""
    · simp only [if_pos hcall]
    · simp only [if_neg hcall]
      cases stagesOfCalls (second :: t.toList.flatMap calls) (t.bind Node.redirection) <;> rfl

lemma stagesOf_children {tree : Node} (h : tree.WellFormed) :
    stagesOf .blank tree.children = stagesOfCalls tree.calls tree.redirection := by
  obtain ⟨call, t, ht, rfl⟩ := exists_expr h
  rw [children, stagesOf_ofCall, calls_expr, calls_ofCall, redirection_expr]
  cases t with
  | none => exact stagesOf_nil call none
  | some u => simpa using stagesOf_tail (ht u rfl) call

end Node

/-! ## Pipelines of lines -/

lemma Stage.clause_of_mem_map_ofCall {calls : List Call} {s : Stage}
    (h : s ∈ calls.map Stage.ofCall) : s.clause = none := by
  obtain ⟨call, -, rfl⟩ := List.mem_map.1 h
  rfl

namespace Pipeline

/-- Only a call without a name keeps a line from having a pipeline. -/
lemma ofNode_eq_error {tree : Node} (h : tree.WellFormed) (hname : "" ∈ tree.calls.map Prod.fst) :
    ofNode tree = .error .commandMissing := by
  rw [ofNode, Node.stagesOf_children h, stagesOfCalls, if_pos hname]

/-- Stages of calls with a clause behind them make a pipeline with the clause in its place. -/
lemma ofNode_of_stagesOf {tree : Node} {calls : List Call} {clause : Option Clause}
    (h : stagesOf .blank tree.children = .ok (giveLast clause (calls.map Stage.ofCall)))
    (hne : calls ≠ []) :
    ∃ p, ofNode tree = .ok p ∧ p.stages = place clause (calls.map Stage.ofCall) := by
  have hplaced : place clause (calls.map Stage.ofCall) ≠ [] := by
    intro hnil
    have hcalls := congrArg (List.map Stage.call) hnil
    rw [map_call_place, map_call_ofCall, List.map_nil] at hcalls
    exact hne hcalls
  refine ⟨⟨_, hplaced⟩, ?_, rfl⟩
  simp only [ofNode, h, relocate_giveLast _ fun s => Stage.clause_of_mem_map_ofCall, ofStages?,
    dif_pos hplaced]

/-- The pipeline of a line: its calls, with its redirection in its place. -/
lemma ofNode_eq_ok {tree : Node} (h : tree.WellFormed) (hnames : "" ∉ tree.calls.map Prod.fst) :
    ∃ p, ofNode tree = .ok p ∧
      p.stages = place (tree.redirection.map Clause.ofNames) (tree.calls.map Stage.ofCall) := by
  refine ofNode_of_stagesOf ?_ (Node.calls_ne_nil h)
  rw [Node.stagesOf_children h, stagesOfCalls, if_neg hnames]

section
variable {tree : Node} {p : Pipeline} (h : tree.WellFormed) (hp : ofNode tree = .ok p)
include h hp

lemma stages_of_ofNode :
    p.stages = place (tree.redirection.map Clause.ofNames) (tree.calls.map Stage.ofCall) := by
  by_cases hnames : "" ∈ tree.calls.map Prod.fst
  · rw [ofNode_eq_error h hnames] at hp
    cases hp
  · obtain ⟨q, hq, hstages⟩ := ofNode_eq_ok h hnames
    rw [hq] at hp
    cases hp
    exact hstages

lemma calls_of_ofNode : p.stages.map Stage.call = tree.calls := by
  rw [stages_of_ofNode h hp, map_call_place, map_call_ofCall]

lemma clause_of_ofNode : p.clause = tree.redirection.map Clause.ofNames := by
  rw [clause, stages_of_ofNode h hp]
  exact findSome?_place _ (fun s => Stage.clause_of_mem_map_ofCall)
    (by simpa using Node.calls_ne_nil h)

end

/-- A pipeline is written as its calls with its clause behind them. -/
lemma words_eq_lineTokens (p : Pipeline) :
    p.words = lineTokens (p.stages.map Stage.call) (p.clause.map Clause.names) := by
  simp only [words, lineTokens, List.map_map]
  cases p.clause <;> rfl

end Pipeline

/-- The spelling in which a path is written. -/
def normalSpelling (target : String) : String := (Path.ofString target).text

lemma Clause.names_ofNames (redirection : Redirect × List String) :
    (Clause.ofNames redirection).names = (redirection.1, redirection.2.map normalSpelling) := by
  simp only [names, ofNames, List.map_map]
  rfl

/-- A line has a pipeline unless one of its calls has no name. The pipeline has the calls of the
line in their order, and it is written like the line, with the files of the redirection in their
normal spelling. -/
theorem plan_keeps_tokens (tokens : List String) (tree : Node) (h : parse tokens = .ok tree) :
    tokens = lineTokens tree.calls tree.redirection ∧
    ((∃ fault, Pipeline.ofNode tree = .error fault) ↔ "" ∈ tree.calls.map Prod.fst) ∧
    ("" ∉ tree.calls.map Prod.fst → ∃ p, Pipeline.ofNode tree = .ok p ∧
      p.stages.map Stage.call = tree.calls ∧
      p.words = lineTokens tree.calls
        (tree.redirection.map fun r => (r.1, r.2.map normalSpelling)) ∧
      ((∀ r ∈ tree.redirection, ∀ target ∈ r.2, normalSpelling target = target) →
        p.words = tokens)) := by
  obtain ⟨hwf, rfl⟩ := parse_eq_ok_iff.1 h
  have htokens := Node.words_eq_lineTokens hwf
  refine ⟨htokens, ?_, ?_⟩
  · constructor
    · rintro ⟨fault, hfault⟩
      by_contra hnames
      obtain ⟨p, hp, -⟩ := Pipeline.ofNode_eq_ok hwf hnames
      rw [hp] at hfault
      cases hfault
    · exact fun hname => ⟨_, Pipeline.ofNode_eq_error hwf hname⟩
  · intro hnames
    obtain ⟨p, hp, -⟩ := Pipeline.ofNode_eq_ok hwf hnames
    have hcalls := Pipeline.calls_of_ofNode hwf hp
    have hclause := Pipeline.clause_of_ofNode hwf hp
    have hwords : p.words = lineTokens tree.calls
        (tree.redirection.map fun r => (r.1, r.2.map normalSpelling)) := by
      rw [p.words_eq_lineTokens, hcalls, hclause, Option.map_map]
      simp only [Function.comp_def, Clause.names_ofNames]
    refine ⟨p, hp, hcalls, hwords, fun hnormal => ?_⟩
    rw [hwords, htokens]
    cases hred : tree.redirection with
    | none => rfl
    | some r =>
      have hsame : r.2.map normalSpelling = r.2 :=
        (List.map_congr_left (hnormal r hred)).trans (List.map_id' r.2)
      rw [Option.map_some, hsame]

/-- An input clause behind a pipe is written where it stood, in its normal spelling. -/
theorem plan_keeps_tokens_of_input :
    let tokens := ["sort", "-r", "|", "cat", "<", "a//b/"]
    let tree : Node := .expr (.ofCall ("sort", ["-r"]))
      (some (.pipeExpr .pipe (.ofCall ("cat", []))
        (some (.redirectExpr (.redirect .input) (.file "a//b/") []))))
    parse tokens = .ok tree ∧ ∃ p, Pipeline.ofNode tree = .ok p ∧
      p.stages.map Stage.call = [("sort", ["-r"]), ("cat", [])] ∧
      p.words = ["sort", "-r", "|", "cat", "<", "a/b"] := by
  intro tokens tree
  have hcalls : tree.calls = [("sort", ["-r"]), ("cat", [])] := by simp [tree, Node.calls]
  have hred : tree.redirection = some (.input, ["a//b/"]) := by
    simp [tree, Node.redirection, Node.words]
  have hfiles : isFilename "-r" = true ∧ isFilename "a//b/" = true := by decide
  have hwf : tree.WellFormed := by
    simp [tree, Node.wellFormed_expr, Node.IsTail, Node.IsOperand, hfiles]
  have hparse : parse tokens = .ok tree := by
    refine parse_eq_ok_iff.2 ⟨hwf, ?_⟩
    rw [Node.words_eq_lineTokens hwf, hcalls, hred]
    rfl
  obtain ⟨p, hp, hstages, hwords, -⟩ :=
    (plan_keeps_tokens tokens tree hparse).2.2 (by rw [hcalls]; decide)
  have hspelling : normalSpelling "a//b/" = "a/b" := by decide
  refine ⟨hparse, p, hp, hstages.trans hcalls, ?_⟩
  rw [hwords, hcalls, hred, Option.map_some, List.map_singleton, hspelling]
  rfl

end CommandShell
