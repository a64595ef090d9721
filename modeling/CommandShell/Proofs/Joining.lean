import CommandShell.Proofs.Planning
import CommandShell.Proofs.Positions

/-!
# Lines joined by a pipe

A pipe between two lines grafts the second line to the end of the first: the calls follow on, and
what stands last in the second line stands last in the joined one. Reading gets through the pipe as
if it started over, so a refusal of the second line is moved by what stands before it. Only behind
a redirection there is no room for a pipe.
-/
namespace CommandShell

namespace Node

/-- Puts a tail where a tree ends. A redirection cannot have a tail. -/
def graft (node u : Node) : Node :=
  match node with
  | expr c none => expr c (some u)
  | expr c (some t) => expr c (some (t.graft u))
  | pipeExpr p c none => pipeExpr p c (some u)
  | pipeExpr p c (some t) => pipeExpr p c (some (t.graft u))
  | node => node

/-- The tail behind a call that may have had one before. -/
def graftTail (t : Option Node) (u : Node) : Node := (t.map (graft · u)).getD u

lemma graft_expr (c : Node) (t : Option Node) (u : Node) :
    (expr c t).graft u = expr c (some (graftTail t u)) := by
  cases t <;> rfl

lemma graft_pipeExpr (c : Node) (t : Option Node) (u : Node) :
    (pipeExpr p c t).graft u = pipeExpr p c (some (graftTail t u)) := by
  cases t <;> rfl

/-- A tail that says first what may have stood there before, and then what a new tail says. -/
structure Continues (t : Option Node) (u w : Node) : Prop where
  isTail : w.IsTail
  words : w.words = t.toList.flatMap Node.words ++ u.words
  calls : w.calls = t.toList.flatMap Node.calls ++ u.calls
  redirection : w.redirection = u.redirection

lemma Continues.pipe {t : Option Node} {u w : Node} (h : Continues t u w) {c : Node}
    (hc : c.IsCall) : Continues (some (pipeExpr pipe c t)) u (pipeExpr pipe c (some w)) where
  isTail := isTail_pipeExpr.2 ⟨hc, by simpa using h.isTail⟩
  words := by simp [words_pipeExpr, h.words]
  calls := by simp [calls_pipeExpr, h.calls]
  redirection := by simp [redirection_pipeExpr, h.redirection]

lemma continues_none {u : Node} (hu : u.IsTail) : Continues none u (graftTail none u) :=
  ⟨hu, rfl, rfl, rfl⟩

/-- A tail without a redirection goes on with the tail that is grafted to it. -/
lemma continues_graft {t u : Node} (ht : t.IsTail) (hred : t.redirection = none) (hu : u.IsTail) :
    Continues (some t) u (t.graft u) := by
  induction t, ht using IsTail.induction with
  | redirection op first rest h => simp [redirection] at hred
  | pipe call t h ih =>
    have hcall := (isTail_pipeExpr.1 h).1
    rw [graft_pipeExpr]
    rw [redirection_pipeExpr] at hred
    cases t with
    | none => exact (continues_none hu).pipe hcall
    | some t => exact (ih t rfl hred).pipe hcall

lemma continues_graftTail {t : Option Node} {u : Node} (ht : ∀ v ∈ t, v.IsTail)
    (hred : t.bind redirection = none) (hu : u.IsTail) : Continues t u (graftTail t u) := by
  cases t with
  | none => exact continues_none hu
  | some t => exact continues_graft (ht t rfl) hred hu

section
variable {tree u : Node} (htree : tree.WellFormed) (hred : tree.redirection = none)
  (hu : u.IsTail)
include htree hred hu

/-- A tree that a tail is grafted to is a call with a tail that goes on. -/
lemma exists_graft : ∃ c t w, c.IsCall ∧ tree = expr c t ∧ tree.graft u = expr c (some w) ∧
    Continues t u w := by
  obtain ⟨call, t, ht, rfl⟩ := exists_expr htree
  rw [redirection_expr] at hred
  exact ⟨ofCall call, t, graftTail t u, (wellFormed_expr.1 htree).1, rfl, graft_expr _ t u,
    continues_graftTail ht hred hu⟩

lemma wellFormed_graft : (tree.graft u).WellFormed := by
  obtain ⟨c, t, w, hc, -, hgraft, hw⟩ := exists_graft htree hred hu
  rw [hgraft, wellFormed_expr]
  exact ⟨hc, by simpa using hw.isTail⟩

lemma words_graft : (tree.graft u).words = tree.words ++ u.words := by
  obtain ⟨c, t, w, -, rfl, hgraft, hw⟩ := exists_graft htree hred hu
  simp [hgraft, words_expr, hw.words]

lemma calls_graft : (tree.graft u).calls = tree.calls ++ u.calls := by
  obtain ⟨c, t, w, -, rfl, hgraft, hw⟩ := exists_graft htree hred hu
  simp [hgraft, calls_expr, hw.calls]

lemma redirection_graft : (tree.graft u).redirection = u.redirection := by
  obtain ⟨c, t, w, -, rfl, hgraft, hw⟩ := exists_graft htree hred hu
  simp [hgraft, redirection_expr, hw.redirection]

end

end Node

/-! ## Reading through a pipe -/

/-- The refusal of the same tokens when they stand further on in a line. -/
def Refusal.shift (n : Nat) : Refusal → Refusal
  | fault index detail => fault (n + index) detail
  | pastEnd => pastEnd

namespace Expecting

lemma after_append {e e' : Expecting} {xs : List String} (ys : List String)
    (h : e.after xs = .ok e') : e.after (xs ++ ys) = e'.after ys := by
  induction xs generalizing e with
  | nil => cases h; rfl
  | cons token rest ih =>
    cases hnext : e.next token with
    | error detail => simp only [after, hnext, reduceCtorEq] at h
    | ok e'' =>
      simp only [after, hnext] at h
      simp only [List.cons_append, after, hnext]
      exact ih h

lemma scan_shift (e : Expecting) (n index : Nat) (tokens : List String) :
    e.scan (n + index) tokens = (e.scan index tokens).map (.shift n) := by
  induction tokens generalizing e index with
  | nil => cases e <;> rfl
  | cons token rest ih =>
    simp only [scan]
    cases e.next token with
    | error detail => rfl
    | ok e' => exact ih e' (index + 1)

/-- What is expected after a line: an operator, or a further file of its redirection. -/
def atEnd : Option (Redirect × List String) → Expecting
  | none => operand
  | some _ => furtherTarget

lemma after_operands {names : List String} (h : ∀ name ∈ names, isFilename name = true) :
    operand.after names = .ok operand :=
  after_eq_self fun name hname => next_operand_of_isFilename (h name hname)

lemma after_ofCall {call : Call} (h : (Node.ofCall call).IsCall) :
    command.after (Node.ofCall call).words = .ok operand := by
  rw [Node.words_ofCall]
  exact after_operands (Node.isCall_ofCall.1 h)

/-- A tail leads from where operands are expected to the end of a line. -/
lemma after_tail {u : Node} (hu : u.IsTail) :
    operand.after u.words = .ok (atEnd u.redirection) := by
  induction u, hu using Node.IsTail.induction with
  | redirection op first rest h =>
    simp only [Node.IsTail, Node.IsOperand, List.mem_map, forall_exists_index, and_imp,
      forall_apply_eq_imp_iff₂] at h
    have hrest : furtherTarget.after rest = .ok furtherTarget :=
      after_eq_self fun name hname => by simp [next, h.2 name hname]
    have hwords : (Node.redirectExpr (.redirect op) (.file first) (rest.map .file)).words =
        op.symbol :: first :: rest := by
      simp [Node.words, Node.words_map_file]
    rw [hwords, after, next_operand_symbol]
    simp only [after, next, h.1, if_true, hrest]
    rfl
  | pipe call t h ih =>
    have hcall := after_ofCall (Node.isTail_pipeExpr.1 h).1
    rw [Node.words_pipeExpr, after, next_operand_pipe, Node.redirection_pipeExpr]
    dsimp only
    rw [after_append _ hcall]
    cases t with
    | none => rfl
    | some u => simpa using ih u rfl

/-- A line leads from its start to its end. -/
theorem after_words {tree : Node} (h : tree.WellFormed) :
    command.after tree.words = .ok (atEnd tree.redirection) := by
  obtain ⟨call, t, ht, rfl⟩ := Node.exists_expr h
  have hcall := after_ofCall (Node.wellFormed_expr.1 h).1
  rw [Node.words_expr, after_append _ hcall, Node.redirection_expr]
  cases t with
  | none => rfl
  | some u => simpa using after_tail (ht u rfl)

end Expecting

/-- Reading that fails gives the position and the reason. -/
lemma exists_fault {tokens : List String} {refusal : Refusal} (h : parse tokens = .error refusal) :
    ∃ index detail, refusal = .fault index detail := by
  have hscan : Expecting.command.scan 0 tokens = some refusal := by
    rw [Expecting.scan_eq_refusal?, h, refusal?]
  obtain ⟨xs, ys, e, detail, -, -, rfl, -⟩ := Expecting.scan_eq_some hscan
  exact ⟨0 + xs.length, detail, rfl⟩

lemma parse_eq_error_iff {tokens : List String} {refusal : Refusal} :
    parse tokens = .error refusal ↔ Expecting.command.scan 0 tokens = some refusal := by
  rw [Expecting.scan_eq_refusal?]
  cases parse tokens <;> simp [refusal?]

section
variable {a : List String} {tree : Node} (h : parse a = .ok tree)
include h

/-- Behind a line with no redirection a pipe starts the next line. -/
lemma scan_append_pipe (hred : tree.redirection = none) (b : List String) :
    Expecting.command.scan 0 (a ++ pipeToken :: b) =
      (Expecting.command.scan 0 b).map (.shift (a.length + 1)) := by
  obtain ⟨hwf, rfl⟩ := parse_eq_ok_iff.1 h
  have hafter := Expecting.after_words hwf
  rw [hred] at hafter
  rw [Expecting.scan_append _ hafter, ← Expecting.scan_shift, Nat.zero_add]
  simp only [Expecting.atEnd, Expecting.scan, Expecting.next_operand_pipe, Nat.add_zero]

lemma scan_append_pipe_of_redirection (hred : tree.redirection ≠ none) (b : List String) :
    Expecting.command.scan 0 (a ++ pipeToken :: b) =
      some (.fault a.length (.endMissing pipeToken)) := by
  obtain ⟨hwf, rfl⟩ := parse_eq_ok_iff.1 h
  obtain ⟨r, hr⟩ := Option.ne_none_iff_exists'.1 hred
  have hafter := Expecting.after_words hwf
  rw [hr] at hafter
  rw [Expecting.scan_append _ hafter, Nat.zero_add]
  simp [Expecting.atEnd, Expecting.scan, Expecting.next, isFilename_pipeToken]

end

/-! ## The stages of a joined line -/

def Stage.bare (s : Stage) : Stage := { s with clause := none }

lemma Stage.bare_eq_ofCall (s : Stage) : s.bare = .ofCall s.call := rfl

/-- Without their clauses the stages of a pipeline are those of its calls. -/
lemma map_bare_place (clause : Option Clause) (calls : List Call) :
    (place clause (calls.map Stage.ofCall)).map Stage.bare = calls.map Stage.ofCall := by
  have hbare : Stage.bare = Stage.ofCall ∘ Stage.call := funext Stage.bare_eq_ofCall
  rw [hbare, ← List.map_map, map_call_place, map_call_ofCall]

/-- The pipeline of a line whose calls are those of two others and whose redirection is that of
the second. -/
lemma Pipeline.ofNode_join {first second joined : Node} (hfirst : first.WellFormed)
    (hsecond : second.WellFormed) (hjoined : joined.WellFormed)
    (hcalls : joined.calls = first.calls ++ second.calls) (hfirstRed : first.redirection = none)
    (hred : joined.redirection = second.redirection)
    (hnames : "" ∉ (first.calls ++ second.calls).map Prod.fst) :
    ∃ p q r, ofNode first = .ok p ∧ ofNode second = .ok q ∧ ofNode joined = .ok r ∧
      r.stages = place q.clause (p.stages ++ q.stages.map Stage.bare) := by
  have hboth := hnames
  simp only [List.map_append, List.mem_append, not_or] at hboth
  obtain ⟨p, hp, hpstages⟩ := ofNode_eq_ok hfirst hboth.1
  obtain ⟨q, hq, hqstages⟩ := ofNode_eq_ok hsecond hboth.2
  obtain ⟨r, hr, hrstages⟩ := ofNode_eq_ok hjoined (hcalls ▸ hnames)
  refine ⟨p, q, r, hp, hq, hr, ?_⟩
  rw [hrstages, clause_of_ofNode hsecond hq, hqstages, map_bare_place, hpstages, hcalls, hred,
    hfirstRed, List.map_append]
  rfl

/-- A pipe joins two lines into one when the first has no redirection: the second is grafted to the
end of the first, its stages follow those of the first, and its clause takes effect in the whole. A
refusal of the second line is moved by the tokens before it, and behind a redirection the pipe
itself is refused. -/
theorem parse_append_pipe (a b : List String) (first : Node) (h : parse a = .ok first) :
    (first.redirection = none →
      (∀ second, parse b = .ok second → ∃ c t, second = .expr c t ∧
        parse (a ++ pipeToken :: b) = .ok (first.graft (.pipeExpr .pipe c t)) ∧
        ("" ∉ (first.calls ++ second.calls).map Prod.fst →
          ∃ p q r, Pipeline.ofNode first = .ok p ∧ Pipeline.ofNode second = .ok q ∧
            Pipeline.ofNode (first.graft (.pipeExpr .pipe c t)) = .ok r ∧
            r.stages = place q.clause (p.stages ++ q.stages.map Stage.bare))) ∧
      (∀ refusal, parse b = .error refusal → ∃ index detail, refusal = .fault index detail ∧
        parse (a ++ pipeToken :: b) = .error (.fault (a.length + 1 + index) detail))) ∧
    (first.redirection ≠ none →
      parse (a ++ pipeToken :: b) = .error (.fault a.length (.endMissing pipeToken))) ∧
    (Detail.endMissing pipeToken).message = "expected end of input, got '|'" := by
  refine ⟨fun hred => ⟨fun second hsecond => ?_, fun refusal hrefusal => ?_⟩, fun hred => ?_,
    by decide⟩
  · obtain ⟨hfirst, rfl⟩ := parse_eq_ok_iff.1 h
    obtain ⟨hwf, rfl⟩ := parse_eq_ok_iff.1 hsecond
    obtain ⟨call, t, ht, rfl⟩ := Node.exists_expr hwf
    have htail : (Node.pipeExpr .pipe (.ofCall call) t).IsTail :=
      Node.isTail_pipeExpr.2 (Node.wellFormed_expr.1 hwf)
    have hgraft := Node.wellFormed_graft hfirst hred htail
    refine ⟨.ofCall call, t, rfl, parse_eq_ok_iff.2 ⟨hgraft, ?_⟩, ?_⟩
    · rw [Node.words_graft hfirst hred htail, Node.words_pipeExpr, Node.words_expr]
    · refine Pipeline.ofNode_join hfirst hwf hgraft ?_ hred ?_
      · rw [Node.calls_graft hfirst hred htail, Node.calls_pipeExpr, Node.calls_expr]
      · rw [Node.redirection_graft hfirst hred htail, Node.redirection_pipeExpr,
          Node.redirection_expr]
  · obtain ⟨index, detail, rfl⟩ := exists_fault hrefusal
    refine ⟨index, detail, rfl, parse_eq_error_iff.2 ?_⟩
    rw [scan_append_pipe h hred, parse_eq_error_iff.1 hrefusal]
    rfl
  · exact parse_eq_error_iff.2 (scan_append_pipe_of_redirection h hred b)

/-- The input of the second line feeds the first stage of the joined one. -/
theorem parse_append_pipe_of_input :
    let first : Node := .expr (.ofCall ("a", ["x"])) none
    let redirection : Node := .redirectExpr (.redirect .input) (.file "f") []
    let second : Node := .expr (.ofCall ("b", [])) (some redirection)
    parse ["a", "x"] = .ok first ∧ parse ["b", "<", "f"] = .ok second ∧
      ∃ joined r, parse ["a", "x", "|", "b", "<", "f"] = .ok joined ∧
        joined = .expr (.ofCall ("a", ["x"]))
          (some (.pipeExpr .pipe (.ofCall ("b", [])) (some redirection))) ∧
        Pipeline.ofNode joined = .ok r ∧
        r.stages = [⟨"a", ["x"], some ⟨.input, [Path.ofString "f"]⟩⟩, ⟨"b", [], none⟩] := by
  intro first redirection second
  have hfiles : isFilename "x" = true ∧ isFilename "f" = true := by decide
  have hfirst : parse ["a", "x"] = .ok first :=
    parse_eq_ok_iff.2 ⟨by simpa [first, Node.wellFormed_expr] using hfiles.1,
      by simp [first, Node.words_expr]⟩
  have hwf : second.WellFormed := by
    simpa [second, redirection, Node.wellFormed_expr, Node.IsTail, Node.IsOperand] using hfiles.2
  have hsecond : parse ["b", "<", "f"] = .ok second :=
    parse_eq_ok_iff.2 ⟨hwf, by simp [second, redirection, Node.words_expr, Node.words]; rfl⟩
  have hnames : "" ∉ (first.calls ++ second.calls).map Prod.fst := by
    simp [first, second, Node.calls, redirection]
  obtain ⟨c, t, heq, hjoined, hstages⟩ :=
    (parse_append_pipe ["a", "x"] ["b", "<", "f"] first hfirst).1 rfl |>.1 second hsecond
  obtain ⟨rfl, rfl⟩ := Node.expr.inj heq
  obtain ⟨p, q, r, hp, hq, hr, hplace⟩ := hstages hnames
  refine ⟨hfirst, hsecond, _, r, hjoined, rfl, hr, ?_⟩
  have hred : second.redirection = some (.input, ["f"]) := by
    simp [second, redirection, Node.redirection, Node.words]
  have hcalls : first.calls = [("a", ["x"])] ∧ second.calls = [("b", [])] := by
    simp [first, second, redirection, Node.calls]
  have hfirstWf := (parse_eq_ok_iff.1 hfirst).1
  rw [hplace, Pipeline.stages_of_ofNode hfirstWf hp, Pipeline.stages_of_ofNode hwf hq,
    Pipeline.clause_of_ofNode hwf hq, hred, hcalls.1, hcalls.2]
  rfl

end CommandShell
