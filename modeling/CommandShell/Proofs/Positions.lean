import CommandShell.Proofs.Grammar

/-!
# Where reading stops

The grammar is also read by an automaton that knows only what it expects next. It never looks ahead,
so the token it stops at is the first one that no line could have there, and whatever it expects can
still be given. Reading stops where the automaton does and for the same reason, which settles the
positions of all refusals.
-/
namespace CommandShell

/-- What the next token is read as. Each state but the first comes after at least one token. -/
inductive Expecting
  | command
  | operand
  | target (op : Redirect)
  | furtherTarget

namespace Expecting

/-- What is expected after a token, or what the token fails to be. -/
def next : Expecting → String → Except Detail Expecting
  | command, _ => .ok operand
  | operand, token =>
    if token = pipeToken then .ok command
    else
      match Redirect.ofToken? token with
      | some op => .ok (target op)
      | none => .ok operand
  | target op, token =>
    if isFilename token then .ok furtherTarget else .error (.operandMissing op)
  | furtherTarget, token =>
    if isFilename token then .ok furtherTarget else .error (.endMissing token)

/-- What is missing when there are no more tokens. -/
def missing : Expecting → Option Detail
  | command => some .commandMissing
  | operand => none
  | target op => some (.operandMissing op)
  | furtherTarget => none

/-- Tokens with which a line can end. -/
def completion : Expecting → List String
  | command => ["a"]
  | operand => []
  | target _ => ["a"]
  | furtherTarget => []

def after (e : Expecting) : List String → Except Detail Expecting
  | [] => .ok e
  | token :: rest =>
    match e.next token with
    | .error detail => .error detail
    | .ok e => e.after rest

/-- The first refusal among tokens, the first of which has the given index. -/
def scan (e : Expecting) (index : Nat) : List String → Option Refusal
  | [] => e.missing.map (.fault index)
  | token :: rest =>
    match e.next token with
    | .error detail => some (.fault index detail)
    | .ok e => e.scan (index + 1) rest

lemma next_operand_pipe : operand.next pipeToken = .ok command := by simp [next]

lemma next_operand_symbol (op : Redirect) : operand.next op.symbol = .ok (target op) := by
  simp [next, op.symbol_ne_pipeToken]

lemma next_operand_of_isFilename {token : String} (h : isFilename token = true) :
    operand.next token = .ok operand := by
  simp only [isFilename, Bool.and_eq_true, bne_iff_ne, Option.isNone_iff_eq_none] at h
  simp [next, h]

lemma after_eq_self {e : Expecting} {tokens : List String}
    (h : ∀ token ∈ tokens, e.next token = .ok e) : e.after tokens = .ok e := by
  induction tokens with
  | nil => rfl
  | cons token rest ih =>
    rw [after, h token List.mem_cons_self]
    exact ih fun t ht => h t (List.mem_cons_of_mem _ ht)

lemma scan_append {e e' : Expecting} {index : Nat} {xs : List String} (ys : List String)
    (h : e.after xs = .ok e') : e.scan index (xs ++ ys) = e'.scan (index + xs.length) ys := by
  induction xs generalizing e index with
  | nil => cases h; rfl
  | cons token rest ih =>
    cases hnext : e.next token with
    | error detail => simp only [after, hnext, reduceCtorEq] at h
    | ok e'' =>
      simp only [after, hnext] at h
      simp only [List.cons_append, scan, hnext]
      rw [ih h, List.length_cons, Nat.add_right_comm, Nat.add_assoc]

lemma scan_completion (e : Expecting) (index : Nat) : e.scan index e.completion = none := by
  cases e <;> rfl

/-- Scanning stops at the end or at a token that is not expected. -/
lemma scan_eq_some {e : Expecting} {index : Nat} {tokens : List String} {refusal : Refusal}
    (h : e.scan index tokens = some refusal) :
    ∃ (xs ys : List String) (e' : Expecting) (detail : Detail), tokens = xs ++ ys ∧
      e.after xs = .ok e' ∧ refusal = .fault (index + xs.length) detail ∧
      (ys = [] ∧ e'.missing = some detail ∨
        ∃ token rest, ys = token :: rest ∧ e'.next token = .error detail) := by
  induction tokens generalizing e index with
  | nil =>
    obtain ⟨detail, hmissing, hrefusal⟩ := Option.map_eq_some_iff.1 h
    exact ⟨[], [], e, detail, rfl, rfl, hrefusal.symm, .inl ⟨rfl, hmissing⟩⟩
  | cons token rest ih =>
    cases hnext : e.next token with
    | error detail =>
      simp only [scan, hnext, Option.some.injEq] at h
      exact ⟨[], token :: rest, e, detail, rfl, rfl, h.symm, .inr ⟨token, rest, rfl, hnext⟩⟩
    | ok e'' =>
      simp only [scan, hnext] at h
      obtain ⟨xs, ys, e', detail, rfl, hafter, hrefusal, hstop⟩ := ih h
      refine ⟨token :: xs, ys, e', detail, rfl, ?_, ?_, hstop⟩
      · simp only [after, hnext, hafter]
      · rw [hrefusal, List.length_cons, Nat.add_right_comm, Nat.add_assoc]

end Expecting

/-- Why a rule refuses, if it does. -/
def refusal? {α : Type} : Except Refusal α → Option Refusal
  | .ok _ => none
  | .error refusal => some refusal

/-- Why a line is refused whose tail is read with the given result. -/
def lineRefusal? : Except Refusal (Option Node × Cursor) → Option Refusal
  | .error refusal => some refusal
  | .ok (_, ⟨_, []⟩) => none
  | .ok (_, ⟨index, token :: _⟩) => some (.fault index (.endMissing token))

lemma lineRefusal?_map (f : Option Node → Option Node)
    (result : Except Refusal (Option Node × Cursor)) :
    lineRefusal? (result.map fun r => (f r.1, r.2)) = lineRefusal? result := by
  match result with
  | .error _ => rfl
  | .ok (_, ⟨_, []⟩) => rfl
  | .ok (_, ⟨_, _ :: _⟩) => rfl

namespace Expecting
open Rule Cursor

lemma scan_operands {e : Expecting} (he : ∀ token, isFilename token = true → e.next token = .ok e)
    (c : Cursor) : e.scan c.index c.ahead = e.scan c.operands.2.index c.operands.2.ahead := by
  have hpass := c.operands_passes
  have hafter : e.after (c.operands.1.flatMap Node.words) = .ok e := by
    refine after_eq_self fun token htoken => he token ?_
    obtain ⟨f, hf, htoken⟩ := List.mem_flatMap.1 htoken
    obtain ⟨name, hname, rfl⟩ := Node.isOperand_iff.1 (c.operands_isOperand f hf)
    obtain rfl : token = name := by simpa [Node.words] using htoken
    exact hname
  rw [hpass.ahead, hpass.index, scan_append _ hafter]

/-- A call is scanned like the place where it ends; it is refused for want of a command only. -/
lemma scan_command (c : Cursor) :
    command.scan c.index c.ahead =
      match call c with
      | .error refusal => some refusal
      | .ok (_, d) => operand.scan d.index d.ahead := by
  match c with
  | ⟨index, []⟩ => rfl
  | ⟨index, name :: rest⟩ =>
    exact scan_operands (fun token => next_operand_of_isFilename) ⟨index + 1, rest⟩

lemma scan_furtherTarget {c : Cursor} (hbreak : c.AtBreak) (t : Option Node) :
    furtherTarget.scan c.index c.ahead = lineRefusal? (.ok (t, c)) := by
  match c, hbreak with
  | ⟨index, []⟩, _ => rfl
  | ⟨index, token :: rest⟩, hbreak =>
    have htoken : isFilename token = false := hbreak token rfl
    simp [scan, next, htoken, lineRefusal?]

/-- After a redirection operator the automaton goes on exactly as the redirection does. -/
lemma scan_target (index : Nat) (rest : List String) (op : Redirect) :
    (target op).scan (index + 1) rest =
      lineRefusal? ((redirection ⟨index, op.symbol :: rest⟩).map fun r => (some r.1, r.2)) := by
  by_cases hbreak : AtBreak ⟨index + 1, rest⟩
  · rw [redirection_of_nil (operands_of_atBreak hbreak)]
    cases rest with
    | nil => rfl
    | cons token rest =>
      have htoken : isFilename token = false := hbreak token rfl
      simp [scan, next, htoken, Except.map, lineRefusal?]
  · obtain ⟨token, rest, rfl, htoken⟩ : ∃ token more, rest = token :: more ∧
        isFilename token = true := by
      cases rest <;> simp_all [AtBreak]
    have hfiles : operands ⟨index + 1, token :: rest⟩ =
        (.file token :: (operands ⟨index + 2, rest⟩).1, (operands ⟨index + 2, rest⟩).2) := by
      refine operands_eq ?_ ?_ (operands_atBreak _)
      · simpa [Node.IsOperand, htoken] using operands_isOperand ⟨index + 2, rest⟩
      · simpa [Node.words] using (operands_passes ⟨index + 2, rest⟩).cons token
    have hscan := scan_operands (e := furtherTarget) (fun t ht => by simp [next, ht])
      ⟨index + 2, rest⟩
    rw [redirection_of_cons hfiles]
    simp only [scan, next, htoken, if_true, Except.map]
    rw [hscan]
    exact scan_furtherTarget (operands_atBreak _) _

/-- At a break the automaton goes on exactly as a tail does. -/
theorem scan_operand {c : Cursor} (hbreak : c.AtBreak) :
    operand.scan c.index c.ahead = lineRefusal? (tail c) := by
  match c, hbreak with
  | ⟨index, []⟩, _ => rw [tail_nil]; rfl
  | ⟨index, token :: rest⟩, hbreak =>
    obtain rfl | ⟨op, rfl⟩ := isFilename_eq_false_iff.1 (hbreak token rfl)
    · have hscan := scan_command ⟨index + 1, rest⟩
      simp only [scan, next_operand_pipe]
      rw [hscan]
      cases hcall : call ⟨index + 1, rest⟩ with
      | error refusal =>
        rw [tail_pipe]
        simp [pipeExpr, hcall, Except.map, lineRefusal?]
      | ok r =>
        obtain ⟨node, d⟩ := r
        have hlt := call_length_lt hcall
        rw [tail_of_call hcall, lineRefusal?_map (fun t => some (.pipeExpr .pipe node t))]
        exact scan_operand (call_eq_ok_iff.1 hcall).2.2
    · simp only [scan, next_operand_symbol]
      rw [scan_target, tail_redirection op.symbol_ne_pipeToken]
termination_by c.ahead.length
decreasing_by
  simp only [List.length_cons] at hlt ⊢
  omega

/-- The automaton refuses the lines that reading refuses, for the same reason. -/
theorem scan_eq_refusal? (tokens : List String) :
    command.scan 0 tokens = refusal? (parse tokens) := by
  have hscan := scan_command ⟨0, tokens⟩
  rw [hscan]
  cases hcall : call ⟨0, tokens⟩ with
  | error refusal => simp [parse, line, hcall, Except.map, refusal?]
  | ok r =>
    obtain ⟨node, d⟩ := r
    dsimp only
    rw [scan_operand (call_eq_ok_iff.1 hcall).2.2]
    simp only [parse, line, hcall]
    cases tail d with
    | error refusal => rfl
    | ok r =>
      obtain ⟨t, index, ahead⟩ := r
      cases ahead <;> rfl

lemma missing_eq_some {e : Expecting} {detail : Detail} (h : e.missing = some detail) :
    detail = .commandMissing ∨ ∃ op, detail = .operandMissing op := by
  cases e <;> simp_all [missing, eq_comm]

lemma next_eq_error {e : Expecting} {token : String} {detail : Detail}
    (h : e.next token = .error detail) :
    (∃ op, detail = .operandMissing op) ∨ detail = .endMissing token := by
  cases e with
  | command => cases h
  | operand =>
    simp only [next] at h
    split at h
    · cases h
    · split at h <;> cases h
  | target op =>
    simp only [next] at h
    split at h
    · cases h
    · exact .inl ⟨op, (Except.error.inj h).symm⟩
  | furtherTarget =>
    simp only [next] at h
    split at h
    · cases h
    · exact .inr (Except.error.inj h).symm

end Expecting

/-- Texts that differ early on differ, whatever the first of them goes on with. -/
lemma append_ne_of_take {a b : String} (n : Nat) (s : String) (hn : n ≤ a.toList.length)
    (h : a.toList.take n ≠ b.toList.take n) : a ++ s ≠ b := by
  intro he
  rw [← he, String.toList_append, List.take_append_of_le_length hn] at h
  exact h rfl

lemma Detail.eq_commandMissing_of_message {detail : Detail}
    (h : detail.message = "expected a command but reached end of input") :
    detail = .commandMissing := by
  cases detail with
  | commandMissing => rfl
  | endMissing token => exact absurd h (append_ne_of_take 12 _ (by decide) (by decide))
  | operandMissing op => exact absurd h (append_ne_of_take 12 _ (by decide) (by decide))
  | redirectMissing token => exact absurd h (append_ne_of_take 12 _ (by decide) (by decide))

lemma parse_eq_ok_iff_scan {tokens : List String} :
    (∃ tree, parse tokens = .ok tree) ↔ Expecting.command.scan 0 tokens = none := by
  rw [Expecting.scan_eq_refusal?]
  cases parse tokens <;> simp [refusal?]

/-- A token list that is no line is refused at the first token that no line has after those before
it, or at the end if a line could still go on there. Reading never looks past the end, it never
takes for an operator what is none, and it lacks a command only at the end. -/
theorem parse_refusal_position (tokens : List String) (h : ∀ tree, parse tokens ≠ .ok tree) :
    ∃ index detail, parse tokens = .error (.fault index detail) ∧
      (∀ token, detail ≠ .redirectMissing token) ∧
      index ≤ tokens.length ∧
      (∃ more tree, parse (tokens.take index ++ more) = .ok tree) ∧
      (index < tokens.length →
        ∀ more tree, parse (tokens.take (index + 1) ++ more) ≠ .ok tree) ∧
      (detail.message = "expected a command but reached end of input" →
        index = tokens.length) := by
  cases hparse : parse tokens with
  | ok tree => exact absurd hparse (h tree)
  | error refusal =>
  have hscan : Expecting.command.scan 0 tokens = some refusal := by
    rw [Expecting.scan_eq_refusal?, hparse, refusal?]
  obtain ⟨xs, ys, e, detail, rfl, hafter, rfl, hstop⟩ := Expecting.scan_eq_some hscan
  have htake : (xs ++ ys).take xs.length = xs := List.take_left
  rw [Nat.zero_add]
  refine ⟨xs.length, detail, rfl, ?_, by simp, ?_, ?_, ?_⟩
  · intro other
    obtain ⟨-, hmissing⟩ | ⟨token, rest, -, hnext⟩ := hstop
    · obtain rfl | ⟨op, rfl⟩ := Expecting.missing_eq_some hmissing <;> exact Detail.noConfusion
    · obtain ⟨op, rfl⟩ | rfl := Expecting.next_eq_error hnext <;> exact Detail.noConfusion
  · refine ⟨e.completion, parse_eq_ok_iff_scan.2 ?_⟩
    rw [htake, Expecting.scan_append _ hafter, Expecting.scan_completion]
  · intro hlt more tree haccepted
    obtain ⟨rfl, -⟩ | ⟨token, rest, rfl, hnext⟩ := hstop
    · simp at hlt
    · have hnone := parse_eq_ok_iff_scan.1 ⟨tree, haccepted⟩
      have hsplit : (xs ++ token :: rest).take (xs.length + 1) ++ more = xs ++ token :: more := by
        rw [List.take_length_add_append]
        simp
      rw [hsplit, Expecting.scan_append _ hafter] at hnone
      simp [Expecting.scan, hnext] at hnone
  · intro hmessage
    obtain ⟨rfl, -⟩ | ⟨token, rest, -, hnext⟩ := hstop
    · simp
    · obtain rfl := Detail.eq_commandMissing_of_message hmessage
      obtain ⟨op, hop⟩ | hend := Expecting.next_eq_error hnext
      · cases hop
      · cases hend

/-- A pipe stands where the first file of a redirection should. -/
theorem parse_refusal_position_pipe :
    (∀ tree, parse ["a", "|", "b", ">", "|", "c"] ≠ .ok tree) ∧
      ∃ index detail, parse ["a", "|", "b", ">", "|", "c"] = .error (.fault index detail) ∧
        (∀ token, detail ≠ .redirectMissing token) ∧
        index ≤ 6 ∧
        (∃ more tree, parse (["a", "|", "b", ">", "|", "c"].take index ++ more) = .ok tree) ∧
        (index < 6 →
          ∀ more tree, parse (["a", "|", "b", ">", "|", "c"].take (index + 1) ++ more) ≠ .ok tree) ∧
        (detail.message = "expected a command but reached end of input" → index = 6) := by
  have hrefused : ∀ tree, parse ["a", "|", "b", ">", "|", "c"] ≠ .ok tree := by
    intro tree h
    have hnone := parse_eq_ok_iff_scan.1 ⟨tree, h⟩
    revert hnone
    decide
  exact ⟨hrefused, parse_refusal_position _ hrefused⟩

end CommandShell
