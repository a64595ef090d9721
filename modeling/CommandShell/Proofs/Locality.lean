import CommandShell.Proofs.Joining

/-!
# Rules read what is ahead

Each rule is about the tokens from its place on and about nothing else. What lies behind that place
only moves the positions that it gives, and the tokens that it passes are exactly those of the value
it reads. Both are proved rule by rule, in the order in which the rules use one another.
-/
namespace CommandShell

/-- The place before the same tokens when they stand further on in a line. -/
def Cursor.shift (n : Nat) (c : Cursor) : Cursor := ⟨n + c.index, c.ahead⟩

namespace Rule
open Cursor
variable {α : Type} {rule : Rule α} {words : α → List String} {seen : List String → List String}
  {c d : Cursor} {node : Node} {t : Option Node}

/-- What a rule comes to when its tokens stand further on in a line. -/
def shifted (n : Nat) : Except Refusal (α × Cursor) → Except Refusal (α × Cursor)
  | .error refusal => .error (refusal.shift n)
  | .ok (value, d) => .ok (value, d.shift n)

/-- The rule for operands, which is never refused. -/
def operandList : Rule (List Node) := fun c => .ok c.operands

/-- Tokens of which the first is taken for a pipe, whatever it is. -/
def behindPipe : List String → List String
  | [] => []
  | _ :: rest => pipeToken :: rest

/-- A rule that is about the tokens from its place on and about nothing else: it comes to the same
there as on these tokens alone, and it stops behind those that its value is made of. -/
structure IsLocal (rule : Rule α) (words : α → List String)
    (seen : List String → List String) : Prop where
  moves (tokens : List String) (i : Nat) :
    rule (.«at» tokens i) = shifted i (rule (.«at» (tokens.drop i) 0))
  passes {tokens : List String} {i : Nat} {value : α} {d : Cursor} (hi : i ≤ tokens.length)
    (hread : rule (.«at» tokens i) = .ok (value, d)) :
    i ≤ d.index ∧ d.index ≤ tokens.length ∧ d = .«at» tokens d.index ∧
      words value = seen ((tokens.drop i).take (d.index - i))

lemma IsLocal.of_places (hmoves : ∀ n c, rule (c.shift n) = shifted n (rule c))
    (hpasses : ∀ c value d, rule c = .ok (value, d) →
      ∃ tokens, c.Passes tokens d ∧ words value = seen tokens) :
    IsLocal rule words seen where
  moves tokens i := hmoves i ⟨0, tokens.drop i⟩
  passes {tokens i value d} hi hread := by
    obtain ⟨passed, hpass, hwords⟩ := hpasses _ _ _ hread
    have hahead : tokens.drop i = passed ++ d.ahead := hpass.ahead
    have hindex : d.index = i + passed.length := hpass.index
    have hlength : tokens.length - i = passed.length + d.ahead.length := by
      rw [← List.length_drop, hahead, List.length_append]
    have hrest : d.ahead = tokens.drop d.index := by
      rw [hindex, ← List.drop_drop, hahead, List.drop_left]
    refine ⟨by omega, by omega, ?_, ?_⟩
    · rw [Cursor.«at», ← hrest]
    · rw [hindex, Nat.add_sub_cancel_left, hahead, List.take_left, hwords]

/-! ## Moving -/

lemma operands_shift (n : Nat) (c : Cursor) :
    (c.shift n).operands = (c.operands.1, c.operands.2.shift n) := by
  simp only [operands, shift, Nat.add_assoc]

lemma command_shift (n : Nat) (c : Cursor) : command (c.shift n) = shifted n (command c) := by
  match c with
  | ⟨_, []⟩ | ⟨_, _ :: _⟩ => rfl

lemma call_shift (n : Nat) (c : Cursor) : call (c.shift n) = shifted n (call c) := by
  match c with
  | ⟨_, []⟩ => rfl
  | ⟨index, token :: rest⟩ =>
    have hfiles := operands_shift n ⟨index + 1, rest⟩
    simp only [shift, ← Nat.add_assoc] at hfiles
    simp only [call, command, shift, hfiles, shifted]

lemma redirect_shift (n : Nat) (c : Cursor) : redirect (c.shift n) = shifted n (redirect c) := by
  match c with
  | ⟨_, []⟩ => rfl
  | ⟨index, token :: rest⟩ =>
    simp only [redirect, shift]
    cases Redirect.ofToken? token <;> rfl

lemma redirection_shift (n : Nat) (c : Cursor) :
    redirection (c.shift n) = shifted n (redirection c) := by
  match c with
  | ⟨_, []⟩ => rfl
  | ⟨index, token :: rest⟩ =>
    have hfiles := operands_shift n ⟨index + 1, rest⟩
    simp only [shift, ← Nat.add_assoc] at hfiles
    simp only [redirection, shift]
    cases Redirect.ofToken? token with
    | none => rfl
    | some op =>
      simp only [hfiles]
      cases (operands ⟨index + 1, rest⟩).1 <;> rfl

lemma shifted_map {β : Type} (n : Nat) (f : α → β) (result : Except Refusal (α × Cursor)) :
    shifted n (result.map fun r => (f r.1, r.2)) =
      (shifted n result).map fun r => (f r.1, r.2) := by
  cases result <;> rfl

lemma pipeExpr_shift_of {n index : Nat} {token : String} {rest : List String}
    (htail : ∀ node d, call ⟨index + 1, rest⟩ = .ok (node, d) →
      tail (d.shift n) = shifted n (tail d)) :
    pipeExpr (shift n ⟨index, token :: rest⟩) = shifted n (pipeExpr ⟨index, token :: rest⟩) := by
  have hcall := call_shift n ⟨index + 1, rest⟩
  simp only [shift, ← Nat.add_assoc] at hcall
  simp only [pipeExpr, shift, hcall]
  cases hread : call ⟨index + 1, rest⟩ with
  | error refusal => rfl
  | ok r =>
    obtain ⟨node, d⟩ := r
    simp only [shifted, htail node d hread]
    cases tail d <;> rfl

/-- Behind each pipe there is a call, and behind the call a tail of fewer tokens. -/
lemma tail_shift (n : Nat) (c : Cursor) : tail (c.shift n) = shifted n (tail c) := by
  match c with
  | ⟨index, []⟩ => simp only [shift, tail_nil, shifted]
  | ⟨index, token :: rest⟩ =>
    by_cases hpipe : token = pipeToken
    · subst hpipe
      have hmoved : pipeExpr (shift n ⟨index, pipeToken :: rest⟩) =
          shifted n (pipeExpr ⟨index, pipeToken :: rest⟩) :=
        pipeExpr_shift_of fun node d hcall =>
          have hfewer := call_length_lt hcall
          tail_shift n d
      simp only [shift] at hmoved ⊢
      rw [tail_pipe, tail_pipe, hmoved, shifted_map]
    · have hmoved := redirection_shift n ⟨index, token :: rest⟩
      simp only [shift] at hmoved ⊢
      rw [tail_redirection hpipe, tail_redirection hpipe, hmoved, shifted_map]
termination_by c.ahead.length
decreasing_by
  simp only [List.length_cons] at hfewer ⊢
  omega

lemma pipeExpr_shift (n : Nat) (c : Cursor) : pipeExpr (c.shift n) = shifted n (pipeExpr c) := by
  match c with
  | ⟨_, []⟩ => rfl
  | ⟨_, _ :: _⟩ => exact pipeExpr_shift_of fun _ d _ => tail_shift n d

lemma line_shift (n : Nat) (c : Cursor) : line (c.shift n) = shifted n (line c) := by
  simp only [line, call_shift]
  cases call c with
  | error refusal => rfl
  | ok r =>
    obtain ⟨node, d⟩ := r
    simp only [shifted, tail_shift]
    match tail d with
    | .error _ | .ok (_, ⟨_, []⟩) | .ok (_, ⟨_, _ :: _⟩) => rfl

/-! ## Passing -/

lemma command_passes (h : command c = .ok (node, d)) : c.Passes node.words d := by
  match c, h with
  | ⟨index, token :: rest⟩, h =>
    cases h
    simpa [Node.words] using (Passes.refl ⟨index + 1, rest⟩).cons token

lemma redirect_passes (h : redirect c = .ok (node, d)) : c.Passes node.words d := by
  match c, h with
  | ⟨index, token :: rest⟩, h =>
    cases hop : Redirect.ofToken? token with
    | none => simp [redirect, hop] at h
    | some op =>
      simp only [redirect, hop] at h
      cases h
      obtain rfl := Redirect.ofToken?_eq_some_iff.1 hop
      simpa [Node.words] using (Passes.refl ⟨index + 1, rest⟩).cons op.symbol

lemma redirection_passes (h : redirection c = .ok (node, d)) : c.Passes node.words d := by
  obtain ⟨-, -, -, -, -, hpass, -⟩ := redirection_eq_ok_iff.1 h
  exact hpass

/-- Whatever stands in the place of the pipe is passed as one token. -/
lemma pipeExpr_passes (h : pipeExpr c = .ok (node, d)) :
    ∃ tokens, c.Passes tokens d ∧ node.words = behindPipe tokens := by
  match c, h with
  | ⟨index, token :: rest⟩, h =>
    cases hcall : call ⟨index + 1, rest⟩ with
    | error refusal => simp [pipeExpr, hcall] at h
    | ok r =>
      obtain ⟨call', e⟩ := r
      obtain ⟨-, hfirst, -⟩ := call_eq_ok_iff.1 hcall
      cases htail : tail e with
      | error refusal => simp [pipeExpr, hcall, htail] at h
      | ok r =>
        obtain ⟨t, d'⟩ := r
        simp only [pipeExpr, hcall, htail] at h
        cases h
        refine ⟨_, (hfirst.trans (tail_sound htail).2).cons token, ?_⟩
        cases t <;> simp [Node.words, behindPipe]

end Rule

/-- Every rule is local: the rules for lines, tails, calls, redirections, commands, operators and
operands pass the words of what they read, and the rule for pipe expressions takes its first token
for a pipe. -/
theorem rules_read_locally :
    Rule.IsLocal Rule.line Node.words id ∧
    Rule.IsLocal Rule.tail (fun t => t.toList.flatMap Node.words) id ∧
    Rule.IsLocal Rule.call Node.words id ∧
    Rule.IsLocal Rule.pipeExpr Node.words Rule.behindPipe ∧
    Rule.IsLocal Rule.redirection Node.words id ∧
    Rule.IsLocal Rule.command Node.words id ∧
    Rule.IsLocal Rule.redirect Node.words id ∧
    Rule.IsLocal Rule.operandList (fun files => files.flatMap Node.words) id := by
  refine ⟨.of_places Rule.line_shift ?_, .of_places Rule.tail_shift ?_,
    .of_places Rule.call_shift ?_, .of_places Rule.pipeExpr_shift ?_,
    .of_places Rule.redirection_shift ?_, .of_places Rule.command_shift ?_,
    .of_places Rule.redirect_shift ?_, .of_places (fun n c => ?_) ?_⟩
  · exact fun c node d h => ⟨_, (Rule.line_eq_ok_iff.1 h).2.1, rfl⟩
  · exact fun c t d h => ⟨_, (Rule.tail_sound h).2, rfl⟩
  · exact fun c node d h => ⟨_, (Rule.call_eq_ok_iff.1 h).2.1, rfl⟩
  · exact fun c node d h => Rule.pipeExpr_passes h
  · exact fun c node d h => ⟨_, Rule.redirection_passes h, rfl⟩
  · exact fun c node d h => ⟨_, Rule.command_passes h, rfl⟩
  · exact fun c node d h => ⟨_, Rule.redirect_passes h, rfl⟩
  · rw [Rule.operandList, Rule.operands_shift]
    rfl
  · rintro c files d ⟨⟩
    exact ⟨_, c.operands_passes, rfl⟩

end CommandShell
