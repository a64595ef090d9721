import CommandShell.Proofs.Shapes

/-!
# What the tokens of a line become

The leaves of a tree from left to right are its tokens, each as the node that it became. A token
that stands first or right behind a pipe is a command whatever it is, an operator included. Every
other operator is a pipe or a redirection, and no file is ever named by one.
-/
namespace CommandShell

namespace Node

/-- The leaves of a tree from left to right. -/
def leaves (node : Node) : List Node :=
  match node with
  | commandExpr c files => c.leaves ++ files.flatMap leaves
  | redirectExpr op first rest => op.leaves ++ first.leaves ++ rest.flatMap leaves
  | pipeExpr p c none => p.leaves ++ c.leaves
  | pipeExpr p c (some t) => p.leaves ++ c.leaves ++ t.leaves
  | expr c none => c.leaves
  | expr c (some t) => c.leaves ++ t.leaves
  | leaf => [leaf]

lemma leaves_expr (c : Node) (t : Option Node) :
    (expr c t).leaves = c.leaves ++ t.toList.flatMap leaves := by
  cases t <;> simp [leaves]

lemma leaves_pipeExpr (c : Node) (t : Option Node) :
    (pipeExpr pipe c t).leaves = pipe :: (c.leaves ++ t.toList.flatMap leaves) := by
  cases t <;> simp [leaves]

lemma leaves_map_file (names : List String) :
    (names.map file).flatMap leaves = names.map file := by
  induction names with
  | nil => rfl
  | cons name names ih => simp [leaves, ih]

lemma leaves_ofCall (call : Call) :
    (ofCall call).leaves = command call.1 :: call.2.map file := by
  simp [ofCall, leaves, leaves_map_file]

/-- What a token is where no command is expected. -/
def ofToken (token : String) : Node :=
  if token = pipeToken then pipe
  else
    match Redirect.ofToken? token with
    | some op => redirect op
    | none => file token

lemma ofToken_of_isFilename {token : String} (h : isFilename token = true) :
    ofToken token = file token := by
  simp only [isFilename, Bool.and_eq_true, bne_iff_ne, Option.isNone_iff_eq_none] at h
  simp [ofToken, h]

@[simp] lemma ofToken_pipeToken : ofToken pipeToken = pipe := by simp [ofToken]

@[simp] lemma ofToken_symbol (op : Redirect) : ofToken op.symbol = redirect op := by
  simp [ofToken, op.symbol_ne_pipeToken]

/-- The nodes of tokens, the first of which is a command if one is expected there. -/
def ofTokens : Bool → List String → List Node
  | _, [] => []
  | true, token :: rest => command token :: ofTokens false rest
  | false, token :: rest => ofToken token :: ofTokens (token = pipeToken) rest

lemma ofTokens_operands {names : List String} (h : ∀ name ∈ names, isFilename name = true)
    (rest : List String) :
    ofTokens false (names ++ rest) = names.map file ++ ofTokens false rest := by
  induction names with
  | nil => rfl
  | cons name names ih =>
    have hname := h name List.mem_cons_self
    have hpipe : name ≠ pipeToken := by
      rintro rfl
      simp [isFilename_pipeToken] at hname
    rw [List.cons_append, ofTokens, ofToken_of_isFilename hname, decide_eq_false hpipe,
      ih fun n hn => h n (List.mem_cons_of_mem _ hn)]
    rfl

lemma ofTokens_ofCall {call : Call} (h : (ofCall call).IsCall) (rest : List String) :
    ofTokens true ((ofCall call).words ++ rest) = (ofCall call).leaves ++ ofTokens false rest := by
  rw [words_ofCall, leaves_ofCall, List.cons_append, ofTokens,
    ofTokens_operands (isCall_ofCall.1 h), List.cons_append]

/-- The leaves of a call and of what may follow it are their tokens. -/
lemma leaves_call_tail {call : Call} (hcall : (ofCall call).IsCall) {t : Option Node}
    (ht : ∀ u ∈ t, u.leaves = ofTokens false u.words) :
    (ofCall call).leaves ++ t.toList.flatMap leaves =
      ofTokens true ((ofCall call).words ++ t.toList.flatMap words) := by
  rw [ofTokens_ofCall hcall]
  cases t with
  | none => rfl
  | some u => simp [ht u rfl]

lemma leaves_of_isTail {u : Node} (hu : u.IsTail) : u.leaves = ofTokens false u.words := by
  induction u, hu using IsTail.induction with
  | redirection op first rest h =>
    simp only [IsTail, IsOperand] at h
    have hnames : ∀ name ∈ first :: rest, isFilename name = true := by
      simpa [IsOperand] using h
    have hfiles := ofTokens_operands hnames []
    rw [List.append_nil, ofTokens, List.append_nil] at hfiles
    simp [leaves, words, words_map_file, leaves_map_file, ofTokens, op.symbol_ne_pipeToken, hfiles]
  | pipe call t h ih =>
    rw [leaves_pipeExpr, words_pipeExpr, leaves_call_tail (isTail_pipeExpr.1 h).1 ih, ofTokens,
      ofToken_pipeToken, decide_eq_true rfl]

/-- The leaves of a well-formed tree are its tokens, the first of which is a command. -/
lemma leaves_of_wellFormed {tree : Node} (h : tree.WellFormed) :
    tree.leaves = ofTokens true tree.words := by
  obtain ⟨call, t, ht, rfl⟩ := exists_expr h
  have hcall := (wellFormed_expr.1 h).1
  rw [leaves_expr, words_expr, leaves_call_tail hcall fun u hu => leaves_of_isTail (ht u hu)]

lemma commandNames_append (nodes more : List Node) :
    commandNames (nodes ++ more) = commandNames nodes ++ commandNames more :=
  List.filterMap_append

/-- The commands among the leaves of a call and of what may follow it. -/
lemma commandNames_call_tail (call : Call) {t : Option Node}
    (ht : ∀ u ∈ t, commandNames u.leaves = u.calls.map Prod.fst) :
    commandNames ((ofCall call).leaves ++ t.toList.flatMap leaves) =
      (call :: t.toList.flatMap calls).map Prod.fst := by
  have hcall : commandNames (ofCall call).leaves = [call.1] := by
    rw [leaves_ofCall, commandNames_slots]
  rw [commandNames_append, hcall]
  cases t with
  | none => rfl
  | some u => simp [ht u rfl]

lemma commandNames_of_isTail {u : Node} (hu : u.IsTail) :
    commandNames u.leaves = u.calls.map Prod.fst := by
  induction u, hu using IsTail.induction with
  | redirection op first rest h =>
    have hfiles : commandNames ((first :: rest).map file) = [] := commandNames_map_file _
    simp only [leaves, leaves_map_file, calls, List.map_nil]
    exact hfiles
  | pipe call t h ih =>
    rw [leaves_pipeExpr, calls_pipeExpr, calls_ofCall, List.singleton_append,
      ← commandNames_call_tail call ih]
    rfl

lemma commandNames_leaves {tree : Node} (h : tree.WellFormed) :
    commandNames tree.leaves = tree.calls.map Prod.fst := by
  obtain ⟨call, t, ht, rfl⟩ := exists_expr h
  rw [leaves_expr, commandNames_call_tail call fun u hu => commandNames_of_isTail (ht u hu),
    calls_expr, calls_ofCall, List.singleton_append]

/-! ## Leaves by their positions -/

/-- Whether a command is expected at a position among leaves: right behind a pipe, and at the start
if `first` says so. -/
def CommandPlace (first : Bool) (leaves : List Node) : Nat → Prop
  | 0 => first = true
  | i + 1 => leaves[i]? = some pipe

lemma ofToken_eq_pipe_iff {token : String} : ofToken token = pipe ↔ token = pipeToken := by
  unfold ofToken
  split
  · simp_all
  · split <;> simp_all

lemma getElem?_ofTokens {tokens : List String} {i : Nat} {token : String}
    (h : tokens[i]? = some token) (first : Bool) :
    (CommandPlace first (ofTokens first tokens) i →
      (ofTokens first tokens)[i]? = some (command token)) ∧
    (¬ CommandPlace first (ofTokens first tokens) i →
      (ofTokens first tokens)[i]? = some (ofToken token)) := by
  induction tokens generalizing first i with
  | nil => simp at h
  | cons head rest ih =>
    cases i with
    | zero =>
      obtain rfl : head = token := by simpa using h
      cases first <;> simp [CommandPlace, ofTokens]
    | succ i =>
      rw [List.getElem?_cons_succ] at h
      have hplace : CommandPlace first (ofTokens first (head :: rest)) (i + 1) ↔
          CommandPlace (!first && head = pipeToken)
            (ofTokens (!first && head = pipeToken) rest) i := by
        cases i <;> cases first <;> simp [CommandPlace, ofTokens, ofToken_eq_pipe_iff]
      have hnode : (ofTokens first (head :: rest))[i + 1]? =
          (ofTokens (!first && head = pipeToken) rest)[i]? := by
        cases first <;> simp [ofTokens]
      rw [hplace, hnode]
      exact ih h _

lemma length_ofTokens (first : Bool) (tokens : List String) :
    (ofTokens first tokens).length = tokens.length := by
  induction tokens generalizing first with
  | nil => rfl
  | cons token rest ih => cases first <;> simp [ofTokens, ih]

lemma words_ofToken (token : String) : (ofToken token).words = [token] := by
  unfold ofToken
  split
  next h => rw [words, h]
  · split
    next op h => rw [words, Redirect.ofToken?_eq_some_iff.1 h]
    · rw [words]

end Node

/-- Each token of a line is a leaf of its tree. The token at a command place is a command whatever
it is; elsewhere an operator is a pipe or a redirection, and only what is no operator is a file. The
commands of the pipeline are the tokens at the command places. -/
theorem parse_places_operators (tokens : List String) (tree : Node)
    (h : parse tokens = .ok tree) :
    tree.leaves.length = tokens.length ∧
    (∀ i token, tokens[i]? = some token → ∃ leaf, tree.leaves[i]? = some leaf ∧
      leaf.words = [token] ∧
      (Node.CommandPlace true tree.leaves i → leaf = .command token) ∧
      (¬ Node.CommandPlace true tree.leaves i →
        (isFilename token = true → leaf = .file token) ∧
        (isFilename token = false → leaf = .pipe ∨ ∃ op, leaf = .redirect op))) ∧
    ∀ p, Pipeline.ofNode tree = .ok p →
      p.stages.map Stage.command = Node.commandNames tree.leaves := by
  obtain ⟨hwf, rfl⟩ := parse_eq_ok_iff.1 h
  have hleaves := Node.leaves_of_wellFormed hwf
  refine ⟨by rw [hleaves, Node.length_ofTokens], fun i token htoken => ?_, fun p hp => ?_⟩
  · obtain ⟨hcommand, hother⟩ := Node.getElem?_ofTokens htoken true
    rw [← hleaves] at hcommand hother
    by_cases hplace : Node.CommandPlace true tree.leaves i
    · exact ⟨_, hcommand hplace, by rw [Node.words], fun _ => rfl, fun hnot => absurd hplace hnot⟩
    · refine ⟨_, hother hplace, Node.words_ofToken token, fun hat => absurd hat hplace,
        fun _ => ⟨Node.ofToken_of_isFilename, fun hoperator => ?_⟩⟩
      obtain rfl | ⟨op, rfl⟩ := isFilename_eq_false_iff.1 hoperator
      · exact .inl Node.ofToken_pipeToken
      · exact .inr ⟨op, Node.ofToken_symbol op⟩
  · rw [Node.commandNames_leaves hwf, ← Pipeline.calls_of_ofNode hwf hp, List.map_map]
    rfl

/-- Behind a pipe an operator is a command, and after that it is one of redirection again. -/
theorem parse_places_operators_of_pipe :
    let tokens := ["a", "|", ">", "f", "<", "g"]
    let tree : Node := .expr (.ofCall ("a", [])) (some (.pipeExpr .pipe (.ofCall (">", ["f"]))
      (some (.redirectExpr (.redirect .input) (.file "g") []))))
    parse tokens = .ok tree ∧ Node.CommandPlace true tree.leaves 2 ∧
      tree.leaves[2]? = some (.command ">") ∧ ¬ Node.CommandPlace true tree.leaves 4 ∧
      ∃ leaf, tree.leaves[4]? = some leaf ∧ (leaf = .pipe ∨ ∃ op, leaf = .redirect op) := by
  intro tokens tree
  have hfiles : isFilename "f" = true ∧ isFilename "g" = true := by decide
  have hwf : tree.WellFormed := by
    simp [tree, Node.wellFormed_expr, Node.IsTail, Node.IsOperand, hfiles]
  have hparse : parse tokens = .ok tree :=
    parse_eq_ok_iff.2 ⟨hwf, by simp [tree, tokens, Node.words, pipeToken, Redirect.symbol]⟩
  obtain ⟨-, hplaces, -⟩ := parse_places_operators tokens tree hparse
  have hbehind : Node.CommandPlace true tree.leaves 2 := by
    simp [tree, Node.CommandPlace, Node.leaves, Node.ofCall]
  have haside : ¬ Node.CommandPlace true tree.leaves 4 := by
    simp [tree, Node.CommandPlace, Node.leaves, Node.ofCall]
  obtain ⟨leaf, hleaf, -, hcommand, -⟩ := hplaces 2 ">" rfl
  obtain ⟨other, hother, -, -, hoperator⟩ := hplaces 4 "<" rfl
  exact ⟨hparse, hbehind, hcommand hbehind ▸ hleaf, haside, other, hother,
    (hoperator haside).2 (by decide)⟩

/-- The second of two pipes is a command. -/
theorem parse_takes_pipe_for_command :
    ¬ ∀ tokens tree, parse tokens = .ok tree →
      ∀ (i : Nat) (token : String) (leaf : Node), tokens[i]? = some token →
        tree.leaves[i]? = some leaf → isFilename token = false →
          leaf = .pipe ∨ ∃ op, leaf = .redirect op := by
  intro h
  let tree : Node := .expr (.ofCall ("a", [])) (some (.pipeExpr .pipe (.ofCall ("|", [])) none))
  have hwf : tree.WellFormed := by simp [tree, Node.wellFormed_expr, Node.isTail_pipeExpr]
  have hparse : parse ["a", "|", "|"] = .ok tree :=
    parse_eq_ok_iff.2 ⟨hwf, by simp [tree, Node.words, pipeToken]⟩
  have hleaf : tree.leaves[2]? = some (.command "|") := by
    simp [tree, Node.leaves, Node.ofCall]
  simpa using h _ _ hparse 2 "|" _ rfl hleaf (by decide)

end CommandShell
