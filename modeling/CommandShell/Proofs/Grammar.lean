import CommandShell.Syntax.Parser
import Mathlib.Logic.ExistsUnique
import Mathlib.Tactic.Lemma

/-!
# Reading inverts writing

Each rule is characterised by the tokens that it passes: it succeeds exactly when the tokens ahead
start with those of a tree of its kind, and it gives that tree. Operands reach as far as they can,
so a rule that ends with operands also says that it stopped at a break.

The main statement is that a token list is read as a tree exactly when the tree is well-formed and
the list is its token list.
-/
namespace CommandShell

lemma Redirect.symbol_ne_pipeToken (op : Redirect) : op.symbol ≠ pipeToken := by
  cases op <;> decide

namespace Node

lemma isOperand_iff {node : Node} :
    node.IsOperand ↔ ∃ name, isFilename name = true ∧ node = file name := by
  cases node <;> simp [IsOperand, and_comm]

lemma isCall_iff {node : Node} :
    node.IsCall ↔
      ∃ name files, (∀ f ∈ files, f.IsOperand) ∧ node = commandExpr (command name) files := by
  constructor
  · intro h
    unfold IsCall at h
    split at h
    · exact ⟨_, _, h, rfl⟩
    · exact h.elim
  · rintro ⟨name, files, h, rfl⟩
    simpa only [IsCall] using h

lemma words_map_file (names : List String) : (names.map file).flatMap words = names := by
  induction names with
  | nil => rfl
  | cons name names ih => simp [words, ih]

lemma exists_names {files : List Node} (h : ∀ f ∈ files, f.IsOperand) :
    ∃ names : List String, (∀ name ∈ names, isFilename name = true) ∧ files = names.map file := by
  induction files with
  | nil => exact ⟨[], by simp, rfl⟩
  | cons f files ih =>
    obtain ⟨name, hname, rfl⟩ := isOperand_iff.1 (h f List.mem_cons_self)
    obtain ⟨names, hnames, rfl⟩ := ih fun f hf => h f (List.mem_cons_of_mem _ hf)
    exact ⟨name :: names, by simpa using ⟨hname, hnames⟩, rfl⟩

end Node

namespace Cursor

/-- The tokens that lie between two places. -/
structure Passes (c : Cursor) (tokens : List String) (d : Cursor) : Prop where
  ahead : c.ahead = tokens ++ d.ahead
  index : d.index = c.index + tokens.length

lemma Passes.refl (c : Cursor) : c.Passes [] c := ⟨rfl, rfl⟩

lemma Passes.trans {c d e : Cursor} {xs ys : List String} (h : c.Passes xs d)
    (h' : d.Passes ys e) : c.Passes (xs ++ ys) e where
  ahead := by rw [h.ahead, h'.ahead, List.append_assoc]
  index := by rw [h'.index, h.index, List.length_append, Nat.add_assoc]

lemma Passes.cons {index : Nat} {rest xs : List String} {d : Cursor} (token : String)
    (h : Passes ⟨index + 1, rest⟩ xs d) : Passes ⟨index, token :: rest⟩ (token :: xs) d where
  ahead := congrArg (token :: ·) h.ahead
  index := by rw [h.index, List.length_cons, Nat.add_right_comm, Nat.add_assoc]

/-- The first of the tokens that are passed is the next one. -/
lemma Passes.of_cons {c d : Cursor} {token : String} {xs : List String}
    (h : c.Passes (token :: xs) d) :
    ∃ index rest, c = ⟨index, token :: rest⟩ ∧ Passes ⟨index + 1, rest⟩ xs d := by
  obtain ⟨index, ahead⟩ := c
  obtain rfl : ahead = token :: (xs ++ d.ahead) := h.ahead
  refine ⟨index, xs ++ d.ahead, rfl, rfl, ?_⟩
  rw [h.index, List.length_cons, Nat.add_right_comm, Nat.add_assoc]

/-- What is passed in two stretches is passed by way of the place between them. -/
lemma Passes.of_append {c e : Cursor} {xs ys : List String} (h : c.Passes (xs ++ ys) e) :
    ∃ d, c.Passes xs d ∧ d.Passes ys e := by
  refine ⟨⟨c.index + xs.length, ys ++ e.ahead⟩, ⟨?_, rfl⟩, ⟨rfl, ?_⟩⟩
  · rw [h.ahead, List.append_assoc]
  · rw [h.index, List.length_append, Nat.add_assoc]

/-- A place is settled by what was passed on the way to it and by what is left. -/
lemma Passes.eq {c d e : Cursor} {xs : List String} (h : c.Passes xs d) (h' : c.Passes xs e) :
    d = e := by
  obtain ⟨index, ahead⟩ := d
  obtain ⟨index', ahead'⟩ := e
  have hindex : index = index' := h.index.trans h'.index.symm
  have hahead : ahead = ahead' := List.append_cancel_left (h.ahead.symm.trans h'.ahead)
  rw [hindex, hahead]

/-- Nothing that could be an operand is next. -/
def AtBreak (c : Cursor) : Prop := ∀ token ∈ c.ahead.head?, isFilename token = false

lemma atBreak_of_ahead_nil {c : Cursor} (h : c.ahead = []) : c.AtBreak := by simp [AtBreak, h]

lemma AtBreak.takeWhile {c : Cursor} (h : c.AtBreak) : c.ahead.takeWhile isFilename = [] := by
  cases hc : c.ahead with
  | nil => rfl
  | cons token rest => exact List.takeWhile_cons_of_neg (by simp [h token (by simp [hc])])

lemma operands_passes (c : Cursor) : c.Passes (c.operands.1.flatMap Node.words) c.operands.2 where
  ahead := by
    simp only [operands, Node.words_map_file]
    exact List.takeWhile_append_dropWhile.symm
  index := by simp only [operands, Node.words_map_file]

lemma operands_isOperand (c : Cursor) : ∀ f ∈ c.operands.1, f.IsOperand := by
  intro f hf
  obtain ⟨name, hname, rfl⟩ := List.mem_map.1 hf
  exact List.all_eq_true.1 List.all_takeWhile name hname

lemma operands_atBreak (c : Cursor) : c.operands.2.AtBreak := by
  intro token h
  have hhead : (c.ahead.dropWhile isFilename).head? = some token := h
  have hnot := List.head?_dropWhile_not isFilename c.ahead
  rw [hhead] at hnot
  exact hnot

lemma operands_eq {c d : Cursor} {files : List Node} (hfiles : ∀ f ∈ files, f.IsOperand)
    (hpass : c.Passes (files.flatMap Node.words) d) (hbreak : d.AtBreak) :
    c.operands = (files, d) := by
  obtain ⟨names, hnames, rfl⟩ := Node.exists_names hfiles
  have htake : c.ahead.takeWhile isFilename = names := by
    rw [hpass.ahead, Node.words_map_file, List.takeWhile_append_of_pos hnames, hbreak.takeWhile,
      List.append_nil]
  have hfst : c.operands.1 = names.map Node.file := by simp only [operands, htake]
  have hsnd : c.operands.2 = d := (hfst ▸ c.operands_passes).eq hpass
  exact Prod.ext hfst hsnd

lemma operands_of_atBreak {c : Cursor} (h : c.AtBreak) : c.operands = ([], c) :=
  operands_eq (by simp) (Passes.refl c) h

end Cursor

namespace Rule
open Cursor

/-- A call is read where the tokens of a call stand, as far as its operands reach. -/
theorem call_eq_ok_iff {c d : Cursor} {node : Node} :
    call c = .ok (node, d) ↔ node.IsCall ∧ c.Passes node.words d ∧ d.AtBreak := by
  constructor
  · intro h
    match c, h with
    | ⟨index, name :: rest⟩, h =>
      simp only [call, command, Except.ok.injEq, Prod.mk.injEq] at h
      obtain ⟨rfl, rfl⟩ := h
      refine ⟨operands_isOperand _, ?_, operands_atBreak _⟩
      simp only [Node.words]
      exact (operands_passes ⟨index + 1, rest⟩).cons name
  · rintro ⟨hcall, hpass, hbreak⟩
    obtain ⟨name, files, hfiles, rfl⟩ := Node.isCall_iff.1 hcall
    simp only [Node.words] at hpass
    obtain ⟨index, rest, rfl, hrest⟩ := hpass.of_cons
    simp only [call, command, operands_eq hfiles hrest hbreak]

lemma redirection_of_nil {index : Nat} {rest : List String} {op : Redirect} {d : Cursor}
    (h : operands ⟨index + 1, rest⟩ = ([], d)) :
    redirection ⟨index, op.symbol :: rest⟩ = .error (.fault d.index (.operandMissing op)) := by
  simp only [redirection, Redirect.ofToken?_symbol, h]

lemma redirection_of_cons {index : Nat} {rest : List String} {op : Redirect} {first : Node}
    {more : List Node} {d : Cursor} (h : operands ⟨index + 1, rest⟩ = (first :: more, d)) :
    redirection ⟨index, op.symbol :: rest⟩ =
      .ok (.redirectExpr (.redirect op) first more, d) := by
  simp only [redirection, Redirect.ofToken?_symbol, h]

/-- A redirection is read where the tokens of a redirection stand, as far as its files reach. -/
theorem redirection_eq_ok_iff {c d : Cursor} {node : Node} :
    redirection c = .ok (node, d) ↔
      ∃ op first more, node = .redirectExpr (.redirect op) first more ∧
        (∀ f ∈ first :: more, f.IsOperand) ∧ c.Passes node.words d ∧ d.AtBreak := by
  constructor
  · intro h
    match c, h with
    | ⟨index, token :: rest⟩, h =>
      cases hop : Redirect.ofToken? token with
      | none => simp [redirection, hop] at h
      | some op =>
        obtain rfl := Redirect.ofToken?_eq_some_iff.1 hop
        have hpass := operands_passes ⟨index + 1, rest⟩
        have hoperand := operands_isOperand ⟨index + 1, rest⟩
        have hbreak := operands_atBreak ⟨index + 1, rest⟩
        cases hfiles : (operands ⟨index + 1, rest⟩).1 with
        | nil => simp [redirection_of_nil (Prod.ext hfiles rfl)] at h
        | cons first more =>
          rw [redirection_of_cons (Prod.ext hfiles rfl)] at h
          cases h
          rw [hfiles] at hpass hoperand
          refine ⟨op, first, more, rfl, hoperand, ?_, hbreak⟩
          simpa [Node.words] using hpass.cons op.symbol
  · rintro ⟨op, first, more, rfl, hfiles, hpass, hbreak⟩
    have hpass : c.Passes (op.symbol :: (first :: more).flatMap Node.words) d := by
      simpa [Node.words] using hpass
    obtain ⟨index, rest, rfl, hrest⟩ := hpass.of_cons
    exact redirection_of_cons (operands_eq hfiles hrest hbreak)

/-- A pipe with a call after it goes on as the tail of that call does. -/
lemma tail_of_call {index : Nat} {rest : List String} {node : Node} {d : Cursor}
    (h : call ⟨index + 1, rest⟩ = .ok (node, d)) :
    tail ⟨index, pipeToken :: rest⟩ =
      (tail d).map fun r => (some (.pipeExpr .pipe node r.1), r.2) := by
  rw [tail_pipe]
  simp only [pipeExpr, h]
  cases tail d <;> rfl

/-- What a tail reads is nothing or the tokens of a tail. -/
theorem tail_sound {c d : Cursor} {t : Option Node} (h : tail c = .ok (t, d)) :
    (∀ node ∈ t, node.IsTail) ∧ c.Passes (t.toList.flatMap Node.words) d := by
  induction c using tail.induct generalizing d t with
  | case1 index =>
    rw [tail_nil] at h
    cases h
    exact ⟨by simp, Passes.refl _⟩
  | case2 index rest e hcall =>
    rw [tail_pipe] at h
    simp [pipeExpr, hcall, Except.map] at h
  | case3 index rest node d' hcall e htail =>
    rw [tail_of_call hcall, htail] at h
    cases h
  | case4 index rest node d' hcall t' e htail hlt ih =>
    rw [tail_of_call hcall, htail] at h
    cases h
    obtain ⟨hnode, hpass, -⟩ := call_eq_ok_iff.1 hcall
    obtain ⟨hprops, hpass'⟩ := ih htail
    have hall := (hpass.trans hpass').cons pipeToken
    cases t' with
    | none =>
      refine ⟨by simpa [Node.IsTail] using hnode, ?_⟩
      simpa [Node.words] using hall
    | some u =>
      refine ⟨by simpa [Node.IsTail] using ⟨hnode, hprops u rfl⟩, ?_⟩
      simpa [Node.words] using hall
  | case5 index token rest hne e hred =>
    rw [tail_redirection hne, hred] at h
    cases h
  | case6 index token rest hne node d' hred =>
    rw [tail_redirection hne, hred] at h
    cases h
    obtain ⟨op, first, more, rfl, hfiles, hpass, -⟩ := redirection_eq_ok_iff.1 hred
    refine ⟨?_, by simpa using hpass⟩
    simpa [Node.IsTail] using hfiles

lemma atBreak_of_isTail {c d : Cursor} {t : Node} (ht : t.IsTail) (hpass : c.Passes t.words d) :
    c.AtBreak := by
  match t, ht with
  | .pipeExpr .pipe node none, _ =>
    simp [AtBreak, hpass.ahead, Node.words, isFilename_pipeToken]
  | .pipeExpr .pipe node (some u), _ =>
    simp [AtBreak, hpass.ahead, Node.words, isFilename_pipeToken]
  | .redirectExpr (.redirect op) first more, _ =>
    simp [AtBreak, hpass.ahead, Node.words, isFilename_symbol]

/-- The tokens of a tail, with nothing after them, are read as that tail. -/
theorem tail_complete {c d : Cursor} {t : Node} (ht : t.IsTail) (hpass : c.Passes t.words d)
    (hend : d.ahead = []) : tail c = .ok (some t, d) := by
  match t, ht with
  | .pipeExpr .pipe node none, hnode =>
    simp only [Node.IsTail, Node.words] at hnode hpass
    obtain ⟨index, rest, rfl, hrest⟩ := hpass.of_cons
    have hcall := call_eq_ok_iff.2 ⟨hnode, hrest, atBreak_of_ahead_nil hend⟩
    obtain ⟨last, ahead⟩ := d
    obtain rfl : ahead = [] := hend
    rw [tail_of_call hcall, tail_nil]
    rfl
  | .pipeExpr .pipe node (some u), hnodes =>
    simp only [Node.IsTail, Node.words] at hnodes hpass
    obtain ⟨hnode, hu⟩ := hnodes
    obtain ⟨index, rest, rfl, hrest⟩ := hpass.of_cons
    obtain ⟨e, hfirst, hsecond⟩ := hrest.of_append
    have hcall := call_eq_ok_iff.2 ⟨hnode, hfirst, atBreak_of_isTail hu hsecond⟩
    rw [tail_of_call hcall, tail_complete hu hsecond hend]
    rfl
  | .redirectExpr (.redirect op) first more, hfiles =>
    have hred : redirection c = .ok (.redirectExpr (.redirect op) first more, d) :=
      redirection_eq_ok_iff.2 ⟨op, first, more, rfl, by simpa [Node.IsTail] using hfiles, hpass,
        atBreak_of_ahead_nil hend⟩
    simp only [Node.words] at hpass
    obtain ⟨index, rest, rfl, -⟩ := hpass.of_cons
    rw [tail_redirection op.symbol_ne_pipeToken, hred]
    rfl

/-- A line is read where the tokens of a well-formed tree stand and nothing follows. -/
theorem line_eq_ok_iff {c d : Cursor} {node : Node} :
    line c = .ok (node, d) ↔ node.WellFormed ∧ c.Passes node.words d ∧ d.ahead = [] := by
  constructor
  · intro h
    unfold line at h
    split at h
    · cases h
    next call' e hcall =>
      obtain ⟨hnode, hfirst, -⟩ := call_eq_ok_iff.1 hcall
      split at h
      · cases h
      · next t index htail =>
        cases h
        obtain ⟨ht, hsecond⟩ := tail_sound htail
        refine ⟨?_, ?_, rfl⟩
        · cases t with
          | none => simpa only [Node.WellFormed] using hnode
          | some u => simpa only [Node.WellFormed] using ⟨hnode, ht u rfl⟩
        · cases t <;> simpa [Node.words] using hfirst.trans hsecond
      · cases h
  · rintro ⟨hwf, hpass, hend⟩
    obtain ⟨last, ahead⟩ := d
    obtain rfl : ahead = [] := hend
    cases node with
    | expr node t =>
      cases t with
      | none =>
        simp only [Node.WellFormed, Node.words] at hwf hpass
        have hcall := call_eq_ok_iff.2 ⟨hwf, hpass, atBreak_of_ahead_nil rfl⟩
        simp only [line, hcall, tail_nil]
      | some u =>
        simp only [Node.WellFormed, Node.words] at hwf hpass
        obtain ⟨hnode, hu⟩ := hwf
        obtain ⟨e, hfirst, hsecond⟩ := hpass.of_append
        have hcall := call_eq_ok_iff.2 ⟨hnode, hfirst, atBreak_of_isTail hu hsecond⟩
        simp only [line, hcall, tail_complete hu hsecond rfl]
    | _ => simp only [Node.WellFormed] at hwf

end Rule

lemma parse_eq_ok_iff {tokens : List String} {tree : Node} :
    parse tokens = .ok tree ↔ tree.WellFormed ∧ tree.words = tokens := by
  constructor
  · intro h
    cases hline : Rule.line ⟨0, tokens⟩ with
    | error e => simp [parse, hline, Except.map] at h
    | ok r =>
      obtain ⟨node, d⟩ := r
      obtain rfl : node = tree := by simpa [parse, hline, Except.map] using h
      obtain ⟨hwf, hpass, hend⟩ := Rule.line_eq_ok_iff.1 hline
      have hahead := hpass.ahead
      rw [hend, List.append_nil] at hahead
      exact ⟨hwf, hahead.symm⟩
  · rintro ⟨hwf, rfl⟩
    have hpass : Cursor.Passes ⟨0, tree.words⟩ tree.words ⟨tree.words.length, []⟩ :=
      ⟨(List.append_nil _).symm, (Nat.zero_add _).symm⟩
    simp only [parse, Rule.line_eq_ok_iff.2 ⟨hwf, hpass, rfl⟩, Except.map]

/-- Token lists are read as the well-formed trees that they write: each well-formed tree is read
from its own tokens and from no others, and no token list is read in two ways. -/
theorem parse_inverts_words (tokens : List String) :
    (∀ tree, parse tokens = .ok tree ↔ tree.WellFormed ∧ tree.words = tokens) ∧
      ((∃ tree, parse tokens = .ok tree) ↔
        ∃! tree : Node, tree.WellFormed ∧ tree.words = tokens) := by
  refine ⟨fun tree => parse_eq_ok_iff, ?_⟩
  constructor
  · rintro ⟨tree, h⟩
    refine ⟨tree, parse_eq_ok_iff.1 h, fun other hother => ?_⟩
    have hsame := (parse_eq_ok_iff.2 hother).symm.trans h
    exact Except.ok.inj hsame
  · rintro ⟨tree, htree, -⟩
    exact ⟨tree, parse_eq_ok_iff.2 htree⟩

end CommandShell
