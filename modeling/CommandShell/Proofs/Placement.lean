import CommandShell.Proofs.Planning

/-!
# The clause of an odd tree

Any node may stand in any slot of a tree. Whatever stands there, the stages that come out have names
and their clauses name files. Where every pipe expression holds a pipe, as it does unless it is
given something else, a level of the tree has two more nodes at most, and each of them can fill in
one part of a stage at most: its command or its clause. A stage that is ended by a pipe has used one
node for its command and one for the pipe, so it has no clause. The last stage may have one, and
from there it is put in its place.
-/
namespace CommandShell

namespace StageDraft

/-- How many of its two parts, the command and the clause, a draft has. -/
def filled (d : StageDraft) : Nat := (if d.command = "" then 0 else 1) + d.clause.toList.length

lemma filled_blank : blank.filled = 0 := rfl

lemma readCall_clause {d d' : StageDraft} {nodes : List Node} (h : d.readCall nodes = .ok d') :
    d'.clause = d.clause := by
  fun_induction readCall d nodes with
  | case1 d =>
    cases h
    rfl
  | case2 d name rest ih => exact ih h
  | case3 d name rest ih => exact ih h
  | case4 => cases h

lemma filled_readCall_le {d d' : StageDraft} {nodes : List Node} (h : d.readCall nodes = .ok d') :
    d'.filled ≤ d.filled + 1 := by
  simp only [filled, readCall_clause h]
  split <;> split <;> omega

lemma filled_clause_le (d : StageDraft) (clause : Clause) :
    { d with clause := some clause }.filled ≤ d.filled + 1 := by
  simp only [filled, Option.toList_some, List.length_singleton]
  omega

lemma targets_of_readRedirection {op : Option Redirect} {targets : List Path} {nodes : List Node}
    {c : Clause} (h : readRedirection op targets nodes = .ok c) : c.targets ≠ [] := by
  fun_induction readRedirection op targets nodes with
  | case1 op target targets =>
    cases h
    exact List.cons_ne_nil _ _
  | case2 => cases h
  | case3 op targets newer rest ih => exact ih h
  | case4 op targets name rest ih => exact ih h
  | case5 => cases h

def call (d : StageDraft) : Call := (d.command, d.args)

lemma finish_eq_ok {d : StageDraft} {stage : Stage} (h : d.finish = .ok stage) :
    d.command ≠ "" ∧ stage = { Stage.ofCall d.call with clause := d.clause } := by
  unfold finish at h
  split at h
  · cases h
  next hname =>
    cases h
    exact ⟨hname, rfl⟩

end StageDraft

/-- Stages without clauses, the last of which is given one if there is one. -/
def Ends (stages : List Stage) : Prop :=
  ∃ (calls : List Call) (clause : Option Clause), calls ≠ [] ∧
    stages = giveLast clause (calls.map Stage.ofCall)

lemma Ends.cons {stages : List Stage} (h : Ends stages) (call : Call) :
    Ends (Stage.ofCall call :: stages) := by
  obtain ⟨calls, clause, hne, rfl⟩ := h
  refine ⟨call :: calls, clause, List.cons_ne_nil _ _, ?_⟩
  rw [List.map_cons, giveLast_cons (by simpa using hne)]

/-- A name to run under, and files for whatever clause there is. -/
def Stage.IsComplete (s : Stage) : Prop := s.command ≠ "" ∧ ∀ c ∈ s.clause, c.targets ≠ []

/-- Whatever stands in the slots, no stage lacks its name and no clause its files. -/
theorem stagesOf_complete {d : StageDraft} {nodes : List Node} {stages : List Stage}
    (h : stagesOf d nodes = .ok stages) (htargets : ∀ c ∈ d.clause, c.targets ≠ []) :
    stages ≠ [] ∧ ∀ s ∈ stages, s.IsComplete := by
  fun_induction stagesOf d nodes generalizing stages with
  | case1 | case3 | case5 | case7 | case8 | case10 => cases h
  | case2 d stage hfinish =>
    cases h
    obtain ⟨hname, rfl⟩ := StageDraft.finish_eq_ok hfinish
    simpa [Stage.IsComplete, Stage.ofCall, StageDraft.call] using ⟨hname, htargets⟩
  | case4 d c files rest d' hread ih =>
    exact ih h (StageDraft.readCall_clause hread ▸ htargets)
  | case6 d op first more rest clause hread ih =>
    refine ih h ?_
    rintro _ ⟨⟩
    exact StageDraft.targets_of_readRedirection hread
  | case9 d p c tail rest stage hfinish later hlater ih =>
    cases h
    obtain ⟨hname, rfl⟩ := StageDraft.finish_eq_ok hfinish
    have hrest := (ih hlater (by simp [StageDraft.blank])).2
    refine ⟨List.cons_ne_nil _ _, List.forall_mem_cons.2 ⟨⟨hname, htargets⟩, hrest⟩⟩

section
variable {stages : List Stage}

lemma complete_giveFirst (h : ∀ s ∈ stages, s.IsComplete) {c : Clause} (hc : c.targets ≠ []) :
    ∀ s ∈ giveFirst c stages, s.IsComplete := by
  cases stages with
  | nil => simp [giveFirst]
  | cons s rest =>
    obtain ⟨hs, hrest⟩ := List.forall_mem_cons.1 h
    exact List.forall_mem_cons.2 ⟨⟨hs.1, by simpa using hc⟩, hrest⟩

lemma complete_bareLast (h : ∀ s ∈ stages, s.IsComplete) :
    ∀ s ∈ bareLast stages, s.IsComplete := by
  fun_induction bareLast stages with
  | case1 => exact h
  | case2 s => simpa [Stage.IsComplete] using (h s (by simp)).1
  | case3 s rest hrest ih =>
    obtain ⟨hs, hmore⟩ := List.forall_mem_cons.1 h
    exact List.forall_mem_cons.2 ⟨hs, ih hmore⟩

lemma complete_relocate (h : ∀ s ∈ stages, s.IsComplete) : ∀ s ∈ relocate stages, s.IsComplete := by
  unfold relocate
  split
  next clause hlength hlast =>
    split
    · obtain ⟨s, hs, hclause⟩ := Option.bind_eq_some_iff.1 hlast
      have hc := (h s (List.mem_of_getLast? hs)).2 clause hclause
      exact complete_giveFirst (complete_bareLast h) hc
    · exact h
  · exact h

lemma length_relocate : (relocate stages).length = stages.length := by
  unfold relocate
  split
  · split
    · rw [← List.length_map (f := Stage.call), map_call_giveFirst, bareLast_eq_giveLast,
        map_call_giveLast, List.length_map]
    · rfl
  · rfl

lemma relocate_ne_nil (h : stages ≠ []) : relocate stages ≠ [] := by
  rw [← List.length_pos_iff, length_relocate]
  exact List.length_pos_iff.2 h

end

namespace Node

/-- Every pipe expression of the tree holds a pipe in its pipe slot. -/
def HasPipes : Node → Prop
  | commandExpr c files => c.HasPipes ∧ ∀ f ∈ files, f.HasPipes
  | redirectExpr op first rest => op.HasPipes ∧ first.HasPipes ∧ ∀ f ∈ rest, f.HasPipes
  | pipeExpr p c none => p = pipe ∧ c.HasPipes
  | pipeExpr p c (some t) => p = pipe ∧ c.HasPipes ∧ t.HasPipes
  | expr c none => c.HasPipes
  | expr c (some t) => c.HasPipes ∧ t.HasPipes
  | _ => True

lemma HasPipes.children {node : Node} (h : node.HasPipes) :
    ∀ child ∈ node.children, child.HasPipes := by
  cases node with
  | pipeExpr p c tail => cases tail <;> simp_all [HasPipes, Node.children]
  | expr c tail => cases tail <;> simp_all [HasPipes, Node.children]
  | commandExpr | redirectExpr => simpa [HasPipes, Node.children] using h
  | _ => simp [Node.children]

lemma HasPipes.pipe_eq {p c : Node} {tail : Option Node} (h : (pipeExpr p c tail).HasPipes) :
    p = pipe := by
  cases tail <;> simp_all [HasPipes]

lemma length_afterPipe_le (command : Node) (tail : Option Node) :
    (afterPipe pipe command tail).length ≤ 2 := by
  rw [afterPipe, List.filter_cons_of_neg (by simp)]
  refine Nat.le_trans (List.length_filter_le _ _) ?_
  cases tail <;> simp

end Node

/-- A level of a tree leaves room for one clause, and only on its last stage. -/
theorem stagesOf_ends {d : StageDraft} {nodes : List Node} {stages : List Stage}
    (h : stagesOf d nodes = .ok stages) (hpipes : ∀ node ∈ nodes, node.HasPipes)
    (hroom : d.filled + nodes.length ≤ 2) : Ends stages := by
  -- Every node that is read takes as much room from the level as it fills in at most.
  fun_induction stagesOf d nodes generalizing stages with
  | case1 | case3 | case5 | case7 | case8 | case10 => cases h
  | case2 d stage hfinish =>
    cases h
    obtain ⟨-, rfl⟩ := StageDraft.finish_eq_ok hfinish
    exact ⟨[d.call], d.clause, List.cons_ne_nil _ _, rfl⟩
  | case4 d c files rest d' hread ih =>
    have hfilled := StageDraft.filled_readCall_le hread
    rw [List.length_cons] at hroom
    exact ih h (fun node hnode => hpipes node (List.mem_cons_of_mem _ hnode)) (by omega)
  | case6 d op first more rest clause hread ih =>
    have hfilled := d.filled_clause_le clause
    rw [List.length_cons] at hroom
    exact ih h (fun node hnode => hpipes node (List.mem_cons_of_mem _ hnode)) (by omega)
  | case9 d p c tail rest stage hfinish later hlater ih =>
    cases h
    obtain ⟨hname, rfl⟩ := StageDraft.finish_eq_ok hfinish
    have hpipe := hpipes (.pipeExpr p c tail) List.mem_cons_self
    have hbare : d.clause = none := by
      cases hclause : d.clause with
      | none => rfl
      | some clause =>
        simp only [StageDraft.filled, hname, hclause, if_false, Option.toList_some,
          List.length_cons] at hroom
        omega
    obtain rfl := hpipe.pipe_eq
    have hrest := ih hlater
      (fun node hnode => hpipe.children node (List.mem_of_mem_filter hnode))
      (by simpa [StageDraft.filled_blank] using Node.length_afterPipe_le c tail)
    rw [hbare]
    exact hrest.cons d.call

/-! ## Clauses in their places -/

/-- The clause of the stage with a given number. -/
def Pipeline.clauseAt (p : Pipeline) (i : Nat) : Option Clause := p.stages[i]?.bind Stage.clause

/-- A clause that is placed is met in its place and nowhere else. -/
lemma clause_place {stages : List Stage} (hbare : ∀ s ∈ stages, s.clause = none)
    {clause : Option Clause} {i : Nat} {c : Clause}
    (h : (place clause stages)[i]?.bind Stage.clause = some c) :
    clause = some c ∧ i = if c.op = .input then 0 else stages.length - 1 := by
  have hnone {more : List Stage} (hmore : more ⊆ stages) (j : Nat) :
      more[j]?.bind Stage.clause = none := by
    cases hj : more[j]? with
    | none => rfl
    | some s => exact hbare s (hmore (List.mem_of_getElem? hj))
  cases clause with
  | none =>
    rw [place, hnone (List.Subset.refl _)] at h
    cases h
  | some given =>
    by_cases hop : given.op = .input
    · rw [place, if_pos hop] at h
      cases stages with
      | nil => simp [giveFirst] at h
      | cons s rest =>
        cases i with
        | zero =>
          obtain rfl : given = c := by simpa [giveFirst] using h
          exact ⟨rfl, (if_pos hop).symm⟩
        | succ j =>
          rw [giveFirst, List.getElem?_cons_succ, hnone (List.subset_cons_self _ _)] at h
          cases h
    · rw [place, if_neg hop] at h
      obtain rfl | ⟨front, s, rfl⟩ := List.eq_nil_or_concat' stages
      · simp [giveLast] at h
      rw [giveLast_concat] at h
      obtain hlt | rfl | hgt := Nat.lt_trichotomy i front.length
      · rw [List.getElem?_append_left hlt, hnone (List.subset_append_left _ _)] at h
        cases h
      · obtain rfl : given = c := by simpa using h
        exact ⟨rfl, by simp [hop]⟩
      · rw [List.getElem?_eq_none (by simp; omega)] at h
        cases h

/-- Another node in a pipe slot is read with the stage behind it, which a pipe may end. -/
example :
    stagesOf .blank [.ofCall ("a", []),
      .pipeExpr (.redirectExpr (.redirect .output) (.file "x") []) (.ofCall ("b", []))
        (some (.pipeExpr .pipe (.ofCall ("c", [])) none))] =
      .ok [⟨"a", [], none⟩, ⟨"b", [], some ⟨.output, [.ofString "x"]⟩⟩, ⟨"c", [], none⟩] := by
  cbv

end CommandShell
