import CommandShell.Proofs.Placement

/-!
# Which trees have a pipeline

Flattening looks at the kinds of nodes and not at how many there are or in which order they stand.
A row of calls and redirections up to the next pipe becomes one stage: its command is the last one
of the row, its operands are all the files of the calls, and its clause is the last one that is
complete. So a tree of the grammar's shape loses nothing, and a tree of another shape may still have
a pipeline, in which commands and operators have been overwritten, calls have been merged and pipes
have been dropped.
-/
namespace CommandShell

namespace Node

/-! ## The grammar's shape -/

def IsFile : Node → Prop
  | file _ => True
  | _ => False

/-- One command and nothing but files, under whatever names. -/
def HasCallShape : Node → Prop
  | commandExpr (command _) files => ∀ f ∈ files, f.IsFile
  | _ => False

/-- A pipe with a call and its tail, or an operator and nothing but files. -/
def HasTailShape : Node → Prop
  | pipeExpr pipe c none => c.HasCallShape
  | pipeExpr pipe c (some t) => c.HasCallShape ∧ t.HasTailShape
  | redirectExpr (redirect _) first rest => first.IsFile ∧ ∀ f ∈ rest, f.IsFile
  | _ => False

def HasLineShape : Node → Prop
  | expr c none => c.HasCallShape
  | expr c (some t) => c.HasCallShape ∧ t.HasTailShape
  | _ => False

lemma isFile_iff {node : Node} : node.IsFile ↔ ∃ name, node = file name := by
  cases node <;> simp [IsFile]

lemma exists_file_names {files : List Node} (h : ∀ f ∈ files, f.IsFile) :
    ∃ names : List String, files = names.map file := by
  induction files with
  | nil => exact ⟨[], rfl⟩
  | cons f files ih =>
    obtain ⟨name, rfl⟩ := isFile_iff.1 (h f List.mem_cons_self)
    obtain ⟨names, rfl⟩ := ih fun f hf => h f (List.mem_cons_of_mem _ hf)
    exact ⟨name :: names, rfl⟩

lemma exists_ofCall_of_shape {node : Node} (h : node.HasCallShape) :
    ∃ call, node = ofCall call := by
  unfold HasCallShape at h
  split at h
  next name files =>
    obtain ⟨names, rfl⟩ := exists_file_names h
    exact ⟨(name, names), rfl⟩
  · exact h.elim

lemma hasTailShape_pipeExpr {c : Node} {t : Option Node} :
    (pipeExpr pipe c t).HasTailShape ↔ c.HasCallShape ∧ ∀ u ∈ t, u.HasTailShape := by
  cases t <;> simp [HasTailShape]

lemma ne_pipe_of_shape {u : Node} (hu : u.HasTailShape) : u ≠ pipe := by
  rintro rfl
  simp [HasTailShape] at hu

lemma hasLineShape_expr {c : Node} {t : Option Node} :
    (expr c t).HasLineShape ↔ c.HasCallShape ∧ ∀ u ∈ t, u.HasTailShape := by
  cases t <;> simp [HasLineShape]

/-! ## Rows of calls and redirections -/

def command? : Node → Option String
  | command name => some name
  | _ => none

def file? : Node → Option String
  | file name => some name
  | _ => none

def redirect? : Node → Option Redirect
  | redirect op => some op
  | _ => none

/-- The names of the commands among nodes. -/
def commandNames (nodes : List Node) : List String := nodes.filterMap command?

/-- The names of the files among nodes. -/
def fileNames (nodes : List Node) : List String := nodes.filterMap file?

def operators (nodes : List Node) : List Redirect := nodes.filterMap redirect?

/-- A call as far as it is looked at: commands and files, in whatever number and order. -/
def IsLooseCall (node : Node) : Prop :=
  ∃ c files, node = commandExpr c files ∧
    ∀ slot ∈ c :: files, ∃ name, slot = command name ∨ slot = file name

/-- A redirection as far as it is looked at: operators and files, at least one of each. -/
def IsLooseRedirection (node : Node) : Prop :=
  ∃ op first rest, node = redirectExpr op first rest ∧
    (∀ slot ∈ op :: first :: rest, (∃ op, slot = redirect op) ∨ ∃ name, slot = file name) ∧
    operators (op :: first :: rest) ≠ [] ∧ fileNames (op :: first :: rest) ≠ []

/-- The slots of the calls among nodes. -/
def callSlots (nodes : List Node) : List Node :=
  nodes.flatMap fun
    | commandExpr c files => c :: files
    | _ => []

/-- The clause of a redirection: its last operator, with all its files. -/
def clause? : Node → Option Clause
  | redirectExpr op first rest =>
    (operators (op :: first :: rest)).getLast?.map fun last =>
      ⟨last, (fileNames (op :: first :: rest)).map Path.ofString⟩
  | _ => none

end Node

/-- The stage that a row of calls and redirections becomes. -/
structure Stage.IsOf (row : List Node) (stage : Stage) : Prop where
  readable : ∀ node ∈ row, node.IsLooseCall ∨ node.IsLooseRedirection
  command : (Node.commandNames (Node.callSlots row)).getLast? = some stage.command
  named : stage.command ≠ ""
  args : stage.args = Node.fileNames (Node.callSlots row)
  clause : stage.clause = (row.filterMap Node.clause?).getLast?

/-- The stages that a row of nodes becomes: a pipe expression ends a stage, and its own nodes, but
for pipes, are the row after it; a call or a redirection in its pipe slot belongs to that row. What
stands behind a pipe expression is not read. -/
inductive Flattens : List Node → List Stage → Prop
  | last {row : List Node} {stage : Stage} (h : stage.IsOf row) : Flattens row [stage]
  | pipe {row : List Node} {stage : Stage} {p c : Node} {t : Option Node} {stages : List Stage}
      (h : stage.IsOf row) (hrest : Flattens (Node.afterPipe p c t) stages) (unread : List Node) :
      Flattens (row ++ .pipeExpr p c t :: unread) (stage :: stages)

/-! ## Drafts -/

namespace StageDraft
variable {d d' : StageDraft} {nodes : List Node}

/-- A call is read if its slots hold commands and files: the last command counts, and all files. -/
lemma readCall_eq_ok_iff : d.readCall nodes = .ok d' ↔
    (∀ slot ∈ nodes, ∃ name, slot = .command name ∨ slot = .file name) ∧
      d' = { d with
        command := (Node.commandNames nodes).getLast?.getD d.command
        args := d.args ++ Node.fileNames nodes } := by
  fun_induction readCall d nodes with
  | case1 d => simp [Node.commandNames, Node.fileNames, eq_comm]
  | case2 d name rest ih =>
    rw [ih]
    simp [Node.commandNames, Node.fileNames, Node.command?, Node.file?, List.filterMap_cons,
      List.getLast?_cons]
  | case3 d name rest ih =>
    rw [ih]
    simp [Node.commandNames, Node.fileNames, Node.command?, Node.file?]
  | case4 d node rest hcommand hfile =>
    simp only [reduceCtorEq, false_iff, not_and]
    intro h
    obtain ⟨name, rfl | rfl⟩ := h node List.mem_cons_self
    · exact absurd rfl (hcommand name)
    · exact absurd rfl (hfile name)

/-- A redirection is read if its slots hold operators and files: the last operator counts. -/
lemma readRedirection_eq_ok_iff {op : Option Redirect} {targets : List Path} {c : Clause} :
    readRedirection op targets nodes = .ok c ↔
      (∀ slot ∈ nodes, (∃ op, slot = .redirect op) ∨ ∃ name, slot = .file name) ∧
        (Node.operators nodes).getLast?.or op = some c.op ∧
        targets ++ (Node.fileNames nodes).map Path.ofString = c.targets ∧ c.targets ≠ [] := by
  fun_induction readRedirection op targets nodes with
  | case1 op target targets =>
    constructor
    · rintro ⟨⟩
      simp [Node.operators, Node.fileNames]
    · rintro ⟨-, hop, htargets, -⟩
      obtain ⟨last, files⟩ := c
      simp_all [Node.operators, Node.fileNames]
  | case2 op targets hincomplete =>
    simp only [reduceCtorEq, false_iff]
    rintro ⟨-, hop, htargets, hne⟩
    rw [Node.fileNames, List.filterMap_nil, List.map_nil, List.append_nil] at htargets
    obtain ⟨target, more, hmore⟩ := List.exists_cons_of_ne_nil (htargets ▸ hne)
    exact hincomplete c.op target more hop hmore
  | case3 op targets newer rest ih =>
    rw [ih]
    simp [Node.operators, Node.fileNames, Node.redirect?, Node.file?, List.filterMap_cons,
      List.getLast?_cons]
  | case4 op targets name rest ih =>
    rw [ih]
    simp [Node.operators, Node.fileNames, Node.redirect?, Node.file?, List.filterMap_cons]
  | case5 op targets node rest hredirect hfile =>
    simp only [reduceCtorEq, false_iff, not_and]
    intro h
    obtain ⟨op, rfl⟩ | ⟨name, rfl⟩ := h node List.mem_cons_self
    · exact absurd rfl (hredirect op)
    · exact absurd rfl (hfile name)

/-- A draft into which a row of calls and redirections has been read. -/
def withRow (d : StageDraft) (row : List Node) : StageDraft where
  command := (Node.commandNames (Node.callSlots row)).getLast?.getD d.command
  args := d.args ++ Node.fileNames (Node.callSlots row)
  clause := (row.filterMap Node.clause?).getLast?.or d.clause

lemma withRow_nil (d : StageDraft) : d.withRow [] = d := by
  simp [withRow, Node.callSlots, Node.commandNames, Node.fileNames]

lemma withRow_append (d : StageDraft) (row more : List Node) :
    d.withRow (row ++ more) = (d.withRow row).withRow more := by
  simp only [withRow, Node.callSlots, Node.commandNames, Node.fileNames, List.flatMap_append,
    List.filterMap_append, List.getLast?_append, List.append_assoc, Option.or_assoc,
    Option.getD_or]

lemma readCall_eq_ok_withRow {c : Node} {files : List Node} : d.readCall (c :: files) = .ok d' ↔
    (Node.commandExpr c files).IsLooseCall ∧ d' = d.withRow [.commandExpr c files] := by
  rw [readCall_eq_ok_iff]
  simp [withRow, Node.IsLooseCall, Node.callSlots, Node.clause?]

lemma readRedirection_eq_ok_clause {op first : Node} {rest : List Node} {c : Clause} :
    readRedirection none [] (op :: first :: rest) = .ok c ↔
      (Node.redirectExpr op first rest).IsLooseRedirection ∧
        (Node.redirectExpr op first rest).clause? = some c := by
  rw [readRedirection_eq_ok_iff, Option.or_none, List.nil_append]
  constructor
  · rintro ⟨hslots, hop, htargets, hne⟩
    refine ⟨⟨op, first, rest, rfl, hslots, ?_, ?_⟩, ?_⟩
    · intro hnone
      simp [hnone] at hop
    · intro hnone
      exact hne (by rw [← htargets, hnone, List.map_nil])
    · rw [Node.clause?, hop, htargets]
      rfl
  · rintro ⟨⟨_, _, _, ⟨⟩, hslots, hop, hfiles⟩, hclause⟩
    rw [Node.clause?, Option.map_eq_some_iff] at hclause
    obtain ⟨last, hlast, rfl⟩ := hclause
    exact ⟨hslots, hlast, rfl, by simpa using hfiles⟩

lemma withRow_redirection (d : StageDraft) {op first : Node} {rest : List Node} {c : Clause}
    (h : (Node.redirectExpr op first rest).clause? = some c) :
    d.withRow [.redirectExpr op first rest] = { d with clause := some c } := by
  simp [withRow, Node.callSlots, Node.commandNames, Node.fileNames, h]

/-- The stage of a row is the draft that is read from it, if it has a name. -/
lemma isOf_iff_finish {row : List Node} {stage : Stage} :
    stage.IsOf row ↔ (∀ node ∈ row, node.IsLooseCall ∨ node.IsLooseRedirection) ∧
      (blank.withRow row).finish = .ok stage := by
  constructor
  · rintro ⟨hreadable, hcommand, hnamed, hargs, hclause⟩
    refine ⟨hreadable, ?_⟩
    simp [finish, withRow, blank, hcommand, hnamed, ← hargs, ← hclause]
  · rintro ⟨hreadable, hfinish⟩
    obtain ⟨hnamed, rfl⟩ := finish_eq_ok hfinish
    have hcommand : (Node.commandNames (Node.callSlots row)).getLast? =
        some (blank.withRow row).command := by
      simp only [withRow, blank] at hnamed ⊢
      cases hlast : (Node.commandNames (Node.callSlots row)).getLast? with
      | none => simp [hlast] at hnamed
      | some name => rfl
    exact ⟨hreadable, hcommand, hnamed, List.nil_append _, Option.or_none⟩

end StageDraft

/-! ## Reading a row -/

/-- Calls and redirections are read into the draft one after the other. -/
lemma stagesOf_append {row : List Node}
    (hrow : ∀ node ∈ row, node.IsLooseCall ∨ node.IsLooseRedirection) (d : StageDraft)
    (rest : List Node) : stagesOf d (row ++ rest) = stagesOf (d.withRow row) rest := by
  induction row generalizing d with
  | nil => rw [d.withRow_nil, List.nil_append]
  | cons node row ih =>
    have hnode : stagesOf d (node :: (row ++ rest)) =
        stagesOf (d.withRow [node]) (row ++ rest) := by
      obtain ⟨c, files, rfl, hslots⟩ | ⟨op, first, more, rfl, hslots, hops, hfiles⟩ :=
        hrow node List.mem_cons_self
      · rw [stagesOf, StageDraft.readCall_eq_ok_withRow.2 ⟨⟨c, files, rfl, hslots⟩, rfl⟩]
      · obtain ⟨last, hlast⟩ := Option.isSome_iff_exists.1 (List.getLast?_isSome.2 hops)
        have hclause := congrArg (Option.map fun last => Clause.mk last
          ((Node.fileNames (op :: first :: more)).map Path.ofString)) hlast
        rw [stagesOf, StageDraft.readRedirection_eq_ok_clause.2
          ⟨⟨op, first, more, rfl, hslots, hops, hfiles⟩, hclause⟩, d.withRow_redirection hclause]
    rw [List.cons_append, hnode, ih fun n hn => hrow n (List.mem_cons_of_mem _ hn),
      ← StageDraft.withRow_append, List.singleton_append]

/-- What nodes come to whose stage has been read in part. -/
def FlattensFrom (d : StageDraft) (nodes : List Node) (stages : List Stage) : Prop :=
  ∃ row stage, (∀ node ∈ row, node.IsLooseCall ∨ node.IsLooseRedirection) ∧
    (d.withRow row).finish = .ok stage ∧
    (nodes = row ∧ stages = [stage] ∨ ∃ p c t unread more,
      nodes = row ++ .pipeExpr p c t :: unread ∧ Flattens (Node.afterPipe p c t) more ∧
      stages = stage :: more)

lemma FlattensFrom.cons {d : StageDraft} {node : Node} {nodes : List Node} {stages : List Stage}
    (hnode : node.IsLooseCall ∨ node.IsLooseRedirection)
    (h : FlattensFrom (d.withRow [node]) nodes stages) : FlattensFrom d (node :: nodes) stages := by
  obtain ⟨row, stage, hrow, hfinish, hends⟩ := h
  rw [← StageDraft.withRow_append, List.singleton_append] at hfinish
  refine ⟨node :: row, stage, List.forall_mem_cons.2 ⟨hnode, hrow⟩, hfinish, ?_⟩
  obtain ⟨rfl, rfl⟩ | ⟨p, c, t, unread, more, rfl, hmore, rfl⟩ := hends
  · exact .inl ⟨rfl, rfl⟩
  · exact .inr ⟨p, c, t, unread, more, rfl, hmore, rfl⟩

lemma FlattensFrom.flattens {nodes : List Node} {stages : List Stage}
    (h : FlattensFrom .blank nodes stages) : Flattens nodes stages := by
  obtain ⟨row, stage, hrow, hfinish, hends⟩ := h
  have hstage : stage.IsOf row := StageDraft.isOf_iff_finish.2 ⟨hrow, hfinish⟩
  obtain ⟨rfl, rfl⟩ | ⟨p, c, t, unread, more, rfl, hmore, rfl⟩ := hends
  · exact .last hstage
  · exact .pipe hstage hmore unread

lemma flattensFrom_of_stagesOf {d : StageDraft} {nodes : List Node} {stages : List Stage}
    (h : stagesOf d nodes = .ok stages) : FlattensFrom d nodes stages := by
  fun_induction stagesOf d nodes generalizing stages with
  | case2 d stage hfinish =>
    cases h
    exact ⟨[], stage, by simp, by rwa [d.withRow_nil], .inl ⟨rfl, rfl⟩⟩
  | case4 d c files rest d' hread ih =>
    obtain ⟨hcall, rfl⟩ := StageDraft.readCall_eq_ok_withRow.1 hread
    exact (ih h).cons (.inl hcall)
  | case6 d op first more rest clause hread ih =>
    obtain ⟨hred, hclause⟩ := StageDraft.readRedirection_eq_ok_clause.1 hread
    rw [← d.withRow_redirection hclause] at h ih
    exact (ih h).cons (.inr hred)
  | case9 d p c t unread stage hfinish later hlater ih =>
    cases h
    exact ⟨[], stage, by simp, by rwa [d.withRow_nil],
      .inr ⟨p, c, t, unread, later, rfl, (ih hlater).flattens, rfl⟩⟩
  | case1 | case3 | case5 | case7 | case8 | case10 => cases h

/-- The stages of a row of nodes are those that the row becomes. -/
theorem stagesOf_eq_ok_iff {nodes : List Node} {stages : List Stage} :
    stagesOf .blank nodes = .ok stages ↔ Flattens nodes stages := by
  refine ⟨fun h => (flattensFrom_of_stagesOf h).flattens, fun h => ?_⟩
  induction h with
  | @last row stage h =>
    obtain ⟨hrow, hfinish⟩ := StageDraft.isOf_iff_finish.1 h
    have happend := stagesOf_append hrow .blank []
    rw [List.append_nil, stagesOf, hfinish] at happend
    exact happend
  | @pipe row stage p c t stages h hrest unread ih =>
    obtain ⟨hrow, hfinish⟩ := StageDraft.isOf_iff_finish.1 h
    rw [stagesOf_append hrow, stagesOf, hfinish, ih]

/-- A node has the pipeline of the stages that its rows become, with an input clause in front. -/
theorem Pipeline.ofNode_eq_ok_iff {node : Node} {p : Pipeline} :
    ofNode node = .ok p ↔ ∃ stages, Flattens node.children stages ∧ p.stages = relocate stages := by
  constructor
  · intro h
    rw [ofNode] at h
    split at h
    · cases h
    next stages hstages =>
      refine ⟨stages, stagesOf_eq_ok_iff.1 hstages, ?_⟩
      unfold ofStages? at h
      split at h
      · cases h
        rfl
      · cases h
  · rintro ⟨stages, hstages, hp⟩
    have hread := stagesOf_eq_ok_iff.2 hstages
    simp only [ofNode, hread, ofStages?, ← hp, dif_pos p.stages_ne_nil]

/-! ## Rows of the grammar's shape -/

namespace Node

lemma commandNames_map_file (names : List String) : commandNames (names.map file) = [] := by
  simp [commandNames, command?, List.filterMap_map, Function.comp_def]

lemma fileNames_map_file (names : List String) : fileNames (names.map file) = names := by
  simp [fileNames, file?, List.filterMap_map, Function.comp_def]

lemma operators_map_file (names : List String) : operators (names.map file) = [] := by
  simp [operators, redirect?, List.filterMap_map, Function.comp_def]

lemma commandNames_slots (call : Call) :
    commandNames (command call.1 :: call.2.map file) = [call.1] :=
  congrArg (call.1 :: ·) (commandNames_map_file call.2)

lemma fileNames_slots (call : Call) : fileNames (command call.1 :: call.2.map file) = call.2 :=
  fileNames_map_file call.2

lemma callSlots_ofCall (call : Call) (rest : List Node) :
    callSlots (ofCall call :: rest) = command call.1 :: call.2.map file ++ callSlots rest := rfl

lemma isLooseCall_ofCall (call : Call) : (ofCall call).IsLooseCall :=
  ⟨_, _, rfl, by simp⟩

lemma isLooseRedirection_of_names (op : Redirect) (first : String) (rest : List String) :
    (redirectExpr (redirect op) (file first) (rest.map file)).IsLooseRedirection :=
  ⟨_, _, _, rfl, by simp, by simp [operators, redirect?], by simp [fileNames, file?]⟩

lemma clause?_of_names (op : Redirect) (first : String) (rest : List String) :
    (redirectExpr (redirect op) (file first) (rest.map file)).clause? =
      some (.ofNames (op, first :: rest)) := by
  have hops : operators (redirect op :: file first :: rest.map file) = [op] :=
    congrArg (op :: ·) (operators_map_file rest)
  have hfiles : fileNames (redirect op :: file first :: rest.map file) = first :: rest :=
    congrArg (first :: ·) (fileNames_map_file rest)
  rw [clause?, hops, hfiles]
  rfl

end Node

/-- A call and the redirections behind it become the stage of the call. -/
lemma Stage.isOf_ofCall {call : Call} (hname : call.1 ≠ "") (row : List Node)
    (hrow : ∀ node ∈ row, node.IsLooseRedirection) :
    { ofCall call with clause := (row.filterMap Node.clause?).getLast? }.IsOf
      (.ofCall call :: row) := by
  have hbare : Node.callSlots row = [] := by
    refine List.flatMap_eq_nil_iff.2 fun node hnode => ?_
    obtain ⟨op, first, rest, rfl, -⟩ := hrow node hnode
    rfl
  have hslots : Node.callSlots (.ofCall call :: row) = .command call.1 :: call.2.map .file := by
    rw [Node.callSlots_ofCall, hbare, List.append_nil]
  refine ⟨?_, ?_, hname, ?_, rfl⟩
  · exact List.forall_mem_cons.2 ⟨.inl (Node.isLooseCall_ofCall call), fun n hn => .inr (hrow n hn)⟩
  · rw [hslots, Node.commandNames_slots]
    rfl
  · rw [hslots, Node.fileNames_slots]
    rfl

/-- A call alone becomes its stage, and with a tail it becomes what the two become. -/
lemma flattens_call {call : Call} {t : Option Node}
    (hnames : "" ∉ (call :: t.toList.flatMap Node.calls).map Prod.fst)
    (ht : ∀ u ∈ t, "" ∉ (call :: u.calls).map Prod.fst → Flattens [.ofCall call, u]
      (giveLast (u.redirection.map Clause.ofNames) ((call :: u.calls).map Stage.ofCall))) :
    Flattens (.ofCall call :: t.toList) (giveLast ((t.bind Node.redirection).map Clause.ofNames)
      ((call :: t.toList.flatMap Node.calls).map Stage.ofCall)) := by
  cases t with
  | none =>
    have hname : call.1 ≠ "" := fun h => hnames (h ▸ List.mem_cons_self)
    exact .last (Stage.isOf_ofCall hname [] (by simp))
  | some u => simpa using ht u rfl (by simpa using hnames)

/-- A call and a tail of the grammar's shape become the stages of their calls. -/
lemma flattens_tail {u : Node} (hu : u.HasTailShape) (call : Call)
    (hnames : "" ∉ (call :: u.calls).map Prod.fst) :
    Flattens [.ofCall call, u]
      (giveLast (u.redirection.map Clause.ofNames) ((call :: u.calls).map Stage.ofCall)) := by
  have hname : call.1 ≠ "" := fun h => hnames (h ▸ List.mem_cons_self)
  match u, hu with
  | .redirectExpr (.redirect op) first rest, hfiles =>
    obtain ⟨name, rfl⟩ := Node.isFile_iff.1 hfiles.1
    obtain ⟨names, rfl⟩ := Node.exists_file_names hfiles.2
    have hstage := Stage.isOf_ofCall hname [_]
      (by simpa using Node.isLooseRedirection_of_names op name names)
    simpa [Node.clause?_of_names, Node.redirection, Node.calls, Node.words, Node.words_map_file,
      giveLast] using Flattens.last hstage
  | .pipeExpr .pipe c t, hshape =>
    obtain ⟨hc, ht⟩ := Node.hasTailShape_pipeExpr.1 hshape
    obtain ⟨second, rfl⟩ := Node.exists_ofCall_of_shape hc
    rw [Node.calls_pipeExpr, Node.calls_ofCall, List.singleton_append] at hnames ⊢
    rw [Node.redirection_pipeExpr]
    have hlater : "" ∉ (second :: t.toList.flatMap Node.calls).map Prod.fst :=
      fun h => hnames (List.mem_cons_of_mem _ h)
    have hrest := flattens_call hlater (by
      cases t with
      | none => simp
      | some u =>
        rintro _ ⟨⟩ hnamed
        exact flattens_tail (ht u rfl) second hnamed)
    have hpipes := Node.afterPipe_ofCall second fun u hu => Node.ne_pipe_of_shape (ht u hu)
    have hfirst := Stage.isOf_ofCall hname [] (by simp)
    rw [List.map_cons, giveLast_cons (by simp)]
    have hboth := Flattens.pipe hfirst (hpipes.symm ▸ hrest) []
    exact hboth

/-- A tree of the grammar's shape whose commands have names becomes the stages of its calls. -/
lemma flattens_children {c : Node} {t : Option Node} (h : (Node.expr c t).HasLineShape)
    (hnames : "" ∉ (Node.expr c t).calls.map Prod.fst) :
    Flattens (c :: t.toList) (giveLast ((Node.expr c t).redirection.map Clause.ofNames)
      ((Node.expr c t).calls.map Stage.ofCall)) := by
  obtain ⟨hc, ht⟩ := Node.hasLineShape_expr.1 h
  obtain ⟨call, rfl⟩ := Node.exists_ofCall_of_shape hc
  rw [Node.calls_expr, Node.calls_ofCall, List.singleton_append] at hnames ⊢
  rw [Node.redirection_expr]
  exact flattens_call hnames fun u hu => flattens_tail (ht u hu) call

/-- A tree has the pipeline of the stages that its rows become, and no other tree has one. A tree of
the grammar's shape whose commands have names loses nothing: its calls are those of the stages, and
its redirection is their clause. -/
theorem flattening_reads_rows (c : Node) (t : Option Node) :
    (∀ p, Pipeline.ofNode (.expr c t) = .ok p ↔
      ∃ stages, Flattens (c :: t.toList) stages ∧ p.stages = relocate stages) ∧
    ((Node.expr c t).HasLineShape → "" ∉ (Node.expr c t).calls.map Prod.fst →
      ∃ p, Pipeline.ofNode (.expr c t) = .ok p ∧
        p.stages.map Stage.call = (Node.expr c t).calls ∧
        p.clause = (Node.expr c t).redirection.map Clause.ofNames) := by
  refine ⟨fun p => Pipeline.ofNode_eq_ok_iff, fun hshape hnames => ?_⟩
  have hread : stagesOf .blank (Node.expr c t).children = _ :=
    stagesOf_eq_ok_iff.2 (flattens_children hshape hnames)
  have hne : (Node.expr c t).calls ≠ [] := by
    obtain ⟨call, rfl⟩ := Node.exists_ofCall_of_shape (Node.hasLineShape_expr.1 hshape).1
    simp [Node.calls_expr]
  obtain ⟨p, hp, hstages⟩ := Pipeline.ofNode_of_stagesOf hread hne
  refine ⟨p, hp, ?_, ?_⟩
  · rw [hstages, map_call_place, map_call_ofCall]
  · rw [Pipeline.clause, hstages]
    exact findSome?_place _ (fun s => Stage.clause_of_mem_map_ofCall) (by simpa using hne)

/-- A line with a pipe and a redirection loses nothing. -/
theorem flattening_reads_rows_of_output :
    let c : Node := .ofCall ("ls", ["."])
    let t : Option Node := some (.pipeExpr .pipe (.ofCall ("sort", []))
      (some (.redirectExpr (.redirect .output) (.file "out") [])))
    (Node.expr c t).HasLineShape ∧ "" ∉ (Node.expr c t).calls.map Prod.fst ∧
      ∃ p, Pipeline.ofNode (.expr c t) = .ok p ∧
        p.stages.map Stage.call = [("ls", ["."]), ("sort", [])] ∧
        p.clause = some (.ofNames (.output, ["out"])) := by
  intro c t
  have hcalls : (Node.expr c t).calls = [("ls", ["."]), ("sort", [])] := by
    simp [c, t, Node.calls]
  have hred : (Node.expr c t).redirection = some (.output, ["out"]) := by
    simp [t, Node.redirection, Node.words]
  have hshape : (Node.expr c t).HasLineShape := by
    simp [c, t, Node.ofCall, Node.hasLineShape_expr, Node.HasTailShape, Node.HasCallShape,
      Node.IsFile]
  have hnames : "" ∉ (Node.expr c t).calls.map Prod.fst := by
    rw [hcalls]
    decide
  obtain ⟨p, hp, hstages, hclause⟩ := (flattening_reads_rows c t).2 hshape hnames
  exact ⟨hshape, hnames, p, hp, hstages.trans hcalls, by rw [hclause, hred]; rfl⟩

/-- A command among the files of a call takes the place of the command of the call. -/
theorem flattening_overwrites :
    ¬ ∀ c t p, Pipeline.ofNode (.expr c t) = .ok p → (Node.expr c t).HasLineShape := by
  intro h
  let call : Node := .commandExpr (.command "a") [.command "b"]
  have hstage : Stage.IsOf [call] ⟨"b", [], none⟩ :=
    ⟨by simp [call, Node.IsLooseCall], rfl, by decide, rfl, rfl⟩
  have hplan : Pipeline.ofNode (.expr call none) = .ok ⟨[⟨"b", [], none⟩], by simp⟩ :=
    Pipeline.ofNode_eq_ok_iff.2 ⟨_, .last hstage, rfl⟩
  simpa [call, Node.HasLineShape, Node.HasCallShape, Node.IsFile] using h call none _ hplan

end CommandShell
