import CommandShell.Proofs.Quoting
import CommandShell.Proofs.Spelling
import CommandShell.Syntax.Format
import Mathlib.Algebra.Ring.Nat

/-!
# Trees read off their lines

The lines of a tree are those of its nodes, one for each, with two spaces for each level. A line
shows the level and the kind of its node and what a leaf says, and the nodes below a node are those
up to the next one that does not stand deeper. So the lines show the whole tree, whichever nodes
stand in which slots.
-/
namespace CommandShell

namespace Node
open Text

/-- What holds of a tree if it holds of the trees in its slots holds of every tree. -/
@[elab_as_elim]
theorem inductionChildren {motive : Node → Prop}
    (h : ∀ node, (∀ child ∈ node.children, motive child) → motive node) (node : Node) :
    motive node :=
  h node fun child _ => inductionChildren h child
termination_by node
decreasing_by exact sizeOf_lt_of_mem_children ‹_›

/-- How many nodes a tree has, what stands in the pipe slots included. -/
def count : Node → Nat
  | commandExpr c files => 1 + c.count + (files.map count).sum
  | redirectExpr op first rest => 1 + op.count + first.count + (rest.map count).sum
  | pipeExpr p c none => 1 + p.count + c.count
  | pipeExpr p c (some t) => 1 + p.count + c.count + t.count
  | expr c none => 1 + c.count
  | expr c (some t) => 1 + c.count + t.count
  | _ => 1

lemma count_eq (node : Node) : node.count = 1 + (node.children.map count).sum := by
  cases node with
  | pipeExpr p c t | expr c t => cases t <;> simp [count, children, Nat.add_assoc]
  | commandExpr | redirectExpr => simp [count, children, Nat.add_assoc]
  | _ => simp [count, children]

/-! ## Nodes and their levels -/

/-- The nodes of a tree from above to below, each with its level. -/
def outline (level : Nat) (node : Node) : List (Nat × Node) :=
  (level, node) :: node.children.attach.flatMap fun child => outline (level + 1) child.1
termination_by node
decreasing_by exact sizeOf_lt_of_mem_children child.2

lemma outline_eq (level : Nat) (node : Node) :
    outline level node = (level, node) :: node.children.flatMap (outline (level + 1)) := by
  rw [outline]
  simp [List.flatMap_subtype]

lemma length_outline (level : Nat) (node : Node) : (outline level node).length = node.count := by
  induction node using inductionChildren generalizing level with
  | h node ih =>
    rw [outline_eq, List.length_cons, List.length_flatMap, count_eq, Nat.add_comm]
    congr 2
    exact List.map_congr_left fun child hchild => ih child hchild (level + 1)

lemma le_of_mem_outline {level : Nat} {node : Node} {e : Nat × Node} (h : e ∈ outline level node) :
    level ≤ e.1 := by
  induction node using inductionChildren generalizing level with
  | h node ih =>
    rw [outline_eq, List.mem_cons, List.mem_flatMap] at h
    obtain rfl | ⟨child, hchild, hmem⟩ := h
    · exact Nat.le_refl _
    · exact Nat.le_of_succ_le (ih child hchild hmem)

/-- The line of a node at a level. -/
def line (e : Nat × Node) : String := padding e.1 ++ e.2.heading

lemma formatLines_eq_outline (level : Nat) (node : Node) :
    formatLines level node = (outline level node).map line := by
  induction node using inductionChildren generalizing level with
  | h node ih =>
    rw [formatLines_eq, outline_eq, List.map_cons, List.map_flatMap]
    congr 1
    exact List.flatMap_congr fun child hchild => ih child hchild (level + 1)

/-! ## What a line shows -/

/-- What a leaf says behind its kind. -/
def detail : Node → List Char
  | command name => '(' :: quotedList name.toList ++ [')']
  | file name => '(' :: quotedList name.toList ++ [')']
  | redirect op => '(' :: quotedList op.symbol.toList ++ [')']
  | _ => []

lemma toList_heading (node : Node) : node.heading.toList = node.kind.toList ++ node.detail := by
  unfold heading
  cases node <;> simp [kind, detail, quoted]

lemma isAlpha_of_mem_kind {node : Node} {c : Char} (h : c ∈ node.kind.toList) :
    c.isAlpha = true := by
  have hall : node.kind.toList.all Char.isAlpha = true := by
    cases node <;> simp [kind]
  exact List.all_eq_true.1 hall c h

lemma takeWhile_heading (node : Node) :
    node.heading.toList.takeWhile Char.isAlpha = node.kind.toList := by
  rw [toList_heading, List.takeWhile_append_of_pos fun c hc => isAlpha_of_mem_kind hc]
  cases node <;> simp [detail]

lemma heading_inj {a b : Node} (h : a.heading = b.heading) :
    a.kind = b.kind ∧ a.detail = b.detail := by
  have hkind : a.kind = b.kind := by
    rw [← String.toList_inj, ← takeWhile_heading, h, takeWhile_heading]
  have hlists := congrArg String.toList h
  rw [toList_heading, toList_heading, hkind] at hlists
  exact ⟨hkind, List.append_cancel_left hlists⟩

/-- A node is known by its line and by what stands in its slots. -/
lemma eq_of_heading {a b : Node} (h : a.heading = b.heading) (hchildren : a.children = b.children) :
    a = b := by
  obtain ⟨hkind, hdetail⟩ := heading_inj h
  cases a <;> cases b <;> simp [kind] at hkind
  case command.command | file.file =>
    simp only [detail, List.cons_append, List.cons.injEq, true_and] at hdetail
    rw [String.toList_inj.1 (quotedList_inj (List.append_cancel_right hdetail))]
  case redirect.redirect op other =>
    simp only [detail, List.cons_append, List.cons.injEq, true_and] at hdetail
    have hsymbol := String.toList_inj.1 (quotedList_inj (List.append_cancel_right hdetail))
    have hop := congrArg Redirect.ofToken? hsymbol
    simp only [Redirect.ofToken?_symbol, Option.some.injEq] at hop
    rw [hop]
  case pipe.pipe => rfl
  case pipeExpr.pipeExpr p c t q d u => cases t <;> cases u <;> simp_all [children]
  case expr.expr c t d u => cases t <;> cases u <;> simp_all [children]
  all_goals simpa [children] using hchildren

/-- The level that a line shows: half as many spaces stand in front. -/
def indentation (text : String) : Nat := (text.toList.takeWhile (· == ' ')).length / 2

lemma takeWhile_line (e : Nat × Node) :
    (line e).toList.takeWhile (· == ' ') = List.replicate (2 * e.1) ' ' := by
  have hstop : e.2.heading.toList.takeWhile (· == ' ') = [] := by
    rw [toList_heading]
    cases e.2 <;> simp [kind]
  simp [line, padding, List.takeWhile_append_of_pos, hstop]

@[simp] lemma indentation_line (e : Nat × Node) : indentation (line e) = e.1 := by
  rw [indentation, takeWhile_line, List.length_replicate, Nat.mul_div_cancel_left _ (by decide)]

lemma heading_of_line {e f : Nat × Node} (h : line e = line f) : e.2.heading = f.2.heading := by
  have hlevel : e.1 = f.1 := by rw [← indentation_line, h, indentation_line]
  rw [line, line, hlevel] at h
  exact (String.append_right_inj _).1 h

/-! ## What the lines show -/

/-- The lines below a node are those up to the next one that does not stand deeper. -/
lemma takeWhile_lines (level : Nat) (inside behind : List Node) :
    ((inside.flatMap (outline (level + 1))).map line ++
        (behind.flatMap (outline level)).map line).takeWhile (level < indentation ·) =
      (inside.flatMap (outline (level + 1))).map line := by
  have hdeeper : ∀ text ∈ (inside.flatMap (outline (level + 1))).map line,
      decide (level < indentation text) = true := by
    intro text htext
    obtain ⟨e, he, rfl⟩ := List.mem_map.1 htext
    obtain ⟨node, -, hmem⟩ := List.mem_flatMap.1 he
    rw [indentation_line]
    exact decide_eq_true (le_of_mem_outline hmem)
  rw [List.takeWhile_append_of_pos hdeeper]
  cases behind with
  | nil => simp
  | cons node behind => simp [outline_eq level]

/-- Nodes of one level that have the same lines, one after the other, are the same nodes. -/
theorem eq_of_lines {level : Nat} {xs ys : List Node}
    (h : (xs.flatMap (outline level)).map line = (ys.flatMap (outline level)).map line) :
    xs = ys := by
  -- Both the slots of the first node and the nodes behind it have fewer lines.
  induction hsize : (xs.flatMap (outline level)).length using Nat.strongRecOn
    generalizing level xs ys with
  | ind size ih =>
    cases xs with
    | nil =>
      cases ys with
      | nil => rfl
      | cons y ys => simp [outline_eq] at h
    | cons x xs =>
      cases ys with
      | nil => simp [outline_eq] at h
      | cons y ys =>
        simp only [List.flatMap_cons, outline_eq level, List.cons_append, List.map_cons,
          List.map_append, List.cons.injEq, List.length_cons, List.length_append] at h hsize
        obtain ⟨hfirst, hrest⟩ := h
        have hinside := congrArg (List.takeWhile (level < indentation ·)) hrest
        rw [takeWhile_lines, takeWhile_lines] at hinside
        rw [hinside] at hrest
        have hslots : x.children = y.children := ih _ (by omega) hinside rfl
        have hbehind : xs = ys := ih _ (by omega) (List.append_cancel_left hrest) rfl
        obtain rfl : x = y := eq_of_heading (heading_of_line hfirst) hslots
        rw [hbehind]

/-! ## Trees as texts -/

lemma ne_feed_of_mem_detail {node : Node} {c : Char} (h : c ∈ node.detail) : c ≠ '\n' := by
  have hquoted {cs : List Char} (hmem : c ∈ '(' :: quotedList cs ++ [')']) : c ≠ '\n' := by
    simp only [List.cons_append, List.mem_cons, List.mem_append, List.not_mem_nil, or_false] at hmem
    obtain rfl | hmem | rfl := hmem
    · decide
    · exact ne_feed_of_mem_quotedList hmem
    · decide
  cases node with
  | command | file | redirect => exact hquoted h
  | _ => cases h

lemma ne_feed_of_mem_line {e : Nat × Node} {c : Char} (h : c ∈ (line e).toList) : c ≠ '\n' := by
  simp only [line, padding, String.toList_append, String.toList_ofList, toList_heading,
    List.mem_append, List.mem_replicate] at h
  obtain ⟨-, rfl⟩ | hkind | hdetail := h
  · decide
  · rintro rfl
    exact Bool.noConfusion (isAlpha_of_mem_kind hkind)
  · exact ne_feed_of_mem_detail hdetail

/-- A tree is shown as its lines with line feeds between them. -/
lemma cut_format (level : Nat) (node : Node) :
    cut (· == '\n') (format level node).toList =
      (outline level node).map (fun e => (line e).toList) := by
  have hlines : (format level node).toList =
      ['\n'].intercalate ((outline level node).map (fun e => (line e).toList)) := by
    simp [format, formatLines_eq_outline, Function.comp_def]
  rw [hlines]
  refine cut_intercalate rfl (by simp [outline_eq]) fun text htext c hc => ?_
  obtain ⟨e, -, rfl⟩ := List.mem_map.1 htext
  exact beq_eq_false_iff_ne.2 (ne_feed_of_mem_line hc)

/-- A tree can be told from how it is shown: two trees that are shown alike at a level are one,
whichever nodes stand in their slots and whatever characters their names hold. There is one line for
each node, the pipe of a pipe expression included, with exactly two spaces for each level in front
of what the node is. -/
theorem format_shows_tree (level : Nat) (a b : Node) :
    (format level a = format level b ↔ a = b) ∧
    cut (· == '\n') (format level a).toList = (outline level a).map (fun e => (line e).toList) ∧
    (outline level a).length = a.count ∧
    ∀ e, (line e).toList = List.replicate (2 * e.1) ' ' ++ e.2.heading.toList ∧
      (line e).toList.takeWhile (· == ' ') = List.replicate (2 * e.1) ' ' := by
  refine ⟨⟨fun h => ?_, fun h => h ▸ rfl⟩, cut_format level a, length_outline level a,
    fun e => ⟨by simp [line, padding], takeWhile_line e⟩⟩
  have hlines := congrArg (cut (· == '\n') ·.toList) h
  have hback (node : Node) :
      ((outline level node).map (fun e => (line e).toList)).map String.ofList =
        ([node].flatMap (outline level)).map line := by
    simp [Function.comp_def]
  rw [cut_format, cut_format] at hlines
  have htexts := congrArg (List.map String.ofList) hlines
  rw [hback, hback] at htexts
  exact (List.cons.inj (eq_of_lines htexts)).1

end Node
end CommandShell
