import CommandShell.Proofs.Sites
import CommandShell.Proofs.Spelling

/-!
# What stands in a folder

The names in a folder are those under which something stands right below it, each of them once and
in increasing order. The path of a folder with one of these names behind it leads to what stands
there, unless it has become too long for the host or names may not be looked up in the folder; where
that is a link, the path goes on.
-/
namespace CommandShell

/-- The names that a host can give to what it stores. -/
structure IsFileName (name : String) : Prop where
  isName : Path.IsName name
  notUp : name ≠ ".."
  short : name.utf8ByteSize ≤ longestName
  noNull : '\x00' ∉ name.toList

lemma isFileName_iff (name : String) : IsFileName name ↔
    (Path.isPart name = true ∧ '/' ∉ name.toList) ∧ name ≠ ".." ∧
      ¬longestName < name.utf8ByteSize ∧ '\x00' ∉ name.toList := by
  have hslash : (∀ c ∈ name.toList, Path.isSlash c = false) ↔ '/' ∉ name.toList := by
    simp only [Path.isSlash, beq_eq_false_iff_ne]
    exact ⟨fun h hmem => h _ hmem rfl, fun h c hc heq => h (heq ▸ hc)⟩
  rw [← hslash, Nat.not_lt]
  constructor
  · intro h
    exact ⟨h.isName, h.notUp, h.short, h.noNull⟩
  · rintro ⟨isName, notUp, short, noNull⟩
    exact ⟨isName, notUp, short, noNull⟩

instance (name : String) : Decidable (IsFileName name) :=
  decidable_of_iff _ (isFileName_iff name).symm

/-- What stands at a location as a path finds it, if it is no link. -/
def Entry.spotAt (l : Location) : Entry → Spot
  | .folder _ => .folder ⟨l, 0⟩
  | .file data => .file l data
  | .link target => .link l target
  | .device d => .device l d

namespace FileTree

/-- A tree as hosts have them: one entry at a location, under names that can be given. -/
structure Proper (t : FileTree) : Prop where
  distinct : (t.entries.map Prod.fst).Nodup
  named : ∀ e ∈ t.entries, ∀ name ∈ e.1, IsFileName name

instance (t : FileTree) : Decidable t.Proper :=
  decidable_of_iff
    ((t.entries.map Prod.fst).Nodup ∧ ∀ e ∈ t.entries, ∀ name ∈ e.1, IsFileName name)
    ⟨fun ⟨distinct, named⟩ => ⟨distinct, named⟩, fun h => ⟨h.distinct, h.named⟩⟩

variable {t : FileTree} {path : Location} {name : String}

lemma isSome_get?_iff {l : Location} (h : l ≠ []) :
    (t.get? l).isSome = true ↔ l ∈ t.entries.map Prod.fst := by
  simp [get?, h, List.find?_isSome]

lemma Proper.isFileName (h : t.Proper) (hstands : (t.get? (path ++ [name])).isSome = true) :
    IsFileName name := by
  rw [isSome_get?_iff (by simp)] at hstands
  obtain ⟨e, he, hl⟩ := List.mem_map.1 hstands
  exact h.named e he name (by simp [hl])

/-- The name that a location adds to the one above it. -/
def nameBelow (path l : Location) : Option String :=
  if l ≠ [] ∧ l.dropLast = path then l.getLast? else none

lemma nameBelow_eq_some_iff {l : Location} : nameBelow path l = some name ↔ l = path ++ [name] := by
  constructor
  · intro h
    unfold nameBelow at h
    split at h
    next hbelow => rw [← List.dropLast_append_getLast? name h, hbelow.2]
    · cases h
  · rintro rfl
    simp [nameBelow]

lemma names_eq (t : FileTree) (path : Location) :
    t.names path =
      ((t.entries.map Prod.fst).filterMap (nameBelow path)).mergeSort (fun a b => a ≤ b) := by
  simp [names, List.filterMap_filter, List.filterMap_map, nameBelow, Function.comp_def]

lemma names_of_sorted {names : List String}
    (h : (t.entries.map Prod.fst).filterMap (nameBelow path) = names)
    (hsorted : names.Pairwise (· ≤ ·)) : t.names path = names := by
  rw [names_eq, h]
  exact List.mergeSort_of_pairwise (hsorted.imp decide_eq_true)

/-- The names in a folder are those under which something stands in it. -/
theorem mem_names : name ∈ t.names path ↔ (t.get? (path ++ [name])).isSome = true := by
  rw [names_eq, List.mem_mergeSort, List.mem_filterMap, isSome_get?_iff (by simp)]
  simp [nameBelow_eq_some_iff]

/-- Each of them is listed once, and they are in increasing order. -/
theorem Proper.names_increasing (h : t.Proper) (path : Location) :
    (t.names path).Pairwise (· < ·) := by
  have hdistinct : (t.names path).Nodup := by
    rw [names_eq, List.nodup_mergeSort]
    refine h.distinct.filterMap fun l m name hl hm => ?_
    rw [nameBelow_eq_some_iff.1 hl, nameBelow_eq_some_iff.1 hm]
  have hsorted : (t.names path).Pairwise (· ≤ ·) := by
    rw [names_eq]
    refine (List.pairwise_mergeSort ?_ ?_ _).imp of_decide_eq_true
    · simpa using fun a b c => String.le_trans
    · simpa using String.le_total
  refine (hsorted.and hdistinct).imp fun {a b} hab => ?_
  rw [← String.not_le]
  exact fun hba => hab.2 (String.le_antisymm hab.1 hba)

/-- Following one more name is following it from the folder that has been found. -/
lemma find_child {links : Nat} {place folder : Place} {names : List String} (name : String)
    (h : t.find true links place names = .ok (.folder folder)) :
    ∃ left, t.find true links place (names ++ [name]) = t.find true (left + 1) folder [name] := by
  induction links generalizing place names with
  | zero => cases h
  | succ links ih =>
    have hwalk := walk_append t place names (List.cons_ne_nil name [])
    rw [find] at h
    cases hfront : t.walk place names with
    | error fault =>
      rw [hfront] at h
      cases h
    | ok walked =>
      rw [hfront] at h hwalk
      cases walked with
      | arrived spot =>
        cases h
        exact ⟨links, by rw [find, find, hwalk]; rfl⟩
      | atLink inner l target rest =>
        simp only [not_true_eq_false, and_false, if_false] at h
        obtain ⟨left, hleft⟩ := ih h
        refine ⟨left, ?_⟩
        rw [find, hwalk, ← hleft]
        simp [Except.bind, Walked.andThen]

end FileTree

namespace World
variable {w : World} {p : Path} {path : Location} {name : String} {e : Entry}

/-- The names of a path and one more lead where that one leads from the folder of the path. -/
lemma find_steps_child {links : Nat} {folder : Place} (name : String)
    (h : w.files.find true (links + 1) (w.origin p.anchor) p.steps = .ok (.folder folder)) :
    ∃ left, w.files.find true (links + 1) (w.origin p.anchor) (p.child name).steps =
      w.files.find true (left + 1) folder [name] := by
  rw [Path.steps_child]
  by_cases hdot : p.anchor = .here ∧ p.parts = []
  · rw [Path.steps, if_pos hdot] at h
    have hsearch := FileTree.admits_of_find h
    rw [FileTree.find_dot hsearch] at h
    cases h
    exact ⟨links, by rw [hdot.2, List.nil_append]⟩
  · rw [Path.steps, if_neg hdot] at h
    exact FileTree.find_child name h

/-- The path of a folder and one of its names lead to what stands there, if the host reads the path
and names may be looked up in the folder. -/
theorem locate_child (hfolder : w.locate p = .ok (.folder ⟨path, 0⟩)) (hname : IsFileName name)
    (hstands : w.files.get? (path ++ [name]) = some e) (hlink : ∀ target, e ≠ .link target) :
    w.locate (p.child name) =
      if longestPath < (p.child name).text.utf8ByteSize then .error .nameTooLong
      else (w.files.admits ⟨path, 0⟩ .search).map fun _ => e.spotAt (path ++ [name]) := by
  rw [locate, locateFrom]
  split
  · rfl
  unfold locate locateFrom at hfolder
  split at hfolder
  · cases hfolder
  obtain ⟨left, hleft⟩ := find_steps_child name hfolder
  have hdot : name ≠ "." := by
    rintro rfl
    exact absurd hname.isName.1 (by decide)
  have hshort : ¬ longestName < name.utf8ByteSize := Nat.not_lt.2 hname.short
  change w.files.find true _ (w.origin p.anchor) (p.child name).steps = _
  rw [hleft, FileTree.find, FileTree.walk]
  cases hsearch : w.files.admits ⟨path, 0⟩ .search with
  | error fault => rfl
  | ok =>
    simp only [if_neg hdot, if_neg hname.notUp, Nat.lt_irrefl, if_false, if_neg hshort, hstands]
    cases e with
    | link target => exact absurd rfl (hlink target)
    | folder | file | device => simp [FileTree.walk, Entry.spotAt, Except.map]

end World
end CommandShell
