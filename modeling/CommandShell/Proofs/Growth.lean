import CommandShell.Proofs.Contents

/-!
# Folders that are made on the way

Making the missing folders of a path adds folders in free places and changes nothing else, whether
it succeeds or stops half-way. So a path that led to something leads there still.
-/
namespace CommandShell

namespace FileTree
variable {t u v : FileTree} {place : Place} {names : List String}

/-- Whether one tree is another with new folders in free places. -/
structure Grown (t u : FileTree) : Prop where
  rules : u.rules = t.rules
  entries : ∀ l, u.get? l = t.get? l ∨ t.get? l = none ∧ ∃ mode, u.get? l = some (.folder mode)

lemma Grown.refl (t : FileTree) : t.Grown t := ⟨rfl, fun _ => .inl rfl⟩

lemma Grown.get?_eq (h : t.Grown u) {l : Location} {e : Entry} (he : t.get? l = some e) :
    u.get? l = some e := by
  obtain hsame | ⟨hfree, -⟩ := h.entries l
  · rw [hsame, he]
  · rw [hfree] at he
    cases he

lemma Grown.trans (h : t.Grown u) (hmore : u.Grown v) : t.Grown v where
  rules := hmore.rules.trans h.rules
  entries l := by
    obtain hsame | ⟨hfree, mode, hfolder⟩ := h.entries l
    · rw [← hsame]
      exact hmore.entries l
    · exact .inr ⟨hfree, mode, hmore.get?_eq hfolder⟩

lemma Grown.of_set {l : Location} (hfree : t.get? l = none) (hl : l ≠ []) (mode : Nat) :
    t.Grown (t.set l (.folder mode)) where
  rules := rfl
  entries m := by
    rw [get?_set t l m _ hl]
    split
    next hm => exact .inr ⟨hm ▸ hfree, mode, rfl⟩
    · exact .inl rfl

lemma Grown.keepsWays (h : t.Grown u) : t.KeepsWays u where
  rules := h.rules
  file {_ data} hfile := ⟨data.bytes, h.get?_eq hfile⟩
  other hother _ := h.get?_eq hother

/-- What a path leads to in a tree, it leads to in a grown tree. -/
lemma find_grown (hgrown : t.Grown u) {last : Bool} {links : Nat} {spot : Spot}
    (h : t.find last links place names = .ok spot) (hfree : ∀ l, spot ≠ .free l) :
    u.find last links place names = .ok spot := by
  rw [find_renewed hgrown.keepsWays h fun l hl => absurd hl (hfree l)]
  have hstands := find_stands h
  cases spot with
  | file l data =>
    have hfile : u.get? l = some (.file data) := hgrown.get?_eq hstands
    rw [Spot.renewed, hfile]
  | free l => exact absurd rfl (hfree l)
  | folder | device | link => rfl

end FileTree

namespace World
variable {w w' w'' : World} {p : Path}

/-- Whether one world is another with new folders in free places. -/
def Grown (w w' : World) : Prop := ∃ files, w' = { w with files } ∧ w.files.Grown files

lemma Grown.refl (w : World) : w.Grown w := ⟨w.files, rfl, .refl _⟩

lemma Grown.trans (h : w.Grown w') (hmore : w'.Grown w'') : w.Grown w'' := by
  obtain ⟨files, rfl, hfiles⟩ := h
  obtain ⟨more, rfl, hmore⟩ := hmore
  exact ⟨more, rfl, hfiles.trans hmore⟩

lemma locate_grown (hgrown : w.Grown w') {spot : Spot} (h : w.locate p = .ok spot)
    (hfree : ∀ l, spot ≠ .free l) : w'.locate p = .ok spot := by
  obtain ⟨files, rfl, hfiles⟩ := hgrown
  rw [locate, locateFrom] at h ⊢
  split at h
  · cases h
  next hshort =>
    rw [if_neg hshort]
    exact FileTree.find_grown hfiles h hfree

lemma makeFolder_grown (h : w.makeFolder p = .ok w') : w.Grown w' := by
  unfold makeFolder locateFrom at h
  split at h
  · cases h
  next l hfound =>
    split at h
    · cases h
    cases h
    split at hfound
    · cases hfound
    · obtain ⟨hl, hfree⟩ : l ≠ [] ∧ w.files.get? l = none := FileTree.find_stands hfound
      exact ⟨_, rfl, .of_set hfree hl _⟩
  · cases h

lemma ensureLastFolder_grown (w : World) (p : Path) : w.Grown (w.ensureLastFolder p).2 := by
  unfold ensureLastFolder
  split
  next hmade => exact makeFolder_grown hmade
  · exact .refl w
  · exact .refl w

lemma ensureFolderTo_grown (w : World) (p : Path) (depth : Nat) :
    w.Grown (w.ensureFolderTo p depth).2 := by
  induction depth with
  | zero => exact ensureLastFolder_grown w _
  | succ depth ih =>
    unfold ensureFolderTo
    dsimp only
    split
    next hmade => exact makeFolder_grown hmade
    · split
      next habove =>
        rw [habove] at ih
        exact ih
      next habove =>
        rw [habove] at ih
        exact ih.trans (ensureLastFolder_grown _ _)
    · exact .refl w

lemma ensureFolder_grown (w : World) (p : Path) : w.Grown (w.ensureFolder p).2 := by
  unfold ensureFolder
  split
  · exact .refl w
  · exact ensureFolderTo_grown w p _

end World
end CommandShell
