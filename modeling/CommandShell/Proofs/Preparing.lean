import CommandShell.Proofs.FolderEntries
import CommandShell.Proofs.Saving

/-!
# The file that is prepared

Preparing a file makes the folders on the way to it that are missing, and the file itself where its
place is free. All that stood there stays, and what is made is where the path or a folder above it
leads. Whether the file can be used is whether something that can be used stands where its path
leads, and then there is nothing left to prepare.
-/
namespace CommandShell

/-! ## Folders that are made -/

namespace FileTree
variable {t : FileTree} {place : Place} {names : List String} {l : Location} {links mode : Nat}

/-- Names that led to a free place lead to the folder that is made there. -/
lemma walk_made (hfree : t.get? l = none) (hl : l ≠ [])
    (h : t.walk place names = .ok (.arrived (.free l))) :
    (t.set l (.folder mode)).walk place names = .ok (.arrived (.folder ⟨l, 0⟩)) := by
  have hways := (Grown.of_set hfree hl mode).keepsWays
  fun_induction t.walk place names with
  | case3 p rest hsearch ih =>
    rw [walk, hways.admits hsearch]
    exact ih h
  | case4 p rest hsearch hdot ih =>
    simp only [walk, hways.admits hsearch, if_neg hdot, if_true]
    exact ih h
  | case7 p name hsearch hdot hdots hlost hlong m hnone =>
    obtain rfl : p.path ++ [name] = l := by simpa [m] using h
    have hmade : (t.set (p.path ++ [name]) (.folder mode)).get? (p.path ++ [name]) =
        some (.folder mode) := by
      rw [get?_set _ _ _ _ hl, if_pos rfl]
    simp [walk, hways.admits hsearch, hdot, hdots, hlost, hlong, hmade]
  | case9 p name rest hsearch hdot hdots hlost hlong m old hfolder ih =>
    have hkept := hways.other hfolder fun data => Entry.noConfusion
    simpa [walk, hways.admits hsearch, hdot, hdots, hlost, hlong, m, hkept] using ih h
  | case1 | case2 | case5 | case6 | case8 | case10 | case11 | case12 | case13 => cases h

lemma find_made (hfree : t.get? l = none) (hl : l ≠ [])
    (h : t.find false links place names = .ok (.free l)) :
    (t.set l (.folder mode)).find true links place names = .ok (.folder ⟨l, 0⟩) := by
  have hways := (Grown.of_set hfree hl mode).keepsWays
  fun_induction t.find false links place names with
  | case1 | case2 | case4 => cases h
  | case3 links place names spot hwalk =>
    cases h
    rw [find, walk_made hfree hl hwalk]
  | case5 links place names folder m target rest hwalk hlast path ih =>
    have hsame := walk_renewed hways hwalk fun _ => Walked.noConfusion
    simp only [find, hsame, Walked.renewed, not_true_eq_false, and_false, if_false]
    exact ih h

/-- Where names lead through a link at their end, something is found without following it. -/
lemma find_unfollowed {spot : Spot} (h : t.find true links place names = .ok spot)
    (htaken : spot.IsTaken) :
    ∃ front, t.find false links place names = .ok front ∧ front.IsTaken := by
  -- Both take the same way until a link is at the end, where one of them stops.
  induction links generalizing place names with
  | zero => cases h
  | succ links ih =>
    rw [find] at h ⊢
    cases hwalk : t.walk place names with
    | error fault =>
      rw [hwalk] at h
      cases h
    | ok walked =>
      rw [hwalk] at h
      cases walked with
      | arrived front =>
        cases h
        exact ⟨_, rfl, htaken⟩
      | atLink folder m target rest =>
        simp only [not_true_eq_false, and_false, if_false] at h
        by_cases hrest : rest = []
        · exact ⟨.link m target, by simp [hrest], fun l => Spot.noConfusion⟩
        · obtain ⟨front, hfront, hthere⟩ := ih h
          exact ⟨front, by simpa [hrest] using hfront, hthere⟩

/-- A name in a folder that leads to a free place stands for that place, or a link has the name. -/
lemma find_name_free {name : String} (h : t.find true (links + 1) place [name] = .ok (.free l)) :
    l = place.path ++ [name] ∨ ∃ target, t.get? (place.path ++ [name]) = some (.link target) := by
  have hsearch := admits_of_find h
  rw [find, walk, hsearch] at h
  by_cases hdot : name = "."
  · simp [hdot, walk] at h
  by_cases hdots : name = ".."
  · simp [hdots, walk] at h
  by_cases hlost : 0 < place.lost
  · simp [hdot, hdots, hlost] at h
  by_cases hlong : longestName < name.utf8ByteSize
  · simp [hdot, hdots, hlost, hlong] at h
  simp only [if_neg hdot, if_neg hdots, if_neg hlost, if_neg hlong] at h
  cases hentry : t.get? (place.path ++ [name]) with
  | none =>
    simp only [hentry] at h
    cases h
    exact .inl rfl
  | some e =>
    cases e with
    | link target => exact .inr ⟨target, rfl⟩
    | folder => simp [hentry, walk] at h
    | file | device => simp [hentry] at h

end FileTree

namespace Path
variable {p : Path} {n : Nat}

/-- The path with its first names alone. -/
def upTo (p : Path) (n : Nat) : Path := { p with parts := p.parts.take n }

/-- The folders above a path, from its anchor down. -/
def ancestors (p : Path) : List Path := (List.range p.parts.length).map p.upTo

lemma hasNull_upTo (h : p.hasNull = false) (n : Nat) : (p.upTo n).hasNull = false := by
  rw [hasNull, List.any_eq_false] at h ⊢
  exact fun part hpart => h part (List.take_subset _ _ hpart)

lemma parent_upTo (h : n + 1 ≤ p.parts.length) : (p.upTo (n + 1)).parent = p.upTo n := by
  have hlast : (p.parts.take (n + 1)).dropLast = p.parts.take n := by
    rw [List.dropLast_eq_take, List.take_take, List.length_take, Nat.min_eq_left h,
      Nat.add_sub_cancel, Nat.min_eq_left (Nat.le_succ n)]
  rw [parent, upTo, hlast, upTo]

lemma upTo_parent (h : n ≤ p.parent.parts.length) : p.parent.upTo n = p.upTo n := by
  rw [parent, List.length_dropLast] at h
  rw [parent, upTo, upTo, List.dropLast_eq_take, List.take_take, Nat.min_eq_left h]

lemma upTo_mem_ancestors (hn : 0 < n) (h : n ≤ p.parent.parts.length) : p.upTo n ∈ p.ancestors := by
  rw [parent, List.length_dropLast] at h
  exact List.mem_map_of_mem (List.mem_range.2 (by omega))

lemma upTo_length (p : Path) : p.upTo p.parts.length = p := by
  simp [upTo]

end Path

namespace World
variable {w w' w'' : World} {p q path : Path} {e : Escape} {depth n : Nat} {folder : Place}

/-- A folder that has been made is where its path leads, and nothing else has changed. -/
lemma makeFolder_leads (h : w.makeFolder q = .ok w') :
    ∃ l, w'.locate q = .ok (.folder ⟨l, 0⟩) ∧
      ∀ m, m ≠ l → w'.files.get? m = w.files.get? m := by
  unfold makeFolder at h
  split at h
  · cases h
  next l hfound =>
    split at h
    · cases h
    cases h
    rw [locateFrom] at hfound
    split at hfound
    · cases hfound
    next hshort =>
      obtain ⟨hl, hfree⟩ : l ≠ [] ∧ w.files.get? l = none := FileTree.find_stands hfound
      refine ⟨l, ?_, fun m hm => ?_⟩
      · rw [locate, locateFrom, if_neg hshort]
        exact FileTree.find_made hfree hl hfound
      · rw [FileTree.get?_set _ _ _ _ hl, if_neg (Ne.symm hm)]
  · cases h

lemma makeFolder_of_folder (h : w.locate q = .ok (.folder folder)) :
    w.makeFolder q = .error .alreadyThere := by
  unfold locate locateFrom at h
  split at h
  · cases h
  next hshort =>
    obtain ⟨front, hfront, hthere⟩ := FileTree.find_unfollowed h fun l => Spot.noConfusion
    rw [makeFolder, locateFrom, if_neg hshort, hfront]
    cases front with
    | free l => exact absurd rfl (hthere l)
    | _ => rfl

lemma find_anchor_taken {t : FileTree} {last : Bool} {links : Nat} {place : Place} {l : Location} :
    t.find last links place (p.upTo 0).steps ≠ .ok (.free l) := by
  intro h
  by_cases hanchor : p.anchor = .here
  · have hsteps : (p.upTo 0).steps = ["."] := by simp [Path.steps, Path.upTo, hanchor]
    rw [hsteps] at h
    cases links with
    | zero => cases h
    | succ links =>
      rw [FileTree.find_dot (FileTree.admits_of_find h)] at h
      cases h
  · have hsteps : (p.upTo 0).steps = [] := by simp [Path.steps, Path.upTo, hanchor]
    rw [hsteps] at h
    cases links <;> cases h

lemma makeFolder_anchor (w : World) (p : Path) :
    ∀ w', w.makeFolder (p.upTo 0) ≠ .ok w' := by
  intro w' h
  unfold makeFolder locateFrom at h
  split at h
  · cases h
  next hfound =>
    split at hfound
    · cases hfound
    · exact find_anchor_taken hfound
  · cases h

/-- All that has been made are folders on the way to a path, behind its anchor. -/
def MadeOnWay (p : Path) (depth : Nat) (w w' : World) : Prop :=
  ∀ l, w.files.get? l = none → w'.files.get? l = none ∨
    ∃ n, 0 < n ∧ n ≤ depth ∧ w'.locate (p.upTo n) = .ok (.folder ⟨l, 0⟩)

lemma MadeOnWay.refl (p : Path) (depth : Nat) (w : World) : MadeOnWay p depth w w :=
  fun _ hfree => .inl hfree

lemma MadeOnWay.of_makeFolder (hn : 0 < n) (hdepth : n ≤ depth)
    (h : w.makeFolder (p.upTo n) = .ok w') : MadeOnWay p depth w w' := by
  intro l hfree
  obtain ⟨made, hmade, hothers⟩ := makeFolder_leads h
  by_cases hl : l = made
  · subst hl
    exact .inr ⟨n, hn, hdepth, hmade⟩
  · exact .inl ((hothers l hl).trans hfree)

lemma MadeOnWay.trans (h : MadeOnWay p depth w w') (hmore : MadeOnWay p depth w' w'')
    (hgrown : w'.Grown w'') : MadeOnWay p depth w w'' := by
  intro l hfree
  obtain hstill | ⟨n, hn, hdepth, hmade⟩ := h l hfree
  · exact hmore l hstill
  · exact .inr ⟨n, hn, hdepth, locate_grown hgrown hmade fun l => Spot.noConfusion⟩

lemma MadeOnWay.deeper (h : MadeOnWay p n w w') (hdepth : n ≤ depth) : MadeOnWay p depth w w' :=
  fun l hfree => (h l hfree).imp_right fun ⟨m, hm, hn, hmade⟩ => ⟨m, hm, hn.trans hdepth, hmade⟩

lemma ensureLastFolder_onWay (w : World) (p : Path) (hn : 0 < n) :
    MadeOnWay p n w (w.ensureLastFolder (p.upTo n)).2 := by
  unfold ensureLastFolder
  split
  next hmade => exact .of_makeFolder hn (Nat.le_refl n) hmade
  · exact .refl p n w
  · exact .refl p n w

lemma ensureFolderTo_onWay (w : World) (p : Path) (depth : Nat) :
    MadeOnWay p depth w (w.ensureFolderTo p depth).2 := by
  induction depth with
  | zero =>
    change MadeOnWay p 0 w (w.ensureLastFolder (p.upTo 0)).2
    unfold ensureLastFolder
    split
    next hmade => exact absurd hmade (makeFolder_anchor w p _)
    · exact .refl p 0 w
    · exact .refl p 0 w
  | succ depth ih =>
    unfold ensureFolderTo
    dsimp only
    split
    next hmade => exact .of_makeFolder (Nat.succ_pos depth) (Nat.le_refl _) hmade
    · split
      next habove =>
        rw [habove] at ih
        exact ih.deeper (Nat.le_succ depth)
      next habove =>
        rw [habove] at ih
        exact (ih.deeper (Nat.le_succ depth)).trans
          (ensureLastFolder_onWay _ p (Nat.succ_pos depth)) (ensureLastFolder_grown _ _)
    · exact .refl p _ w

lemma ensureFolder_onWay (w : World) (p : Path) :
    MadeOnWay p p.parts.length w (w.ensureFolder p).2 := by
  unfold ensureFolder
  split
  · exact .refl p _ w
  · exact ensureFolderTo_onWay w p _

/-! ## Folders that cannot be made -/

/-- A folder that is there is accepted, whatever kept it from being made. -/
lemma acceptFolder_of_folder (hnull : q.hasNull = false) (h : w.locate q = .ok (.folder folder))
    (fault : FileFault) : w.acceptFolder q fault = .ok () := by
  simp [acceptFolder, isFolder, hnull, h]

lemma ensureLastFolder_of_folder (hnull : q.hasNull = false)
    (h : w.locate q = .ok (.folder folder)) : w.ensureLastFolder q = (.ok (), w) := by
  simp only [ensureLastFolder, makeFolder_of_folder h, acceptFolder_of_folder hnull h]

/-- A folder under a parent that is there is refused only where none is in the end. -/
lemma ensureLastFolder_refused (hnull : q.hasNull = false)
    (h : w.ensureLastFolder q = (.error e, w')) : w'.locate q ≠ .ok (.folder folder) := by
  have hsame : w' = w := by
    unfold ensureLastFolder at h
    split at h
    · cases h
    · exact (congrArg Prod.snd h).symm
    · exact (congrArg Prod.snd h).symm
  subst hsame
  intro hfolder
  rw [ensureLastFolder_of_folder hnull hfolder] at h
  cases h

/-- So is a folder with those above it: if one of them is refused, no way leads through it. -/
lemma ensureFolderTo_refused (hnull : p.hasNull = false) (hdepth : depth ≤ p.parts.length)
    (h : w.ensureFolderTo p depth = (.error e, w')) :
    w'.locate (p.upTo depth) ≠ .ok (.folder folder) := by
  induction depth generalizing w' e folder with
  | zero => exact ensureLastFolder_refused (Path.hasNull_upTo hnull 0) h
  | succ depth ih =>
    unfold ensureFolderTo at h
    dsimp only at h
    split at h
    · cases h
    · split at h
      next hdeeper =>
        cases h
        intro hfolder
        obtain ⟨⟨above, habove⟩, -⟩ := locate_parent hfolder
        rw [Path.parent_upTo hdepth] at habove
        exact ih (Nat.le_of_succ_le hdepth) hdeeper habove
      · exact ensureLastFolder_refused (Path.hasNull_upTo hnull _) h
    next fault _ _ =>
      obtain rfl : w = w' := congrArg Prod.snd h
      intro hfolder
      have haccept := acceptFolder_of_folder (Path.hasNull_upTo hnull (depth + 1)) hfolder fault
      cases haccept.symm.trans (congrArg Prod.fst h)

lemma ensureFolder_refused (hnull : p.hasNull = false) (h : w.ensureFolder p = (.error e, w')) :
    w'.locate p ≠ .ok (.folder folder) := by
  rw [ensureFolder, hnull] at h
  have hrefused : w'.locate (p.upTo p.parts.length) ≠ .ok (.folder folder) :=
    ensureFolderTo_refused hnull (Nat.le_refl _) h
  rwa [Path.upTo_length] at hrefused

/-! ## The file -/

/-- A host on which the times of a file can be set by whoever has made it. -/
def RenewsOwn (w : World) : Prop :=
  ∀ l, w.files.get? l = none → w.files.rules.refuse l w.fileMode .renew = none

/-- How preparing a file goes: a folder is refused, the folders are there and the path leads to
nothing that can be used for all that, or the file is made, or it was there. -/
inductive Preparing (w : World) (path : Path) : Except Escape (Bool × List Note) × World → Prop
  | refused {e : Escape} {w' : World} (notes : List Note)
      (hfolder : w.ensureFolder path.parent = (.error e, w')) :
      Preparing w path (.ok (false, notes), w')
  | unusable {w' : World} (notes : List Note)
      (hfolder : w.ensureFolder path.parent = (.ok (), w')) (hpath : ¬ w'.IsUsable path) :
      Preparing w path (.ok (false, notes), w')
  | made {l : Location} {w' : World} (hfolder : w.ensureFolder path.parent = (.ok (), w'))
      (hpath : w'.locate path = .ok (.free l)) :
      Preparing w path
        (.ok (true, []), { w' with files := w'.files.create l .empty w'.fileMode })
  | found {w' : World} (hfolder : w.ensureFolder path.parent = (.ok (), w'))
      (hpath : w'.IsUsable path) : Preparing w path (.ok (true, []), w')

lemma ensureFile_preparing (hnull : path.hasNull = false) (w : World) :
    Preparing w path (w.ensureFile (some path)) := by
  unfold ensureFile
  dsimp only
  split
  next hfolder => exact .refused _ hfolder
  next e w' hother hfolder =>
    obtain ⟨error, rfl⟩ := ensureFolder_error (Path.hasNull_parent hnull) hfolder
    exact absurd rfl (hother error)
  next w' hfolder =>
    obtain ⟨l, hfree, htouch⟩ | ⟨husable, htouch⟩ | ⟨hunusable, fault, htouch⟩ :=
      touch_cases hnull w'
    · rw [htouch]
      exact .made hfolder hfree
    · rw [htouch]
      exact .found hfolder husable
    · rw [htouch]
      exact .unusable _ hfolder hunusable

lemma exists_preparing (hnull : path.hasNull = false) (w : World) :
    ∃ usable notes w', w.ensureFile (some path) = (.ok (usable, notes), w') ∧
      Preparing w path (.ok (usable, notes), w') := by
  have hvalid : ∀ p ∈ some path, p.hasNull = false := by simpa using hnull
  obtain ⟨⟨usable, notes⟩, hok⟩ := ensureFile_ok hvalid w
  have hanswer : w.ensureFile (some path) = (.ok (usable, notes), (w.ensureFile (some path)).2) :=
    Prod.ext hok rfl
  exact ⟨usable, notes, _, hanswer, hanswer ▸ ensureFile_preparing hnull w⟩

/-- Where something that can be used stands already, nothing is left to prepare. -/
lemma ensureFile_of_isUsable (hnull : path.hasNull = false) (h : w.IsUsable path) :
    w.ensureFile (some path) = (.ok (true, []), w) := by
  obtain ⟨spot, hspot, htaken, -⟩ := id h
  obtain ⟨⟨folder, hfolder⟩, front, hfront, hthere⟩ := locate_parent hspot
  have hmade := ensureFolder_of_folder (Path.hasNull_parent hnull) hfront hthere hfolder
  have htouched : w.touch path = (.ok (), w) := by
    obtain ⟨l, hfree, -⟩ | ⟨-, htouch⟩ | ⟨hunusable, -⟩ := touch_cases hnull w
    · cases hfree.symm.trans hspot
      exact absurd rfl (htaken l)
    · exact htouch
    · exact absurd h hunusable
  simp only [ensureFile, hmade, htouched]

/-- A path that leads to a free place leads to the file that is made there. -/
lemma locate_created {l : Location} (h : w.locate path = .ok (.free l)) (mode : Nat) :
    { w with files := w.files.create l .empty mode }.locate path =
      .ok (.file l ⟨.empty, mode, w.files.freshIdentity⟩) := by
  obtain ⟨hl, -⟩ : l ≠ [] ∧ w.files.get? l = none := locate_stands h
  have hmade : (w.files.create l .empty mode).get? l =
      some (.file ⟨.empty, mode, w.files.freshIdentity⟩) := by
    rw [FileTree.create, FileTree.get?_set _ _ _ _ hl, if_pos rfl]
  rw [locate_renewed (holds_create h mode).1.overwritten h, Spot.renewed, hmade]

/-- Where the folders have been made, a free place was free before. -/
lemma get?_of_ensureFolder {made : Except Escape Unit} {l : Location}
    (hfolder : w.ensureFolder q = (made, w')) (hfree : w'.files.get? l = none) :
    w.files.get? l = none := by
  have hgrown := ensureFolder_grown w q
  rw [hfolder] at hgrown
  obtain ⟨files, rfl, hfiles⟩ := hgrown
  obtain hsame | ⟨hnone, -⟩ := hfiles.entries l
  · exact hsame.symm.trans hfree
  · exact hnone

/-- Whether a path leads to something that can be used, or to a file that was not there in the world
before. -/
def HasUsable (w w' : World) (path : Path) : Prop :=
  w'.IsUsable path ∨ ∃ l data, w'.locate path = .ok (.file l data) ∧ w.files.get? l = none

/-- The file can be used exactly if the path leads to something of which the times can be set or
which can be opened for writing, or to the file that has been made. -/
lemma Preparing.usable_iff {usable : Bool} {notes : List Note} (hnull : path.hasNull = false)
    (h : Preparing w path (.ok (usable, notes), w')) : usable = true ↔ w.HasUsable w' path := by
  cases h with
  | refused notes hfolder =>
    have hnowhere (spot : Spot) : w'.locate path ≠ .ok spot := fun hspot => by
      obtain ⟨⟨folder, hparent⟩, -⟩ := locate_parent hspot
      exact ensureFolder_refused (Path.hasNull_parent hnull) hfolder hparent
    refine ⟨Bool.noConfusion, ?_⟩
    rintro (⟨spot, hspot, -⟩ | ⟨l, data, hspot, -⟩)
    · exact absurd hspot (hnowhere spot)
    · exact absurd hspot (hnowhere _)
  | unusable notes hfolder hpath =>
    refine ⟨Bool.noConfusion, ?_⟩
    rintro (husable | ⟨l, data, hspot, hfree⟩)
    · exact absurd husable hpath
    · -- What has been made so far are folders.
      have hgrown := ensureFolder_grown w path.parent
      rw [hfolder] at hgrown
      obtain ⟨files, rfl, hfiles⟩ := hgrown
      have hstands : files.get? l = some (.file data) := locate_stands hspot
      obtain hsame | ⟨-, mode, hmade⟩ := hfiles.entries l
      · cases (hsame.trans hfree).symm.trans hstands
      · cases hmade.symm.trans hstands
  | @made l w' hfolder hpath =>
    obtain ⟨-, hfree⟩ : l ≠ [] ∧ w'.files.get? l = none := locate_stands hpath
    have hnew := get?_of_ensureFolder hfolder hfree
    exact ⟨fun _ => .inr ⟨l, _, locate_created hpath _, hnew⟩, fun _ => rfl⟩
  | found hfolder hpath => exact ⟨fun _ => .inl hpath, fun _ => rfl⟩

/-- Where the times of a file can be set by whoever has made it, the file that has been made can be
used. -/
lemma Preparing.isUsable {notes : List Note} (hown : w.RenewsOwn)
    (h : Preparing w path (.ok (true, notes), w')) : w'.IsUsable path := by
  cases h with
  | found hfolder hpath => exact hpath
  | @made l w' hfolder hpath =>
    refine ⟨_, locate_created hpath _, fun _ => Spot.noConfusion, .inl ?_⟩
    obtain ⟨-, hfree⟩ : l ≠ [] ∧ w'.files.get? l = none := locate_stands hpath
    have howner := hown l (get?_of_ensureFolder hfolder hfree)
    have hgrown := ensureFolder_grown w path.parent
    rw [hfolder] at hgrown
    obtain ⟨files, rfl, hfiles⟩ := hgrown
    rw [← hfiles.rules] at howner
    simp only [renews, Rules.grant, FileTree.rules_create]
    rw [show ({ w with files } : World).fileMode = w.fileMode from rfl, howner]
    rfl

/-- Whether a location is that of the last name of a path in the folder of the path. -/
def IsPlaceOf (w : World) (path : Path) (l : Location) : Prop :=
  ∃ folder name, w.locate path.parent = .ok (.folder folder) ∧ path.parts.getLast? = some name ∧
    l = folder.path ++ [name]

/-- A path that leads to a free place names it, or a link by way of which it leads there. -/
lemma isPlaceOf_of_free {l : Location} (h : w.locate path = .ok (.free l)) :
    w.IsPlaceOf path l ∨
      ∃ m target, w.IsPlaceOf path m ∧ w.files.get? m = some (.link target) := by
  obtain ⟨⟨folder, hparent⟩, -⟩ := locate_parent h
  have hfolder := hparent
  unfold locate locateFrom at h
  split at h
  · cases h
  obtain hnil | ⟨names, name, hparts⟩ := List.eq_nil_or_concat' path.parts
  · have hsame : path.upTo 0 = path := by rw [Path.upTo, List.take_zero, ← hnil]
    rw [← hsame] at h
    exact absurd h find_anchor_taken
  have hlast : path.parts.getLast? = some name := by simp [hparts]
  have hchild : path.parent.child name = path := by
    rw [Path.child, Path.parent, hparts, List.dropLast_concat, ← hparts]
  unfold locate locateFrom at hfolder
  split at hfolder
  · cases hfolder
  obtain ⟨left, hleft⟩ := find_steps_child name hfolder
  rw [hchild] at hleft
  have hname : w.files.find true (left + 1) folder [name] = .ok (.free l) := hleft.symm.trans h
  have hplace : w.IsPlaceOf path (folder.path ++ [name]) := ⟨folder, name, hparent, hlast, rfl⟩
  obtain rfl | ⟨target, hlink⟩ := FileTree.find_name_free hname
  · exact .inl hplace
  · exact .inr ⟨_, target, hplace, hlink⟩

/-- A world after a file has been prepared in it: nothing but the files may differ, all that stood
there stays, and what is new is a folder to which a path above leads, or an empty file to which the
path itself leads, in its own place or by way of a link that stands there. -/
structure Prepared (w : World) (path : Path) (w' : World) : Prop where
  rest : ∃ files, w' = { w with files } ∧ files.rules = w.files.rules
  kept {l : Location} {e : Entry} (h : w.files.get? l = some e) : w'.files.get? l = some e
  added {l : Location} {e : Entry} (hfree : w.files.get? l = none)
    (h : w'.files.get? l = some e) :
    (∃ mode, e = .folder mode ∧
      ∃ above ∈ path.ancestors, w'.locate above = .ok (.folder ⟨l, 0⟩)) ∨
    ∃ data, e = .file data ∧ data.bytes = .empty ∧ w'.locate path = .ok (.file l data) ∧
      (w'.IsPlaceOf path l ∨
        ∃ m target, w'.IsPlaceOf path m ∧ w.files.get? m = some (.link target))

/-- What is new after the folders have been made is a folder above the path. -/
lemma ensureFolder_added {made : Except Escape Unit} {l : Location} {entry : Entry}
    (hfolder : w.ensureFolder path.parent = (made, w')) (hfree : w.files.get? l = none)
    (hentry : w'.files.get? l = some entry) :
    ∃ mode, entry = .folder mode ∧
      ∃ above ∈ path.ancestors, w'.locate above = .ok (.folder ⟨l, 0⟩) := by
  have hgrown := ensureFolder_grown w path.parent
  have hway := ensureFolder_onWay w path.parent l hfree
  rw [hfolder] at hgrown hway
  obtain hnone | ⟨n, hn, hle, hmade⟩ := hway
  · cases hnone.symm.trans hentry
  · rw [Path.upTo_parent hle] at hmade
    obtain ⟨files, rfl, hfiles⟩ := hgrown
    obtain hsame | ⟨-, mode, hmode⟩ := hfiles.entries l
    · cases (hsame.trans hfree).symm.trans hentry
    · exact ⟨mode, Option.some.inj (hentry.symm.trans hmode), path.upTo n,
        Path.upTo_mem_ancestors hn hle, hmade⟩

lemma prepared_of_ensureFolder {made : Except Escape Unit}
    (hfolder : w.ensureFolder path.parent = (made, w')) : w.Prepared path w' := by
  have hgrown := ensureFolder_grown w path.parent
  rw [hfolder] at hgrown
  refine ⟨?_, fun {l e} he => ?_, fun hfree hentry =>
    .inl (ensureFolder_added hfolder hfree hentry)⟩
  · obtain ⟨files, hrest, hfiles⟩ := hgrown
    exact ⟨files, hrest, hfiles.rules⟩
  · obtain ⟨files, rfl, hfiles⟩ := hgrown
    exact hfiles.get?_eq he

/-- A link that stands there once the folders have been made stood there before. -/
lemma link_of_ensureFolder {made : Except Escape Unit} {l : Location} {target : String}
    (hfolder : w.ensureFolder q = (made, w')) (hlink : w'.files.get? l = some (.link target)) :
    w.files.get? l = some (.link target) := by
  have hgrown := ensureFolder_grown w q
  rw [hfolder] at hgrown
  obtain ⟨files, rfl, hfiles⟩ := hgrown
  obtain hsame | ⟨-, mode, hmade⟩ := hfiles.entries l
  · exact hsame.symm.trans hlink
  · cases hmade.symm.trans hlink

lemma Preparing.prepared {answer : Except Escape (Bool × List Note)}
    (h : Preparing w path (answer, w')) : w.Prepared path w' := by
  cases h with
  | refused notes hfolder => exact prepared_of_ensureFolder hfolder
  | unusable notes hfolder hpath => exact prepared_of_ensureFolder hfolder
  | found hfolder hpath => exact prepared_of_ensureFolder hfolder
  | @made m w' hfolder hpath =>
    obtain ⟨⟨files, hrest, hrules⟩, hkept, -⟩ := prepared_of_ensureFolder hfolder
    obtain ⟨hm, hfree⟩ : m ≠ [] ∧ w'.files.get? m = none := locate_stands hpath
    have hget (l : Location) := FileTree.get?_set w'.files m l
      (.file ⟨.empty, w'.fileMode, w'.files.freshIdentity⟩) hm
    have hways : w'.files.Overwritten (w'.files.create m .empty w'.fileMode) :=
      (holds_create hpath w'.fileMode).1.overwritten
    have hplace {l : Location} (hl : w'.IsPlaceOf path l) :
        { w' with files := w'.files.create m .empty w'.fileMode }.IsPlaceOf path l := by
      obtain ⟨folder, name, hparent, hname, rfl⟩ := hl
      exact ⟨folder, name, locate_renewed hways hparent, hname, rfl⟩
    refine ⟨⟨_, by rw [hrest], ?_⟩, fun {l e} he => ?_, fun {l e} hnone hentry => ?_⟩
    · exact hrules
    · have hl : m ≠ l := by
        rintro rfl
        cases hfree.symm.trans (hkept he)
      rw [FileTree.create, hget, if_neg hl, hkept he]
    · rw [FileTree.create, hget] at hentry
      split at hentry
      next hl =>
        subst hl
        cases hentry
        refine .inr ⟨_, rfl, rfl, locate_created hpath _, ?_⟩
        obtain hown | ⟨l, target, hown, hlink⟩ := isPlaceOf_of_free hpath
        · exact .inl (hplace hown)
        · exact .inr ⟨l, target, hplace hown, link_of_ensureFolder hfolder hlink⟩
      · obtain ⟨mode, rfl, above, habove, hmade⟩ := ensureFolder_added hfolder hnone hentry
        exact .inl ⟨mode, rfl, above, habove, locate_renewed hways hmade⟩

end World

/-- Preparing a file comes back whatever its path and the files are, and costs nothing: all that
stood somewhere stays, and what is new are folders to which the paths above lead and an empty file
to which the path leads, in its own place or by way of a link that stands there. It says that the
file can be used exactly if the path leads to something of which the times can be set or which can
be opened for writing, or to the new file. Once it has said so it says so again and changes nothing
more, if whoever has made a file can set its times. -/
theorem preparing_keeps_files (w : World) (path : Path) (hnull : path.hasNull = false) :
    ∃ usable notes w', w.ensureFile (some path) = (.ok (usable, notes), w') ∧
      w.Prepared path w' ∧ (usable = true ↔ w.HasUsable w' path) ∧
      (w.RenewsOwn → usable = true → w'.ensureFile (some path) = (.ok (true, []), w')) := by
  obtain ⟨usable, notes, w', hanswer, hpreparing⟩ := World.exists_preparing hnull w
  refine ⟨usable, notes, w', hanswer, hpreparing.prepared, hpreparing.usable_iff hnull, ?_⟩
  rintro hown rfl
  exact World.ensureFile_of_isUsable hnull (hpreparing.isUsable hown)

/-- A folder that leads back out of another, on the way to a file. -/
theorem preparing_keeps_files_over_way_back :
    let path : Path := ⟨.here, ["d", "..", "e", "h"]⟩
    path.hasNull = false ∧ World.bare.RenewsOwn ∧
      ∃ w', World.bare.ensureFile (some path) = (.ok (true, []), w') ∧
        World.bare.Prepared path w' ∧ World.bare.HasUsable w' path ∧
        w'.ensureFile (some path) = (.ok (true, []), w') ∧
        w'.files.get? ["d"] = some (.folder 0o777) ∧
        w'.files.get? ["e"] = some (.folder 0o777) := by
  intro path
  have hnull : path.hasNull = false := by simp [path, Path.hasNull]
  have hown : World.bare.RenewsOwn := fun _ _ => rfl
  have hok : (World.bare.ensureFile (some path)).1 = .ok (true, []) := by cbv
  have hfolders : (World.bare.ensureFile (some path)).2.files.get? ["d"] = some (.folder 0o777) ∧
    (World.bare.ensureFile (some path)).2.files.get? ["e"] = some (.folder 0o777) := by cbv
  obtain ⟨usable, notes, w', hanswer, hprepared, husable, hagain⟩ :=
    preparing_keeps_files World.bare path hnull
  rw [hanswer] at hok hfolders
  obtain ⟨rfl, rfl⟩ : usable = true ∧ notes = [] := by simpa using hok
  exact ⟨hnull, hown, w', hanswer, hprepared, husable.1 rfl, hagain hown rfl, hfolders⟩

/-- Somebody else's file that may not be written is there and cannot be used. Over a link that leads
to a free place, the file is made in that place and not in the one that is named. -/
theorem preparing_refuses_closed_file_and_follows_link :
    let path : Path := ⟨.here, ["h"]⟩
    let closed : World := { World.ofEntries [] with
      files := ⟨[(["h"], .file ⟨.empty, 0o444, 0⟩)], .byMode fun _ => false⟩ }
    let linked := World.ofEntries [(["h"], .link "g")]
    path.hasNull = false ∧
      (∃ notes, closed.ensureFile (some path) = (.ok (false, notes), closed)) ∧
      closed.locate path = .ok (.file ["h"] ⟨.empty, 0o444, 0⟩) ∧
      (linked.ensureFile (some path)).1 = .ok (true, []) ∧
      linked.files.get? ["g"] = none ∧
      (linked.ensureFile (some path)).2.files.get? ["h"] = some (.link "g") ∧
      (linked.ensureFile (some path)).2.files.get? ["g"] =
        some (.file ⟨.empty, 0o666, 0⟩) := by
  intro path closed linked
  exact ⟨by simp [path, Path.hasNull], ⟨_, by cbv⟩, by cbv, by cbv, by cbv, by cbv, by cbv⟩

end CommandShell
