import CommandShell.Proofs.Prompting

/-!
# The sites of files

Where a path leads, apart from what is stored there, stays the same when contents change and when
files and folders are made in free places. A path that leads to something has all its folders, so
storing lines under it makes none, and changes nothing but the contents of the file to which it
leads.
-/
namespace CommandShell
open Text

/-! ## What stays when contents change -/

def Entry.blank : Entry → Entry
  | .file f => .file { f with bytes := .empty }
  | e => e

def Spot.blank : Spot → Spot
  | .file l f => .file l { f with bytes := .empty }
  | spot => spot

lemma Spot.IsTaken.of_blank {spot : Spot} (h : spot.blank.IsTaken) : spot.IsTaken := by
  rintro l rfl
  exact h l rfl

lemma Spot.IsTaken.blank {spot : Spot} (h : spot.IsTaken) : spot.blank.IsTaken := by
  intro l
  cases spot with
  | free m => exact absurd rfl (h m)
  | _ => exact Spot.noConfusion

namespace FileTree
variable {t u v : FileTree}

/-- Whether all that stands in one tree stands in another, apart from contents. -/
structure Spares (t u : FileTree) : Prop where
  rules : u.rules = t.rules
  entries : ∀ l e, t.get? l = some e → (u.get? l).map Entry.blank = some e.blank

lemma Spares.refl (t : FileTree) : t.Spares t where
  rules := rfl
  entries l e he := by rw [he, Option.map_some]

lemma Spares.trans (h : t.Spares u) (hmore : u.Spares v) : t.Spares v where
  rules := hmore.rules.trans h.rules
  entries l e he := by
    obtain ⟨e', he', hblank⟩ := Option.map_eq_some_iff.1 (h.entries l e he)
    rw [hmore.entries l e' he', hblank]

lemma Grown.spares (h : t.Grown u) : t.Spares u where
  rules := h.rules
  entries l e he := by rw [h.get?_eq he, Option.map_some]

lemma Overwritten.spares (h : t.Overwritten u) : t.Spares u where
  rules := h.rules
  entries l e he := by
    have hl := h.entries l
    rw [he] at hl
    generalize u.get? l = entry at hl
    cases hl with
    | kept => rfl
    | changed old bytes => rfl

lemma Spares.keepsWays (h : t.Spares u) : t.KeepsWays u where
  rules := h.rules
  file {l data} hfile := by
    obtain ⟨e, he, hblank⟩ := Option.map_eq_some_iff.1 (h.entries l _ hfile)
    cases e with
    | file data' =>
      refine ⟨data'.bytes, he.trans ?_⟩
      obtain ⟨-, hmode, hidentity⟩ := FileData.mk.inj (Entry.file.inj hblank)
      rw [← hmode, ← hidentity]
    | _ => cases hblank
  other {l e} he hfile := by
    obtain ⟨e', he', hblank⟩ := Option.map_eq_some_iff.1 (h.entries l e he)
    rw [he']
    cases e with
    | file data => exact absurd rfl (hfile data)
    | _ =>
      cases e' <;> cases hblank
      rfl

lemma find_spared (h : t.Spares u) {last : Bool} {links : Nat} {place : Place}
    {names : List String} {spot : Spot} (hfound : t.find last links place names = .ok spot)
    (htaken : spot.IsTaken) :
    ∃ spot', u.find last links place names = .ok spot' ∧ spot'.blank = spot.blank := by
  refine ⟨_, find_renewed h.keepsWays hfound fun l hl => absurd hl (htaken l), ?_⟩
  have hstands := find_stands hfound
  cases spot with
  | file l data =>
    obtain ⟨e, he, hblank⟩ := Option.map_eq_some_iff.1 (h.entries l _ hstands)
    cases e with
    | file data' =>
      rw [Spot.renewed, he]
      exact congrArg (Spot.file l) (Entry.file.inj hblank)
    | _ => cases hblank
  | free l => exact absurd rfl (htaken l)
  | _ => rfl

end FileTree

namespace World
variable {w w' : World} {place : Place} {path : Path} {site : Spot} {lines : List String}

/-- Where a path leads from a folder, apart from what is stored there. -/
def seen (w : World) (place : Place) (path : Path) : Except FileFault Spot :=
  ({ w with place }.locate path).map Spot.blank

lemma seen_congr (h : w'.files = w.files) (place : Place) (path : Path) :
    w'.seen place path = w.seen place path := by
  simp only [seen, locate, locateFrom, origin, h]

lemma seen_of_rooted (hrooted : path.anchor ≠ .here) (place place' : Place) :
    w.seen place path = w.seen place' path := by
  rw [seen, seen, locate_of_rooted hrooted place, locate_of_rooted hrooted place']

/-- What is seen from the working folder is what the path leads to. -/
lemma exists_of_seen (h : w.seen w.place path = .ok site) :
    ∃ spot, w.locate path = .ok spot ∧ spot.blank = site := by
  change (w.locate path).map Spot.blank = .ok site at h
  cases hlocate : w.locate path with
  | error fault =>
    rw [hlocate] at h
    cases h
  | ok spot =>
    rw [hlocate] at h
    exact ⟨spot, rfl, Except.ok.inj h⟩

lemma seen_of_spares (h : w.files.Spares w'.files) (hseen : w.seen place path = .ok site)
    (htaken : site.IsTaken) : w'.seen place path = .ok site := by
  unfold seen locate locateFrom at hseen ⊢
  split at hseen
  · cases hseen
  next hshort =>
    rw [if_neg hshort]
    cases hfound : w.files.find true (mostLinks + 1) ({ w with place }.origin path.anchor)
        path.steps with
    | error fault =>
      rw [hfound] at hseen
      cases hseen
    | ok spot =>
      rw [hfound] at hseen
      cases hseen
      obtain ⟨spot', hfound', hblank⟩ := FileTree.find_spared h hfound htaken.of_blank
      exact (congrArg (Except.map Spot.blank) hfound').trans (congrArg Except.ok hblank)

lemma Grown.spares (h : w.Grown w') : w.files.Spares w'.files := by
  obtain ⟨files, rfl, hfiles⟩ := h
  exact hfiles.spares

/-- Writing to files spares all that stands, whether it succeeds or not. -/
lemma write_spares (w : World) (mode : WriteMode) (path : Path) (bytes : ByteArray) :
    w.files.Spares (w.write mode path bytes).2.files := by
  obtain ⟨files, hwrite, hover⟩ := w.write_overwritten mode path bytes
  rw [hwrite]
  exact hover.spares

lemma saveLines_spares (w : World) (path : Path) (lines : List String) :
    w.files.Spares (w.saveLines path lines).2.files := by
  have hgrown := ensureFolder_grown w path.parent
  unfold saveLines
  split
  next hfolder =>
    rw [hfolder] at hgrown
    exact hgrown.spares
  next hfolder =>
    rw [hfolder] at hgrown
    exact hgrown.spares.trans (write_spares _ _ _ _)

end World

/-! ## The folders of a path -/

/-- How a walk goes on with more names. -/
def Walked.andThen (t : FileTree) (more : List String) : Walked → Except FileFault Walked
  | .arrived (.folder place) => t.walk place more
  | .arrived (.free _) => .error .notFound
  | .arrived _ => .error .notFolder
  | .atLink folder l target rest => .ok (.atLink folder l target (rest ++ more))

namespace FileTree
variable {t : FileTree} {place : Place} {names more : List String}

lemma walk_onwards {name next : String} {later : List String}
    (hsearch : t.admits place .search = .ok ()) (hdot : name ≠ ".") (hdots : name ≠ "..")
    (hlost : ¬0 < place.lost) (hlong : ¬longestName < name.utf8ByteSize) :
    t.walk place (name :: next :: later) =
      match t.get? (place.path ++ [name]) with
      | none => .error .notFound
      | some (.folder _) => t.walk ⟨place.path ++ [name], 0⟩ (next :: later)
      | some (.link target) => .ok (.atLink place (place.path ++ [name]) target (next :: later))
      | some _ => .error .notFolder := by
  rw [walk, hsearch]
  simp only [if_neg hdot, if_neg hdots, if_neg hlost, if_neg hlong]
  rcases t.get? (place.path ++ [name]) with _ | (_ | _ | _ | _) <;> rfl

/-- A walk over more names is a walk to a folder, from which it goes on, or up to a link. -/
lemma walk_append (t : FileTree) (place : Place) (names : List String) (hmore : more ≠ []) :
    t.walk place (names ++ more) = (t.walk place names).bind (Walked.andThen t more) := by
  have hlonger (rest : List String) : ∃ next later, rest ++ more = next :: later :=
    List.exists_cons_of_ne_nil fun hnil => hmore (List.append_eq_nil_iff.1 hnil).2
  fun_induction t.walk place names with
  | case1 => rfl
  | case2 p name rest fault hsearch =>
    rw [List.cons_append, walk, hsearch]
    rfl
  | case3 p rest hsearch ih =>
    rw [List.cons_append, walk, hsearch]
    exact ih
  | case4 p rest hsearch hdot ih =>
    rw [List.cons_append, walk, hsearch]
    simp only [if_neg hdot, if_true]
    exact ih
  | case5 p name rest hsearch hdot hdots hlost =>
    rw [List.cons_append, walk, hsearch]
    simp only [if_neg hdot, if_neg hdots, if_pos hlost]
    rfl
  | case6 p name rest hsearch hdot hdots hlost hlong =>
    rw [List.cons_append, walk, hsearch]
    simp only [if_neg hdot, if_neg hdots, if_neg hlost, if_pos hlong]
    rfl
  | case7 p name hsearch hdot hdots hlost hlong l hfree =>
    obtain ⟨next, later, hnext⟩ := hlonger []
    rw [List.cons_append, hnext, walk_onwards hsearch hdot hdots hlost hlong, hfree]
    rfl
  | case8 p name rest hsearch hdot hdots hlost hlong l hfree =>
    obtain ⟨next, later, hnext⟩ := hlonger rest
    rw [List.cons_append, hnext, walk_onwards hsearch hdot hdots hlost hlong, hfree]
    rfl
  | case9 p name rest hsearch hdot hdots hlost hlong l mode hfolder ih =>
    obtain ⟨next, later, hnext⟩ := hlonger rest
    rw [List.cons_append, hnext, walk_onwards hsearch hdot hdots hlost hlong, hfolder, ← ih, hnext]
  | case10 p name rest hsearch hdot hdots hlost hlong l target hlink =>
    obtain ⟨next, later, hnext⟩ := hlonger rest
    rw [List.cons_append, hnext, walk_onwards hsearch hdot hdots hlost hlong, hlink, ← hnext]
    rfl
  | case11 p name hsearch hdot hdots hlost hlong l data hfile =>
    obtain ⟨next, later, hnext⟩ := hlonger []
    rw [List.cons_append, hnext, walk_onwards hsearch hdot hdots hlost hlong, hfile]
    rfl
  | case12 p name hsearch hdot hdots hlost hlong l d hdevice =>
    obtain ⟨next, later, hnext⟩ := hlonger []
    rw [List.cons_append, hnext, walk_onwards hsearch hdot hdots hlost hlong, hdevice]
    rfl
  | case13 p name rest hsearch hdot hdots hlost hlong l e hfolder hlink he =>
    obtain ⟨next, later, hnext⟩ := hlonger rest
    rw [List.cons_append, hnext, walk_onwards hsearch hdot hdots hlost hlong, he]
    cases e with
    | folder mode => exact absurd rfl (hfolder mode)
    | link target => exact absurd rfl (hlink target)
    | file | device => rfl

/-- Where a name can be followed at all, the folder can be searched. -/
lemma admits_of_find {last : Bool} {links : Nat} {spot : Spot} {name : String}
    (h : t.find last links place (name :: names) = .ok spot) :
    t.admits place .search = .ok () := by
  cases links with
  | zero => cases h
  | succ links =>
    cases hsearch : t.admits place .search with
    | ok => rfl
    | error fault => simp [find, walk, hsearch] at h

lemma find_dot (hsearch : t.admits place .search = .ok ()) (last : Bool) (links : Nat) :
    t.find last (links + 1) place ["."] = .ok (.folder place) := by
  simp [find, walk, hsearch]

lemma find_front_of_folder {links : Nat} {folder : Place}
    (h : ∀ last, t.find last links place names = .ok (.folder folder)) :
    (∃ folder, t.find true links place names = .ok (.folder folder)) ∧
      ∃ front, t.find false links place names = .ok front ∧ front.IsTaken :=
  ⟨⟨folder, h true⟩, .folder folder, h false, fun _ => Spot.noConfusion⟩

/-- A path that leads somewhere has a folder before its last name, and something stands there even
if a link is not followed. -/
lemma find_front {last : Bool} {links : Nat} {spot : Spot} (hmore : more ≠ [])
    (h : t.find last links place (names ++ more) = .ok spot) :
    (∃ folder, t.find true links place names = .ok (.folder folder)) ∧
      ∃ front, t.find false links place names = .ok front ∧ front.IsTaken := by
  induction links generalizing place names with
  | zero => cases h
  | succ links ih =>
    rw [find, walk_append _ _ _ hmore] at h
    cases hwalk : t.walk place names with
    | error fault =>
      rw [hwalk] at h
      cases h
    | ok walked =>
      rw [hwalk] at h
      cases walked with
      | arrived front =>
        cases front with
        | folder folder =>
          exact ⟨⟨folder, by simp only [find, hwalk]⟩, .folder folder, by simp only [find, hwalk],
            fun l => Spot.noConfusion⟩
        | _ => cases h
      | atLink folder l target rest =>
        simp only [Except.bind, Walked.andThen, List.append_eq_nil_iff, hmore, and_false,
          false_and, if_false, ← List.append_assoc] at h
        obtain ⟨⟨place', hfolder⟩, front, hfront, htaken⟩ := ih h
        refine ⟨⟨place', by simpa [find, hwalk] using hfolder⟩, ?_⟩
        by_cases hrest : rest = []
        · exact ⟨.link l target, by simp [find, hwalk, hrest], fun l => Spot.noConfusion⟩
        · exact ⟨front, by simpa [find, hwalk, hrest] using hfront, htaken⟩

end FileTree

/-! ## Paths and their parents -/

namespace Path

/-- The parent of a path is no longer than the path, where the host reads it at all. -/
lemma utf8ByteSize_parent_le {p : Path} (h : p.text.utf8ByteSize ≤ longestPath) :
    p.parent.text.utf8ByteSize ≤ longestPath := by
  obtain ⟨anchor, parts⟩ := p
  obtain rfl | ⟨names, name, rfl⟩ := List.eq_nil_or_concat' parts
  · exact h
  have hparent : parent ⟨anchor, names ++ [name]⟩ = ⟨anchor, names⟩ := by simp [parent]
  rw [hparent]
  by_cases hnames : names = []
  · subst hnames
    cases anchor <;> decide
  · have htext : text ⟨anchor, names ++ [name]⟩ = text ⟨anchor, names⟩ ++ "/" ++ name := by
      simp [text, hnames, String.intercalate_append_of_ne_nil hnames, String.append_assoc]
    rw [htext, String.utf8ByteSize_append, String.utf8ByteSize_append] at h
    omega

end Path

namespace World
variable {w w' : World} {place : Place} {path p : Path} {spot : Spot} {lines : List String}

lemma ensureFolder_of_folder {front : Spot} {folder : Place} (hnull : p.hasNull = false)
    (hfront : w.locateFrom false p = .ok front) (htaken : front.IsTaken)
    (hfolder : w.locate p = .ok (.folder folder)) : w.ensureFolder p = (.ok (), w) := by
  have hmade : w.makeFolder p = .error .alreadyThere := by
    unfold makeFolder
    rw [hfront]
    cases front with
    | free l => exact absurd rfl (htaken l)
    | _ => rfl
  have haccept : w.acceptFolder p .alreadyThere = .ok () := by
    simp [acceptFolder, isFolder, hnull, hfolder]
  have hlast : w.ensureLastFolder p = (.ok (), w) := by
    simp only [ensureLastFolder, hmade, haccept]
  rw [ensureFolder, hnull]
  cases hdepth : p.parts.length with
  | zero =>
    have hsame : { p with parts := [] } = p := by rw [← List.length_eq_zero_iff.1 hdepth]
    simpa [ensureFolderTo, hsame] using hlast
  | succ depth =>
    have hsame : { p with parts := p.parts.take (depth + 1) } = p := by
      rw [← hdepth, List.take_length]
    simp [ensureFolderTo, hsame, hmade, haccept]

lemma locate_parent (h : w.locate path = .ok spot) :
    (∃ folder, w.locate path.parent = .ok (.folder folder)) ∧
      ∃ front, w.locateFrom false path.parent = .ok front ∧ front.IsTaken := by
  unfold locate locateFrom at h ⊢
  split at h
  · cases h
  next hshort =>
    have hparent := Path.utf8ByteSize_parent_le (Nat.le_of_not_lt hshort)
    rw [if_neg (Nat.not_lt.2 hparent), if_neg (Nat.not_lt.2 hparent)]
    -- The parent of one name, and the path without names, stay where they are by way of a dot.
    obtain hnil | ⟨names, name, hparts⟩ := List.eq_nil_or_concat' path.parts
    · have hsame : path.parent = path := by
        obtain ⟨anchor, parts⟩ := path
        obtain rfl : parts = [] := hnil
        rfl
      rw [hsame]
      by_cases hanchor : path.anchor = .here
      · have hsteps : path.steps = ["."] := by simp [Path.steps, hanchor, hnil]
        rw [hsteps] at h ⊢
        exact FileTree.find_front_of_folder fun last =>
          FileTree.find_dot (FileTree.admits_of_find h) last _
      · have hsteps : path.steps = [] := by simp [Path.steps, hanchor, hnil]
        rw [hsteps]
        exact FileTree.find_front_of_folder fun last => rfl
    · have hsteps : path.steps = names ++ [name] := by simp [Path.steps, hparts]
      have hnames : path.parent.parts = names := by simp [Path.parent, hparts]
      have hanchor : path.parent.anchor = path.anchor := rfl
      rw [hsteps] at h
      by_cases hdot : path.anchor = .here ∧ names = []
      · have hparent : path.parent.steps = ["."] := by
          rw [Path.steps, hanchor, hnames, if_pos hdot]
        rw [hdot.2] at h
        rw [hparent]
        exact FileTree.find_front_of_folder fun last =>
          FileTree.find_dot (FileTree.admits_of_find h) last _
      · have hparent : path.parent.steps = names := by
          rw [Path.steps, hanchor, hnames, if_neg hdot]
        rw [hparent]
        exact FileTree.find_front (List.cons_ne_nil name []) h

/-- A world after bytes have been stored at a site: only the contents of a file change. -/
def storedAt (w : World) (site : Spot) (bytes : ByteArray) : World :=
  match site with
  | .file _ data =>
    { w with files := w.files.rewrite data.identity fun f => { f with bytes } }
  | _ => w

/-- Bytes that are written where something stands change nothing but the contents of a file there,
of which a part of the bytes may be all that is left if they are not all taken. -/
lemma write_at (bytes : ByteArray) (h : w.locate path = .ok spot) (htaken : spot.IsTaken) :
    ((w.write .replace path bytes).1 = .ok () →
      (w.write .replace path bytes).2 = w.storedAt spot.blank bytes) ∧
    ((w.write .replace path bytes).2 = w ∨
      ∃ n, (w.write .replace path bytes).2 = w.storedAt spot.blank (bytes.extract 0 n)) := by
  obtain ⟨e, -, hwrite⟩ | ⟨spot', sink, -, hspot, hsink, hwrite⟩ :=
    write_cases w .replace path bytes
  · rw [hwrite]
    exact ⟨by rintro ⟨⟩, .inl rfl⟩
  obtain rfl : spot = spot' := Except.ok.inj (h.symm.trans hspot)
  rw [hwrite]
  obtain ⟨l, f, rfl, rfl, -⟩ | ⟨l, rfl, -⟩ | ⟨l, d, rfl, rfl, -⟩ := sinkAt_eq_ok hsink
  · have hstored (taken : ByteArray) : { w with files := w.files.rewrite f.identity fun f =>
        { f with bytes := WriteMode.replace.apply f.bytes taken } } =
          w.storedAt (Spot.file l f).blank taken := by
      simp only [WriteMode.apply, WriteMode.held, ByteArray.empty_append]
      rfl
    simp only [fill, hstored, FileTree.taken]
    split
    next => exact ⟨fun _ => rfl, .inr ⟨bytes.size, by rw [ByteArray.extract_zero_size]⟩⟩
    next size error _ => exact ⟨by rintro ⟨⟩, .inr ⟨size, rfl⟩⟩
  · exact absurd rfl (htaken l)
  · exact ⟨fun _ => rfl, .inl rfl⟩

/-- Lines that are stored under a path that leads to something make no folder and no file. -/
lemma saveLines_at (hnull : path.hasNull = false) (h : w.locate path = .ok spot) :
    w.saveLines path lines = w.write .replace path (History.text lines).toByteArray := by
  obtain ⟨⟨folder, hfolder⟩, front, hfront, hthere⟩ := locate_parent h
  have hmade := ensureFolder_of_folder (Path.hasNull_parent hnull) hfront hthere hfolder
  simp only [saveLines, hmade]

end World
end CommandShell
