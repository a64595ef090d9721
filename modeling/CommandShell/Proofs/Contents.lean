import CommandShell.World
import Mathlib.Tactic.Lemma

/-!
# Contents that are written and read again

Writing changes the contents of files and makes files in free places, whether or not it comes to its
end; folders, links and devices stay. So a path that led to a file or to a free place leads there
again, and it holds what has been written under it, also when the same bytes have been written under
other paths in the meantime.
-/
namespace CommandShell

/-! ## Faults under another name -/

section
variable {α ε δ : Type} (f : ε → δ)

@[simp] lemma mapError_ok (a : α) : (Except.ok a : Except ε α).mapError f = .ok a := rfl

@[simp] lemma mapError_error (e : ε) :
    (Except.error e : Except ε α).mapError f = .error (f e) := rfl

end

/-! ## Trees after writing -/

/-- What may stand at a location, given what stood there, after files have been made and written. -/
inductive Entry.Stays : Option Entry → Option Entry → Prop
  | kept (e : Option Entry) : Stays e e
  | made (data : FileData) : Stays none (some (.file data))
  | changed (old : FileData) (bytes : ByteArray) :
      Stays (some (.file old)) (some (.file { old with bytes }))

lemma Entry.Stays.trans {e f g : Option Entry} (h : Stays e f) (hmore : Stays f g) :
    Stays e g := by
  cases hmore with
  | kept => exact h
  | made data =>
    cases h
    exact .made data
  | changed old bytes =>
    cases h with
    | kept => exact .changed old bytes
    | made => exact .made _
    | changed older => exact .changed older bytes

/-- What may stand at a location after all that has been written to files is one text. -/
inductive Entry.Rewritten (bytes : ByteArray) : Option Entry → Option Entry → Prop
  | kept (e : Option Entry) : Rewritten bytes e e
  | made {data : FileData} (hdata : data.bytes = bytes) : Rewritten bytes none (some (.file data))
  | changed (old : FileData) :
      Rewritten bytes (some (.file old)) (some (.file { old with bytes }))

lemma Entry.Rewritten.stays {bytes : ByteArray} {e f : Option Entry} (h : Rewritten bytes e f) :
    Stays e f := by
  cases h with
  | kept => exact .kept _
  | made => exact .made _
  | changed old => exact .changed old _

/-- An entry after a file has been changed under all its names. -/
def Entry.rewrite (identity : Nat) (change : FileData → FileData) : Entry → Entry
  | .file f => if f.identity = identity then .file (change f) else .file f
  | e => e

namespace FileTree
variable {bytes : ByteArray} {t u v : FileTree}

lemma get?_rewrite (t : FileTree) (identity : Nat) (change : FileData → FileData) (l : Location) :
    (t.rewrite identity change).get? l = (t.get? l).map (Entry.rewrite identity change) := by
  have hentries : (t.rewrite identity change).entries =
      t.entries.map fun e => (e.1, e.2.rewrite identity change) := by
    refine List.map_congr_left fun e _ => ?_
    obtain ⟨m, entry⟩ := e
    cases entry with
    | file f => simp only [Entry.rewrite]; split <;> rfl
    | _ => rfl
  by_cases hl : l = []
  · simp [get?, hl, Entry.rewrite, Entry.usualFolder]
  · simp [get?, hl, hentries, List.find?_map, Function.comp_def]

/-- Whether one tree is another after files have been made and written. -/
structure Overwritten (t u : FileTree) : Prop where
  rules : u.rules = t.rules
  entries : ∀ l, Entry.Stays (t.get? l) (u.get? l)

/-- Whether one tree is another after bytes have been written to some of its files. -/
structure Rewritten (bytes : ByteArray) (t u : FileTree) : Prop where
  rules : u.rules = t.rules
  entries : ∀ l, Entry.Rewritten bytes (t.get? l) (u.get? l)

lemma Overwritten.refl (t : FileTree) : t.Overwritten t := ⟨rfl, fun _ => .kept _⟩

lemma Overwritten.trans (h : t.Overwritten u) (hmore : u.Overwritten v) : t.Overwritten v :=
  ⟨hmore.rules.trans h.rules, fun l => (h.entries l).trans (hmore.entries l)⟩

lemma Rewritten.refl (bytes : ByteArray) (t : FileTree) : t.Rewritten bytes t :=
  ⟨rfl, fun _ => .kept _⟩

lemma Rewritten.overwritten (h : t.Rewritten bytes u) : t.Overwritten u :=
  ⟨h.rules, fun l => (h.entries l).stays⟩

lemma Rewritten.of_set {l : Location} {data : FileData} (hfree : t.get? l = none)
    (hl : l ≠ []) (hdata : data.bytes = bytes) : t.Rewritten bytes (t.set l (.file data)) where
  rules := rfl
  entries m := by
    rw [get?_set t l m _ hl]
    split
    next hm =>
      rw [← hm, hfree]
      exact .made hdata
    · exact .kept _

lemma Rewritten.of_rewrite (t : FileTree) (identity : Nat) (bytes : ByteArray) :
    t.Rewritten bytes (t.rewrite identity fun f => { f with bytes }) where
  rules := rfl
  entries l := by
    rw [get?_rewrite]
    match t.get? l with
    | some (.file f) =>
      rw [Option.map_some, Entry.rewrite]
      split
      · exact .changed f
      · exact .kept _
    | none | some (.folder _) | some (.link _) | some (.device _) => exact .kept _

lemma Overwritten.of_rewrite (t : FileTree) (identity : Nat) (contents : FileData → ByteArray) :
    t.Overwritten (t.rewrite identity fun f => { f with bytes := contents f }) where
  rules := rfl
  entries l := by
    rw [get?_rewrite]
    match t.get? l with
    | some (.file f) =>
      rw [Option.map_some, Entry.rewrite]
      split
      · exact .changed f _
      · exact .kept _
    | none | some (.folder _) | some (.link _) | some (.device _) => exact .kept _

/-- Whether the ways of one tree lead on in another: under the same rules, a file stays the file it
is, whatever it holds, and all else is kept. -/
structure KeepsWays (t u : FileTree) : Prop where
  rules : u.rules = t.rules
  file {l : Location} {data : FileData} (h : t.get? l = some (.file data)) :
    ∃ bytes, u.get? l = some (.file { data with bytes })
  other {l : Location} {e : Entry} (h : t.get? l = some e) (hfile : ∀ data, e ≠ .file data) :
    u.get? l = some e

/-- Whether a place is free or has a file. -/
def TakesFile (t : FileTree) (l : Location) : Prop :=
  t.get? l = none ∨ ∃ data, t.get? l = some (.file data)

lemma Overwritten.keepsWays (h : t.Overwritten u) : t.KeepsWays u where
  rules := h.rules
  file {l data} hfile := by
    have hl := h.entries l
    rw [hfile] at hl
    generalize u.get? l = entry at hl
    cases hl with
    | kept => exact ⟨data.bytes, rfl⟩
    | changed _ bytes => exact ⟨bytes, rfl⟩
  other {l e} he hfile := by
    have hl := h.entries l
    rw [he] at hl
    generalize u.get? l = entry at hl
    cases hl with
    | kept => rfl
    | changed old bytes => exact absurd rfl (hfile old)

lemma Overwritten.takesFile (h : t.Overwritten u) {l : Location} (hfree : t.get? l = none) :
    u.TakesFile l := by
  have hl := h.entries l
  rw [hfree] at hl
  generalize hu : u.get? l = entry at hl
  cases hl with
  | kept => exact .inl hu
  | made data => exact .inr ⟨data, hu⟩

/-- What is granted in a folder is granted there when the ways are kept. -/
lemma KeepsWays.admits (h : t.KeepsWays u) {p : Place} {access : Access}
    (hok : t.admits p access = .ok ()) : u.admits p access = .ok () := by
  unfold FileTree.admits at hok ⊢
  split at hok
  next hlost => rw [if_pos hlost]
  next hlost =>
    rw [if_neg hlost]
    split at hok
    next mode hfolder =>
      rw [h.other hfolder fun data => Entry.noConfusion, h.rules]
      exact hok
    next => cases hok

end FileTree

/-! ## Spots after writing -/

/-- Whether something stands at a spot. -/
def Spot.IsTaken (spot : Spot) : Prop := ∀ l, spot ≠ .free l

/-- Whether a spot is a device. -/
def Spot.IsDevice (spot : Spot) : Prop := ∃ l d, spot = .device l d

/-- A spot is what a tree has at its location. -/
def Spot.Stands (t : FileTree) : Spot → Prop
  | .file l data => t.get? l = some (.file data)
  | .free l => l ≠ [] ∧ t.get? l = none
  | _ => True

/-- A spot as it is after files have been written. -/
def Spot.renewed (t : FileTree) (spot : Spot) : Spot :=
  match spot with
  | .file l _ | .free l =>
    match t.get? l with
    | some (.file data) => .file l data
    | _ => spot
  | _ => spot

/-- How far following names gets after files have been written. -/
def Walked.renewed (t : FileTree) : Walked → Walked
  | .arrived spot => .arrived (spot.renewed t)
  | walked => walked

namespace FileTree
variable {bytes : ByteArray} {t u : FileTree} {place : Place} {names : List String}

lemma walk_stands {spot : Spot} (h : t.walk place names = .ok (.arrived spot)) : spot.Stands t := by
  fun_induction t.walk place names with
  | case1 =>
    cases h
    trivial
  | case3 p rest hsearch ih => exact ih h
  | case4 p rest hsearch hdot ih => exact ih h
  | case7 p name hsearch hdot hdots hlost hlong l hfree =>
    cases h
    exact ⟨List.concat_ne_nil _ _, hfree⟩
  | case9 p name rest hsearch hdot hdots hlost hlong l mode hfolder ih => exact ih h
  | case11 p name hsearch hdot hdots hlost hlong l data hfile =>
    cases h
    exact hfile
  | case12 =>
    cases h
    trivial
  | case2 | case5 | case6 | case8 | case10 | case13 => cases h

/-- The way is the same in a tree that keeps the ways, if its end takes a file where it is free. -/
lemma walk_renewed (hways : t.KeepsWays u) {walked : Walked} (h : t.walk place names = .ok walked)
    (hend : ∀ l, walked = .arrived (.free l) → u.TakesFile l) :
    u.walk place names = .ok (walked.renewed u) := by
  -- Folders, links and devices are met again; only the last name can lead to something new.
  fun_induction t.walk place names with
  | case1 =>
    cases h
    rfl
  | case3 p rest hsearch ih =>
    rw [walk, hways.admits hsearch]
    exact ih h
  | case4 p rest hsearch hdot ih =>
    simp only [walk, hways.admits hsearch, if_neg hdot, if_true]
    exact ih h
  | case7 p name hsearch hdot hdots hlost hlong l hfree =>
    cases h
    obtain hu | ⟨data, hu⟩ := hend l rfl <;>
      simp [walk, hways.admits hsearch, hdot, hdots, hlost, hlong, Walked.renewed, Spot.renewed, l,
        hu]
  | case9 p name rest hsearch hdot hdots hlost hlong l mode hfolder ih =>
    have hu := hways.other hfolder fun data => Entry.noConfusion
    simpa [walk, hways.admits hsearch, hdot, hdots, hlost, hlong, l, hu] using ih h
  | case10 p name rest hsearch hdot hdots hlost hlong l target hlink =>
    cases h
    have hu := hways.other hlink fun data => Entry.noConfusion
    simp [walk, hways.admits hsearch, hdot, hdots, hlost, hlong, Walked.renewed, l, hu]
  | case11 p name hsearch hdot hdots hlost hlong l data hfile =>
    cases h
    obtain ⟨bytes, hu⟩ := hways.file hfile
    simp [walk, hways.admits hsearch, hdot, hdots, hlost, hlong, Walked.renewed, Spot.renewed, l,
      hu]
  | case12 p name hsearch hdot hdots hlost hlong l d hdevice =>
    cases h
    have hu := hways.other hdevice fun data => Entry.noConfusion
    simp [walk, hways.admits hsearch, hdot, hdots, hlost, hlong, Walked.renewed, Spot.renewed, l,
      hu]
  | case2 | case5 | case6 | case8 | case13 => cases h

variable {last : Bool} {links : Nat} {spot : Spot}

lemma find_stands (h : t.find last links place names = .ok spot) : spot.Stands t := by
  fun_induction t.find last links place names with
  | case1 => cases h
  | case2 => cases h
  | case3 links place names spot hwalk =>
    cases h
    exact walk_stands hwalk
  | case4 =>
    cases h
    trivial
  | case5 links place names folder l target rest hwalk hend path ih => exact ih h

/-- A path leads to the same in a tree that keeps the ways, but for the contents it finds there. -/
lemma find_renewed (hways : t.KeepsWays u) (h : t.find last links place names = .ok spot)
    (hend : ∀ l, spot = .free l → u.TakesFile l) :
    u.find last links place names = .ok (spot.renewed u) := by
  fun_induction t.find last links place names with
  | case1 => cases h
  | case2 => cases h
  | case3 links place names spot hwalk =>
    cases h
    have hwalked := walk_renewed hways hwalk (by simpa using hend)
    rw [find, hwalked]
    rfl
  | case4 links place names folder l target rest hwalk hlast =>
    cases h
    simp only [find, walk_renewed hways hwalk fun _ => Walked.noConfusion, Walked.renewed,
      if_pos hlast]
    rfl
  | case5 links place names folder l target rest hwalk hlast path ih =>
    simp only [find, walk_renewed hways hwalk fun _ => Walked.noConfusion, Walked.renewed,
      if_neg hlast]
    exact ih h

end FileTree

/-- A file stays the file it is, with its own contents or with those that are written. -/
lemma Spot.renewed_file {bytes : ByteArray} {t u : FileTree} {l : Location} {data : FileData}
    (h : t.get? l = some (.file data)) (hwritten : t.Rewritten bytes u) :
    ∃ held, (held = data.bytes ∨ held = bytes) ∧
      (Spot.file l data).renewed u = .file l { data with bytes := held } := by
  have hl := hwritten.entries l
  rw [h] at hl
  generalize hu : u.get? l = entry at hl
  cases hl with
  | kept => exact ⟨data.bytes, .inl rfl, by simp only [renewed, hu]⟩
  | changed => exact ⟨bytes, .inr rfl, by simp only [renewed, hu]⟩

lemma FileTree.taken_eq_ok {t : FileTree} {l : Location} {held new : ByteArray}
    (h : (t.taken l held new).1 = .ok ()) : t.taken l held new = (.ok (), new) := by
  unfold taken at h ⊢
  split at h
  · rfl
  · cases h

/-! ## What a path holds -/

namespace World
variable {w w' : World} {path : Path} {mode : WriteMode} {bytes : ByteArray}

/-- A path leads to a file with some contents, or to a device, which has none of its own. -/
def Holds (w : World) (path : Path) (bytes : ByteArray) : Prop :=
  (∃ l data, w.locate path = .ok (.file l data) ∧ data.bytes = bytes) ∨
    ∃ l d, w.locate path = .ok (.device l d)

lemma locate_stands {spot : Spot} (h : w.locate path = .ok spot) : spot.Stands w.files := by
  rw [locate, locateFrom] at h
  split at h
  · cases h
  · exact FileTree.find_stands h

/-- A path leads to the same in a world whose tree keeps the ways, but for the contents. -/
lemma locate_kept {files : FileTree} (hways : w.files.KeepsWays files) {spot : Spot}
    (h : w.locate path = .ok spot) (hend : ∀ l, spot = .free l → files.TakesFile l) :
    { w with files }.locate path = .ok (spot.renewed files) := by
  rw [locate, locateFrom] at h ⊢
  split at h
  · cases h
  next hshort =>
    rw [if_neg hshort]
    exact FileTree.find_renewed hways h hend

lemma locate_renewed {files : FileTree} (hwritten : w.files.Overwritten files) {spot : Spot}
    (h : w.locate path = .ok spot) :
    { w with files }.locate path = .ok (spot.renewed files) := by
  refine locate_kept hwritten.keepsWays h ?_
  rintro l rfl
  exact hwritten.takesFile (locate_stands h).2

lemma Holds.of_renewed {files : FileTree} (hwritten : w.files.Rewritten bytes files) {spot : Spot}
    (h : w.locate path = .ok spot)
    (hspot : ∃ l data, spot.renewed files = .file l data ∧ data.bytes = bytes) :
    { w with files }.Holds path bytes := by
  obtain ⟨l, data, hspot, hdata⟩ := hspot
  exact .inl ⟨l, data, by rw [locate_renewed hwritten.overwritten h, hspot], hdata⟩

lemma holds_create {l : Location} (h : w.locate path = .ok (.free l)) (mode : Nat) :
    w.files.Rewritten bytes (w.files.create l bytes mode) ∧
      { w with files := w.files.create l bytes mode }.Holds path bytes := by
  obtain ⟨hl, hfree⟩ : l ≠ [] ∧ w.files.get? l = none := locate_stands h
  have hwritten : w.files.Rewritten bytes (w.files.create l bytes mode) := .of_set hfree hl rfl
  have hmade : (w.files.create l bytes mode).get? l =
      some (.file ⟨bytes, mode, w.files.freshIdentity⟩) := by
    rw [FileTree.create, FileTree.get?_set _ _ _ _ hl, if_pos rfl]
  exact ⟨hwritten, .of_renewed hwritten h ⟨l, _, by rw [Spot.renewed, hmade], rfl⟩⟩

lemma holds_rewrite {l : Location} {f : FileData} (h : w.locate path = .ok (.file l f))
    (bytes : ByteArray) :
    w.files.Rewritten bytes (w.files.rewrite f.identity fun f => { f with bytes }) ∧
      { w with files := w.files.rewrite f.identity fun f => { f with bytes } }.Holds path
        bytes := by
  have hstands : w.files.get? l = some (.file f) := locate_stands h
  have hwritten : w.files.Rewritten bytes (w.files.rewrite f.identity fun f => { f with bytes }) :=
    .of_rewrite _ _ _
  have hchanged : (w.files.rewrite f.identity fun f => { f with bytes }).get? l =
      some (.file { f with bytes }) := by
    rw [FileTree.get?_rewrite, hstands, Option.map_some, Entry.rewrite, if_pos rfl]
  exact ⟨hwritten, .of_renewed hwritten h ⟨l, _, by rw [Spot.renewed, hchanged], rfl⟩⟩

/-- A path leads to a file that may not be read. -/
def ForbidsReading (w : World) (path : Path) : Prop :=
  ∃ l data, w.locate path = .ok (.file l data) ∧ w.files.rules.refuse l data.mode .read ≠ none

lemma read_of_file {l : Location} {data : FileData} (hnull : path.hasNull = false)
    (hfile : w.locate path = .ok (.file l data))
    (hrefuse : w.files.rules.refuse l data.mode .read = none) : w.read path = .ok data.bytes := by
  simp [World.read, hnull, hfile, readAt, Rules.grant, hrefuse, Except.map]

/-- What a path holds is what is read under it, unless it leads to a device or may not be read. -/
lemma Holds.read (h : w.Holds path bytes) (hnull : path.hasNull = false) :
    w.read path = .ok bytes ∨ (∃ l d, w.locate path = .ok (.device l d)) ∨
      w.ForbidsReading path := by
  obtain ⟨l, data, hfile, rfl⟩ | hdevice := h
  · cases hrefuse : w.files.rules.refuse l data.mode .read with
    | none => exact .inl (read_of_file hnull hfile hrefuse)
    | some denial => exact .inr (.inr ⟨l, data, hfile, by simp [hrefuse]⟩)
  · exact .inr (.inl hdevice)

/-! ## Writing -/

/-- What is opened at a spot is what stands there, if writing is granted. -/
lemma sinkAt_eq_ok {spot : Spot} {sink : Sink} (h : w.sinkAt spot = .ok sink) :
    (∃ l f, spot = .file l f ∧ sink = .file l f ∧
        w.files.rules.refuse l f.mode .write = none) ∨
      (∃ l, spot = .free l ∧ sink = .fresh l ∧
        w.files.admits ⟨l.dropLast, 0⟩ .write = .ok ()) ∨
      ∃ l d, spot = .device l d ∧ sink = .device d ∧ d ≠ .terminal ∧
        w.files.rules.refuse l Device.mode .write = none := by
  have hgrant {l : Location} {mode : Nat} (h : w.files.rules.grant l mode .write = .ok ()) :
      w.files.rules.refuse l mode .write = none := by
    rw [Rules.grant] at h
    split at h
    next hnone => exact hnone
    next => cases h
  cases spot with
  | folder | link => cases h
  | device l d =>
    simp only [sinkAt] at h
    split at h
    next => cases h
    next hok => cases d <;> cases h <;> exact .inr (.inr ⟨l, _, rfl, rfl, by simp, hgrant hok⟩)
  | free l =>
    cases hok : w.files.admits ⟨l.dropLast, 0⟩ .write with
    | error fault => simp [sinkAt, hok, Except.map] at h
    | ok =>
      simp only [sinkAt, hok, Except.map, Except.ok.injEq] at h
      exact .inr (.inl ⟨l, rfl, h.symm, hok⟩)
  | file l f =>
    cases hok : w.files.rules.grant l f.mode .write with
    | error fault => simp [sinkAt, hok, Except.map] at h
    | ok =>
      simp only [sinkAt, hok, Except.map, Except.ok.injEq] at h
      exact .inl ⟨l, f, rfl, h.symm, hgrant hok⟩

lemma openToWrite_eq_ok {sink : Sink} (h : w.openToWrite path = .ok sink) :
    ∃ spot, w.locate path = .ok spot ∧ w.sinkAt spot = .ok sink := by
  unfold openToWrite at h
  split at h
  · cases h
  split at h
  · cases h
  next spot hspot =>
    cases hsink : w.sinkAt spot with
    | error fault => simp [hsink] at h
    | ok found =>
      simp only [hsink, mapError_ok, Except.ok.injEq] at h
      exact ⟨spot, hspot, by rw [hsink, h]⟩

lemma openToWrite_of_sink {spot : Spot} {sink : Sink} (hnull : path.hasNull = false)
    (hspot : w.locate path = .ok spot) (hsink : w.sinkAt spot = .ok sink) :
    w.openToWrite path = .ok sink := by
  simp [openToWrite, hnull, hspot, hsink]

/-- Writing fails before anything is opened and changes nothing, or comes to what becomes of that
which it opens. -/
lemma write_cases (w : World) (mode : WriteMode) (path : Path) (bytes : ByteArray) :
    (∃ e, w.opens path = false ∧ w.write mode path bytes = (.error e, w)) ∨
      ∃ spot sink, w.opens path = true ∧ w.locate path = .ok spot ∧ w.sinkAt spot = .ok sink ∧
        w.write mode path bytes =
          ((w.fill mode bytes sink).1.mapError .system, (w.fill mode bytes sink).2) := by
  cases hopened : w.openToWrite path with
  | error e => exact .inl ⟨e, by rw [opens, hopened]; rfl, by rw [write, hopened]⟩
  | ok sink =>
    obtain ⟨spot, hspot, hsink⟩ := openToWrite_eq_ok hopened
    exact .inr ⟨spot, sink, by rw [opens, hopened]; rfl, hspot, hsink, by rw [write, hopened]⟩

lemma write_overwritten (w : World) (mode : WriteMode) (path : Path) (bytes : ByteArray) :
    ∃ files, (w.write mode path bytes).2 = { w with files } ∧ w.files.Overwritten files := by
  obtain ⟨e, -, hwrite⟩ | ⟨spot, sink, -, hspot, hsink, hwrite⟩ := write_cases w mode path bytes
  · rw [hwrite]
    exact ⟨w.files, rfl, .refl _⟩
  · rw [hwrite]
    obtain ⟨l, f, rfl, rfl, -⟩ | ⟨l, rfl, rfl, -⟩ | ⟨l, d, rfl, rfl, -⟩ := sinkAt_eq_ok hsink
    · exact ⟨_, rfl, .of_rewrite _ _ _⟩
    · exact ⟨_, rfl, (holds_create hspot w.fileMode).1.overwritten⟩
    · exact ⟨_, rfl, .refl _⟩

/-- Writing only changes files, and the path that was written leads to what was written. -/
lemma write_eq_ok (h : w.write .replace path bytes = (.ok (), w')) :
    ∃ files, w' = { w with files } ∧ w.files.Rewritten bytes files ∧ w'.Holds path bytes := by
  obtain ⟨e, -, hwrite⟩ | ⟨spot, sink, -, hspot, hsink, hwrite⟩ :=
    write_cases w .replace path bytes
  · cases hwrite.symm.trans h
  · obtain ⟨hdone, rfl⟩ := Prod.mk.inj (hwrite.symm.trans h)
    replace hdone : (w.fill .replace bytes sink).1 = .ok () := by
      cases hfill : (w.fill .replace bytes sink).1 with
      | ok => rfl
      | error e => rw [hfill] at hdone; cases hdone
    obtain ⟨l, f, rfl, rfl, -⟩ | ⟨l, rfl, rfl, -⟩ | ⟨l, d, rfl, rfl, -⟩ := sinkAt_eq_ok hsink
    · have hall : w.files.taken l .empty bytes = (.ok (), bytes) := FileTree.taken_eq_ok hdone
      have hfile := holds_rewrite hspot bytes
      simp only [fill, WriteMode.apply, WriteMode.held, hall, ByteArray.empty_append]
      exact ⟨_, rfl, hfile⟩
    · have hall := FileTree.taken_eq_ok hdone
      simp only [fill, hall]
      exact ⟨_, rfl, holds_create hspot w.fileMode⟩
    · exact ⟨w.files, rfl, .refl _ _, .inr ⟨l, d, hspot⟩⟩

/-! ## Touching -/

/-- Whether a path leads to something of which the times can be set, or which can be opened for
writing. -/
def IsUsable (w : World) (path : Path) : Prop :=
  ∃ spot, w.locate path = .ok spot ∧ spot.IsTaken ∧ (w.renews spot = true ∨ w.opens path = true)

/-- What touching comes to: a file is made, or something that can be used is there, or there is
neither. -/
lemma touch_cases (hnull : path.hasNull = false) (w : World) :
    (∃ l, w.locate path = .ok (.free l) ∧ w.touch path =
        (.ok (), { w with files := w.files.create l .empty w.fileMode })) ∨
      (w.IsUsable path ∧ w.touch path = (.ok (), w)) ∨
      ¬ w.IsUsable path ∧ ∃ fault, w.touch path = (.error (failure path fault), w) := by
  unfold touch
  rw [hnull]
  simp only [Bool.false_eq_true, if_false]
  cases hspot : w.locate path with
  | error fault =>
    refine .inr (.inr ⟨?_, fault, rfl⟩)
    rintro ⟨spot, hfound, -⟩
    cases hspot.symm.trans hfound
  | ok spot =>
    by_cases hrenews : w.renews spot = true
    · refine .inr (.inl ⟨⟨spot, hspot, ?_, .inl hrenews⟩, if_pos hrenews⟩)
      rintro l rfl
      cases hrenews
    · simp only [if_neg hrenews]
      cases hsink : w.sinkAt spot with
      | error fault =>
        refine .inr (.inr ⟨?_, fault, rfl⟩)
        rintro ⟨other, hfound, -, hrenews' | hopens⟩
        · cases hspot.symm.trans hfound
          exact hrenews hrenews'
        · simp [opens, openToWrite, hnull, hspot, hsink, Except.isOk, Except.toBool] at hopens
      | ok sink =>
        have hopens : w.opens path = true := by
          rw [opens, openToWrite_of_sink hnull hspot hsink]
          rfl
        obtain ⟨l, f, rfl, rfl, -⟩ | ⟨l, rfl, rfl, -⟩ | ⟨l, d, rfl, rfl, -⟩ := sinkAt_eq_ok hsink
        · exact .inr (.inl ⟨⟨_, hspot, fun _ => Spot.noConfusion, .inr hopens⟩, rfl⟩)
        · exact .inl ⟨l, rfl, rfl⟩
        · exact .inr (.inl ⟨⟨_, hspot, fun _ => Spot.noConfusion, .inr hopens⟩, rfl⟩)

end World
end CommandShell
