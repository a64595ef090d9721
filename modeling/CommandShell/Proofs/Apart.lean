import CommandShell.Proofs.Redirecting
import Mathlib

/-!
# Targets apart from one another

Targets that are written one after the other do not get into each other's way. Whether one of them
is refused is settled before any is written, and what a file holds in the end is settled by how many
of them lead to it: what is written makes files and changes files, so no way that is open is closed
by it and none that is closed is opened.
-/
namespace CommandShell
open Text

/-! ## Contents -/

/-- Some copies of bytes, one after the other. -/
def copiesOf (bytes : ByteArray) : Nat → ByteArray
  | 0 => .empty
  | times + 1 => copiesOf bytes times ++ bytes

namespace WriteMode

/-- The contents of a file after bytes have been written to it some times. -/
def applied (mode : WriteMode) (old new : ByteArray) (times : Nat) : ByteArray :=
  match mode with
  | replace => if times = 0 then old else new
  | extend => old ++ copiesOf new times

variable (mode : WriteMode) (old new : ByteArray)

@[simp] lemma applied_zero : mode.applied old new 0 = old := by
  cases mode <;> simp [applied, copiesOf]

@[simp] lemma applied_empty_one : mode.applied .empty new 1 = new := by
  cases mode <;> simp [applied, copiesOf]

lemma apply_applied (times : Nat) :
    mode.apply (mode.applied old new times) new = mode.applied old new (times + 1) := by
  cases mode <;> simp [applied, apply, held, copiesOf, ByteArray.append_assoc]

end WriteMode

/-! ## Ways that are closed -/

namespace FileTree
variable {t u : FileTree} {place : Place} {names : List String} {fault : FileFault}

/-- What is granted in a folder is the same where files are made in free places only. -/
lemma admits_kept (hways : t.KeepsWays u) (hfree : ∀ l, t.get? l = none → u.TakesFile l)
    (p : Place) (access : Access) : u.admits p access = t.admits p access := by
  unfold admits
  split
  · rfl
  cases hentry : t.get? p.path with
  | none => obtain hu | ⟨data, hu⟩ := hfree _ hentry <;> simp [hu]
  | some e =>
    cases e with
    | folder mode => rw [hways.other hentry fun _ => Entry.noConfusion, hways.rules]
    | file data =>
      obtain ⟨bytes, hu⟩ := hways.file hentry
      simp [hu]
    | link | device => rw [hways.other hentry fun _ => Entry.noConfusion]

/-- A way that is closed stays closed where files are made in free places only. -/
lemma walk_error (hways : t.KeepsWays u) (hfree : ∀ l, t.get? l = none → u.TakesFile l)
    (h : t.walk place names = .error fault) : ∃ fault', u.walk place names = .error fault' := by
  fun_induction t.walk place names with
  | case1 | case7 | case10 | case11 | case12 => cases h
  | case2 p name rest fault' hsearch =>
    rw [← admits_kept hways hfree] at hsearch
    exact ⟨fault', by simp only [walk, hsearch]⟩
  | case3 p rest hsearch ih =>
    simp only [walk, hways.admits hsearch, if_true]
    exact ih h
  | case4 p rest hsearch hdot ih =>
    simp only [walk, hways.admits hsearch, if_neg hdot, if_true]
    exact ih h
  | case5 p name rest hsearch hdot hdots hlost =>
    exact ⟨.notFound, by simp [walk, hways.admits hsearch, hdot, hdots, hlost]⟩
  | case6 p name rest hsearch hdot hdots hlost hlong =>
    exact ⟨.nameTooLong, by simp [walk, hways.admits hsearch, hdot, hdots, hlost, hlong]⟩
  | case8 p name rest hsearch hdot hdots hlost hlong l hnone hrest =>
    obtain ⟨next, more, rfl⟩ := List.exists_cons_of_ne_nil hrest
    obtain hu | ⟨data, hu⟩ := hfree l hnone
    · exact ⟨.notFound,
        by simp [walk, hways.admits hsearch, hdot, hdots, hlost, hlong, l, hu]⟩
    · exact ⟨.notFolder,
        by simp [walk, hways.admits hsearch, hdot, hdots, hlost, hlong, l, hu]⟩
  | case9 p name rest hsearch hdot hdots hlost hlong l mode hfolder ih =>
    have hu := hways.other hfolder fun data => Entry.noConfusion
    simpa [walk, hways.admits hsearch, hdot, hdots, hlost, hlong, l, hu] using ih h
  | case13 p name rest hsearch hdot hdots hlost hlong l e hfolder hlink hentry hfile hdevice =>
    refine ⟨.notFolder, ?_⟩
    cases e with
    | folder mode => exact absurd rfl (hfolder mode)
    | link target => exact absurd rfl (hlink target)
    | file data =>
      obtain ⟨next, more, rfl⟩ := List.exists_cons_of_ne_nil (fun hrest => hfile data hrest rfl)
      obtain ⟨bytes, hu⟩ := hways.file hentry
      simp [walk, hways.admits hsearch, hdot, hdots, hlost, hlong, l, hu]
    | device d =>
      obtain ⟨next, more, rfl⟩ := List.exists_cons_of_ne_nil (fun hrest => hdevice d hrest rfl)
      have hu := hways.other hentry fun data => Entry.noConfusion
      simp [walk, hways.admits hsearch, hdot, hdots, hlost, hlong, l, hu]

variable {last : Bool} {links : Nat}

lemma find_error (hways : t.KeepsWays u) (hfree : ∀ l, t.get? l = none → u.TakesFile l)
    (h : t.find last links place names = .error fault) :
    ∃ fault', u.find last links place names = .error fault' := by
  fun_induction t.find last links place names with
  | case1 => exact ⟨.tooManyLinks, rfl⟩
  | case2 links place names other hwalk =>
    obtain ⟨fault', hu⟩ := walk_error hways hfree hwalk
    exact ⟨fault', by rw [find, hu]⟩
  | case3 | case4 => cases h
  | case5 links place names folder l target rest hwalk hlast path ih =>
    simp only [find, walk_renewed hways hwalk fun _ => Walked.noConfusion, Walked.renewed,
      if_neg hlast]
    exact ih h

end FileTree

/-! ## Trees after several targets -/

/-- An entry that belongs to a file after bytes have been written to the file some times. Where none
was, a file has been made. -/
inductive Entry.Written (mode : WriteMode) (bytes : ByteArray) (fileMode times : Nat) :
    Option Entry → Option Entry → Prop
  | kept {e : Option Entry} (hnone : times = 0) : Written mode bytes fileMode times e e
  | made {identity : Nat} (hsome : times ≠ 0) : Written mode bytes fileMode times none
      (some (.file ⟨mode.applied .empty bytes times, fileMode, identity⟩))
  | changed {data : FileData} (hsome : times ≠ 0) : Written mode bytes fileMode times
      (some (.file data))
      (some (.file { data with bytes := mode.applied data.bytes bytes times }))

/-- The identity of the file at a location. -/
def FileTree.identityAt? (t : FileTree) (l : Location) : Option Nat :=
  match t.get? l with
  | some (.file data) => some data.identity
  | _ => none

/-- Whether a path leads to the file at a location, whatever its name there, or to the location
where it is free. -/
def World.leadsTo (w : World) (l : Location) (path : Path) : Bool :=
  match w.locate path with
  | .ok (.file _ data) => w.files.identityAt? l = some data.identity
  | .ok (.free free) => free = l
  | _ => false

namespace World

/-- Whether bytes are refused at a target: it cannot be opened, or is a device that is full. -/
def refuses (w : World) (bytes : ByteArray) (target : Path) : Bool :=
  match w.openToWrite target with
  | .error _ => true
  | .ok (.device d) => !d.takes bytes
  | .ok _ => false

/-- Whether bytes are written at a location, under whatever name, if a path is a target. -/
def writesTo (w : World) (bytes : ByteArray) (l : Location) (target : Path) : Bool :=
  !w.refuses bytes target && w.leadsTo l target

/-- Where files may not be made, nothing is written in a free place. -/
lemma admits_of_writesTo {w : World} {bytes : ByteArray} {l : Location} {target : Path}
    (hfree : w.files.get? l = none) (h : w.writesTo bytes l target = true) :
    w.files.admits ⟨l.dropLast, 0⟩ .write = .ok () := by
  rw [writesTo, Bool.and_eq_true, Bool.not_eq_true'] at h
  obtain ⟨htakes, hleads⟩ := h
  rw [refuses] at htakes
  rw [leadsTo] at hleads
  cases hopened : w.openToWrite target with
  | error e => simp [hopened] at htakes
  | ok sink =>
    obtain ⟨spot, hspot, hsink⟩ := openToWrite_eq_ok hopened
    obtain ⟨m, f, rfl, -⟩ | ⟨m, rfl, -, hadmits⟩ | ⟨m, d, rfl, -⟩ := sinkAt_eq_ok hsink
    · simp [hspot, FileTree.identityAt?, hfree] at hleads
    · obtain rfl : m = l := by simpa [hspot] using hleads
      exact hadmits
    · simp [hspot] at hleads

end World

/-- The files after some targets have been tried. Every file has been written as many times as
targets that are not refused lead to it, and a file that has been made is no other. -/
structure FilesAfter (w : World) (mode : WriteMode) (bytes : ByteArray) (targets : List Path)
    (files : FileTree) : Prop where
  rules : files.rules = w.files.rules
  entries : ∀ l, Entry.Written mode bytes w.fileMode (targets.countP (w.writesTo bytes l))
    (w.files.get? l) (files.get? l)
  apart : ∀ l m data data', w.files.get? l = none → files.get? l = some (.file data) →
    files.get? m = some (.file data') → data.identity = data'.identity → l = m

/-- An identity above the ones met, after one more entry. -/
def FileTree.aboveIdentity (n : Nat) (e : Location × Entry) : Nat :=
  match e.2 with
  | .file f => max n (f.identity + 1)
  | _ => n

lemma FileTree.identity_lt_fresh {t : FileTree} {l : Location} {data : FileData}
    (h : t.get? l = some (.file data)) : data.identity < t.freshIdentity := by
  obtain ⟨e, hmem, hfile⟩ : ∃ e ∈ t.entries, e.2 = .file data := by
    rw [get?] at h
    split at h
    · cases h
    · obtain ⟨e, hfound, hfile⟩ := Option.map_eq_some_iff.1 h
      exact ⟨e, List.mem_of_find?_eq_some hfound, hfile⟩
  obtain ⟨front, back, hentries⟩ := List.append_of_mem hmem
  have hfresh : t.freshIdentity = back.foldl aboveIdentity
      (aboveIdentity (front.foldl aboveIdentity 0) e) := by
    rw [← List.foldl_cons, ← List.foldl_append, ← hentries]
    rfl
  have habove (n : Nat) (e : Location × Entry) : n ≤ aboveIdentity n e := by
    unfold aboveIdentity
    split
    · exact Nat.le_max_left _ _
    · exact Nat.le_refl n
  have hlater (n : Nat) : n ≤ back.foldl aboveIdentity n :=
    List.foldlRecOn (motive := (n ≤ ·)) back aboveIdentity (Nat.le_refl n)
      fun m hm e _ => Nat.le_trans hm (habove m e)
  rw [hfresh]
  refine Nat.lt_of_lt_of_le ?_ (hlater _)
  rw [aboveIdentity, hfile]
  exact Nat.lt_of_lt_of_le (Nat.lt_succ_self _) (Nat.le_max_right _ _)

lemma Entry.Written.stays {mode : WriteMode} {bytes : ByteArray} {fileMode times : Nat}
    {e f : Option Entry} (h : Written mode bytes fileMode times e f) : Stays e f := by
  cases h with
  | kept => exact .kept _
  | made => exact .made _
  | @changed data => exact .changed data _

lemma Entry.Written.again {mode : WriteMode} {bytes : ByteArray} {fileMode times : Nat}
    {e : Option Entry} {data : FileData}
    (h : Written mode bytes fileMode times e (some (.file data))) :
    Written mode bytes fileMode (times + 1) e
      (some (.file { data with bytes := mode.apply data.bytes bytes })) := by
  cases h with
  | kept hnone =>
    subst hnone
    rw [← mode.applied_zero data.bytes bytes, mode.apply_applied]
    exact .changed (Nat.succ_ne_zero _)
  | made hsome =>
    rw [mode.apply_applied]
    exact .made (Nat.succ_ne_zero _)
  | changed hsome =>
    rw [mode.apply_applied]
    exact .changed (Nat.succ_ne_zero _)

namespace FilesAfter
variable {w : World} {mode : WriteMode} {bytes : ByteArray} {targets : List Path}
  {files : FileTree} {target : Path}

lemma nil (w : World) (mode : WriteMode) (bytes : ByteArray) :
    FilesAfter w mode bytes [] w.files where
  rules := rfl
  entries l := .kept rfl
  apart l m data data' hfree hfile := by
    rw [hfree] at hfile
    cases hfile

lemma count_concat (l : Location) : (targets ++ [target]).countP (w.writesTo bytes l) =
    targets.countP (w.writesTo bytes l) + if w.writesTo bytes l target then 1 else 0 := by
  simp [List.countP_append, List.countP_singleton]

section
variable (h : FilesAfter w mode bytes targets files)
include h

lemma overwritten : w.files.Overwritten files := ⟨h.rules, fun l => (h.entries l).stays⟩

lemma keepsWays : w.files.KeepsWays files := h.overwritten.keepsWays

lemma takesFile {l : Location} (hfree : w.files.get? l = none) : files.TakesFile l :=
  h.overwritten.takesFile hfree

/-- A target at which nothing is written leaves all files as they are. -/
lemma skip (hnone : ∀ l, w.writesTo bytes l target = false) :
    FilesAfter w mode bytes (targets ++ [target]) files where
  rules := h.rules
  entries l := by
    rw [List.countP_append, List.countP_singleton, hnone l]
    exact h.entries l
  apart := h.apart

lemma locate {spot : Spot} (hspot : w.locate target = .ok spot) :
    { w with files }.locate target = .ok (spot.renewed files) := by
  refine World.locate_kept h.keepsWays hspot ?_
  rintro l rfl
  exact h.takesFile (World.locate_stands hspot).2

lemma locate_error {fault : FileFault} (hnone : w.locate target = .error fault) :
    ∃ fault', { w with files }.locate target = .error fault' := by
  rw [World.locate, World.locateFrom] at hnone ⊢
  split at hnone
  next hlong => exact ⟨_, if_pos hlong⟩
  next hshort =>
    rw [if_neg hshort]
    exact FileTree.find_error h.keepsWays (fun l => h.takesFile) hnone

/-- A file that is there was there before or has been made. -/
lemma file_or_made {l : Location} {data : FileData} (hfile : files.get? l = some (.file data)) :
    w.files.get? l = none ∨ w.files.identityAt? l = some data.identity := by
  have hl := h.entries l
  rw [hfile] at hl
  generalize hold : w.files.get? l = entry at hl
  cases hl with
  | kept => exact .inr (by rw [FileTree.identityAt?, hold])
  | made => exact .inl rfl
  | changed => exact .inr (by rw [FileTree.identityAt?, hold])

/-- A file that has been made has the mode of new files, and a target that leads there. -/
lemma mode_of_made {l : Location} {data : FileData} (hfree : w.files.get? l = none)
    (hfile : files.get? l = some (.file data)) :
    data.mode = w.fileMode ∧ ∃ target ∈ targets, w.writesTo bytes l target = true := by
  have hl := h.entries l
  rw [hfree, hfile] at hl
  generalize hcount : targets.countP (w.writesTo bytes l) = times at hl
  cases hl with
  | made hsome =>
    rw [← hcount, ← Nat.pos_iff_ne_zero, List.countP_pos_iff] at hsome
    exact ⟨rfl, hsome⟩

/-- The names of a file that was there are its names still. -/
lemma identityAt?_iff {l m : Location} {data data' : FileData}
    (hold : w.files.get? l = some (.file data)) (hnew : files.get? l = some (.file data')) :
    w.files.identityAt? m = some data.identity ↔
      ∃ other, files.get? m = some (.file other) ∧ other.identity = data'.identity := by
  obtain ⟨_, hnew'⟩ := h.keepsWays.file hold
  obtain rfl : data' = _ := by simpa [hnew] using hnew'
  constructor
  · intro hm
    rw [FileTree.identityAt?] at hm
    split at hm
    next old hfile =>
      obtain ⟨_, hother⟩ := h.keepsWays.file hfile
      exact ⟨_, hother, Option.some.inj hm⟩
    next => cases hm
  · rintro ⟨other, hother, heq⟩
    obtain hfree | hsame := h.file_or_made hother
    · obtain rfl := h.apart m l other _ hfree hother hnew heq
      rw [hold] at hfree
      cases hfree
    · rw [hsame, heq]

/-- A target that leads to a free place makes a file there. -/
lemma create {l : Location} (htarget : w.locate target = .ok (.free l))
    (htakes : w.refuses bytes target = false) (hnone : files.get? l = none) :
    FilesAfter w mode bytes (targets ++ [target]) (files.create l bytes w.fileMode) := by
  obtain ⟨hl, hfree⟩ : l ≠ [] ∧ w.files.get? l = none := World.locate_stands htarget
  have hget (m : Location) := FileTree.get?_set files l m
    (.file ⟨bytes, w.fileMode, files.freshIdentity⟩) hl
  refine ⟨h.rules, fun m => ?_, fun a b data data' hold ha hb heq => ?_⟩
  · have hm := h.entries m
    rw [FileTree.create, hget, count_concat, World.writesTo, htakes, World.leadsTo, htarget]
    by_cases hlm : l = m
    · subst hlm
      rw [hfree, hnone] at hm
      generalize targets.countP (w.writesTo bytes l) = times at hm
      cases hm with
      | kept hzero =>
        subst hzero
        have hmade : Entry.Written mode bytes w.fileMode 1 none
            (some (.file ⟨mode.applied .empty bytes 1, w.fileMode, files.freshIdentity⟩)) :=
          .made Nat.one_ne_zero
        simpa [hfree] using hmade
    · simpa [hlm] using hm
  · rw [FileTree.create, hget] at ha hb
    split at ha <;> split at hb
    next hla hlb => exact hla.symm.trans hlb
    next =>
      cases ha
      exact absurd heq.symm (Nat.ne_of_lt (FileTree.identity_lt_fresh hb))
    next =>
      cases hb
      exact absurd heq (Nat.ne_of_lt (FileTree.identity_lt_fresh ha))
    next => exact h.apart a b data data' hold ha hb heq

/-- A target that leads to a file changes it under all its names. -/
lemma rewrite {identity : Nat} (hwrites : ∀ l, w.writesTo bytes l target = true ↔
      ∃ data, files.get? l = some (.file data) ∧ data.identity = identity) :
    FilesAfter w mode bytes (targets ++ [target])
      (files.rewrite identity fun f => { f with bytes := mode.apply f.bytes bytes }) := by
  have hidentity {l : Location} {data : FileData}
      (hdata : (files.rewrite identity fun f =>
        { f with bytes := mode.apply f.bytes bytes }).get? l = some (.file data)) :
      ∃ old, files.get? l = some (.file old) ∧ old.identity = data.identity := by
    rw [FileTree.get?_rewrite, Option.map_eq_some_iff] at hdata
    obtain ⟨old, hold, hchanged⟩ := hdata
    cases old with
    | file f =>
      refine ⟨f, hold, ?_⟩
      rw [Entry.rewrite] at hchanged
      split at hchanged <;> cases hchanged <;> rfl
    | folder | link | device => cases hchanged
  refine ⟨h.rules, fun l => ?_, fun a b data data' hfree ha hb heq => ?_⟩
  · have hl := h.entries l
    rw [FileTree.get?_rewrite, count_concat]
    by_cases hlead : w.writesTo bytes l target = true
    · obtain ⟨data, hdata, hsame⟩ := (hwrites l).1 hlead
      rw [hdata] at hl ⊢
      rw [if_pos hlead, Option.map_some, Entry.rewrite, if_pos hsame]
      exact hl.again
    · rw [if_neg hlead]
      have hsame : (files.get? l).map (Entry.rewrite identity fun f =>
          { f with bytes := mode.apply f.bytes bytes }) = files.get? l := by
        cases hentry : files.get? l with
        | none => rfl
        | some e =>
          cases e with
          | file data =>
            have hother : data.identity ≠ identity := fun heq =>
              hlead ((hwrites l).2 ⟨data, hentry, heq⟩)
            rw [Option.map_some, Entry.rewrite, if_neg hother]
          | folder | link | device => rfl
      rw [hsame]
      exact hl
  · obtain ⟨old, hold, hsame⟩ := hidentity ha
    obtain ⟨old', hold', hsame'⟩ := hidentity hb
    exact h.apart a b old old' hfree hold hold' (hsame.trans (heq.trans hsame'.symm))

/-- The names of a file that has been made where a target leads. -/
lemma leadsTo_free {l m : Location} {data : FileData} (htarget : w.locate target = .ok (.free l))
    (hfile : files.get? l = some (.file data)) :
    w.leadsTo m target = true ↔
      ∃ other, files.get? m = some (.file other) ∧ other.identity = data.identity := by
  rw [World.leadsTo, htarget, decide_eq_true_eq]
  constructor
  · rintro rfl
    exact ⟨data, hfile, rfl⟩
  · rintro ⟨other, hother, hsame⟩
    exact h.apart l m data other (World.locate_stands htarget).2 hfile hother hsame.symm

end

/-! ### One more target -/

/-- One more target is refused or written for what it leads to before any is tried. -/
inductive Next (w : World) (mode : WriteMode) (bytes : ByteArray) (targets : List Path)
    (files : FileTree) (target : Path) : Prop
  | refused (hrefuses : w.refuses bytes target = true)
      (hfiles : FilesAfter w mode bytes (targets ++ [target]) files)
      (hwrite : ∃ error, { w with files }.write mode target bytes =
        (.error (.system error), { w with files }))
  | written {files' : FileTree} (htakes : w.refuses bytes target = false)
      (hfiles : FilesAfter w mode bytes (targets ++ [target]) files')
      (hwrite : { w with files }.write mode target bytes = (.ok (), { w with files := files' }))

section
variable (h : FilesAfter w mode bytes targets files) (hnull : target.hasNull = false)
include h hnull

lemma next_of_closed {spot spot' : Spot} {fault fault' : FileFault}
    (hspot : w.locate target = .ok spot) (hspot' : { w with files }.locate target = .ok spot')
    (hclosed : w.sinkAt spot = .error fault)
    (hclosed' : { w with files }.sinkAt spot' = .error fault') :
    Next w mode bytes targets files target := by
  have hrefuses : w.refuses bytes target = true := by
    simp [World.refuses, World.openToWrite, hnull, hspot, hclosed]
  refine .refused hrefuses (h.skip fun l => by simp [World.writesTo, hrefuses])
    ⟨.file fault' (some target.text), ?_⟩
  simp only [World.write, World.openToWrite, hnull, hspot', hclosed', mapError_error]
  rfl

lemma next_of_nowhere {fault : FileFault} (htarget : w.locate target = .error fault) :
    Next w mode bytes targets files target := by
  have hrefuses : w.refuses bytes target = true := by
    simp [World.refuses, World.openToWrite, hnull, htarget]
  obtain ⟨fault', hlost⟩ := h.locate_error htarget
  refine .refused hrefuses (h.skip fun l => by simp [World.writesTo, hrefuses])
    ⟨.file fault' (some target.text), ?_⟩
  simp only [World.write, World.openToWrite, hnull, hlost]
  rfl

lemma next_of_device {l : Location} {d : Device} (htarget : w.locate target = .ok (.device l d)) :
    Next w mode bytes targets files target := by
  have hlater : { w with files }.locate target = .ok (.device l d) := h.locate htarget
  have hsame : { w with files }.sinkAt (.device l d) = w.sinkAt (.device l d) := by
    simp only [World.sinkAt, h.rules]
  have hskip : FilesAfter w mode bytes (targets ++ [target]) files :=
    h.skip (by simp [World.writesTo, World.leadsTo, htarget])
  cases hsink : w.sinkAt (.device l d) with
  | error fault => exact h.next_of_closed hnull htarget hlater hsink (hsame.trans hsink)
  | ok sink =>
    obtain ⟨_, _, ⟨⟩, -⟩ | ⟨_, ⟨⟩, -⟩ | ⟨_, _, ⟨⟩, rfl, -⟩ := World.sinkAt_eq_ok hsink
    have hopened := World.openToWrite_of_sink hnull htarget hsink
    have hopened' := World.openToWrite_of_sink hnull hlater (hsame.trans hsink)
    by_cases htakes : d.takes bytes = true
    · refine .written (by simp [World.refuses, hopened, htakes]) hskip ?_
      simp [World.write, hopened', World.fill, htakes]
    · refine .refused (by simp [World.refuses, hopened, htakes]) hskip
        ⟨.file .noSpace none, ?_⟩
      simp only [World.write, hopened', World.fill, if_neg htakes, mapError_error]

variable (hroom : ∀ entries l held, w.files.rules.room entries l held bytes = none)
include hroom

lemma next_of_opened {l : Location} {data : FileData} (htakes : w.refuses bytes target = false)
    (hlater : { w with files }.locate target = .ok (.file l data))
    (hgrant : w.files.rules.grant l data.mode .write = .ok ())
    (hleads : ∀ m, w.leadsTo m target = true ↔
      ∃ other, files.get? m = some (.file other) ∧ other.identity = data.identity) :
    Next w mode bytes targets files target := by
  have hsink : { w with files }.sinkAt (.file l data) = .ok (.file l data) := by
    simp only [World.sinkAt, h.rules, hgrant, Except.map]
  have hwrites (m : Location) : w.writesTo bytes m target = true ↔
      ∃ other, files.get? m = some (.file other) ∧ other.identity = data.identity := by
    rw [World.writesTo, htakes, Bool.not_false, Bool.true_and]
    exact hleads m
  refine .written htakes (h.rewrite hwrites) ?_
  simp only [World.write, World.openToWrite_of_sink hnull hlater hsink, World.fill,
      FileTree.taken, h.rules, hroom, mapError_ok]

lemma next_of_file {l : Location} {data : FileData}
    (htarget : w.locate target = .ok (.file l data)) :
    Next w mode bytes targets files target := by
  have hstands : w.files.get? l = some (.file data) := World.locate_stands htarget
  obtain ⟨held, hfile⟩ := h.keepsWays.file hstands
  have hlater := h.locate htarget
  simp only [Spot.renewed, hfile] at hlater
  cases hgrant : w.files.rules.grant l data.mode .write with
  | error fault =>
    have hclosed : w.sinkAt (.file l data) = .error fault := by
      simp [World.sinkAt, hgrant, Except.map]
    have hclosed' : { w with files }.sinkAt (.file l { data with bytes := held }) =
        .error fault := by
      simp [World.sinkAt, h.rules, hgrant, Except.map]
    exact h.next_of_closed hnull htarget hlater hclosed hclosed'
  | ok =>
    have hsink : w.sinkAt (.file l data) = .ok (.file l data) := by
      simp [World.sinkAt, hgrant, Except.map]
    refine h.next_of_opened hnull hroom ?_ hlater hgrant fun m => ?_
    · simp [World.refuses, World.openToWrite_of_sink hnull htarget hsink]
    · rw [World.leadsTo, htarget, decide_eq_true_eq]
      exact h.identityAt?_iff hstands hfile

lemma next_of_free {l : Location} (htarget : w.locate target = .ok (.free l))
    (hagain : w.files.rules.refuse l w.fileMode .write = none) :
    Next w mode bytes targets files target := by
  have hfree : w.files.get? l = none := (World.locate_stands htarget).2
  have hlater := h.locate htarget
  have hsame := FileTree.admits_kept h.keepsWays (fun _ => h.takesFile) ⟨l.dropLast, 0⟩ .write
  cases hadmits : w.files.admits ⟨l.dropLast, 0⟩ .write with
  | error fault =>
    have hclosed : w.sinkAt (.free l) = .error fault := by
      simp [World.sinkAt, hadmits, Except.map]
    obtain hnone | ⟨data, hfile⟩ := h.takesFile hfree
    · have hclosed' : { w with files }.sinkAt (Spot.renewed files (.free l)) = .error fault := by
        simp [Spot.renewed, hnone, World.sinkAt, hsame, hadmits, Except.map]
      exact h.next_of_closed hnull htarget hlater hclosed hclosed'
    · -- No file can have been made where none may be made.
      obtain ⟨-, other, -, hwrites⟩ := h.mode_of_made hfree hfile
      rw [World.admits_of_writesTo hfree hwrites] at hadmits
      cases hadmits
  | ok =>
    have hsink : w.sinkAt (.free l) = .ok (.fresh l) := by
      simp [World.sinkAt, hadmits, Except.map]
    have htakes : w.refuses bytes target = false := by
      simp [World.refuses, World.openToWrite_of_sink hnull htarget hsink]
    obtain hnone | ⟨data, hfile⟩ := h.takesFile hfree
    · simp only [Spot.renewed, hnone] at hlater
      have hsink' : { w with files }.sinkAt (.free l) = .ok (.fresh l) := by
        simp [World.sinkAt, hsame, hadmits, Except.map]
      refine .written htakes (h.create htarget htakes hnone) ?_
      simp only [World.write, World.openToWrite_of_sink hnull hlater hsink', World.fill,
        FileTree.taken, h.rules, hroom]
      rfl
    · simp only [Spot.renewed, hfile] at hlater
      refine h.next_of_opened hnull hroom htakes hlater ?_ fun m => h.leadsTo_free htarget hfile
      rw [(h.mode_of_made hfree hfile).1, Rules.grant, hagain]

/-- One more target is refused or written for what it leads to before any is tried, where the host
takes all that is written and lets files be written that have just been made. -/
lemma next (hagain : ∀ l, w.locate target = .ok (.free l) →
      w.files.rules.refuse l w.fileMode .write = none) :
    Next w mode bytes targets files target := by
  cases htarget : w.locate target with
  | error fault => exact h.next_of_nowhere hnull htarget
  | ok spot =>
    cases spot with
    | folder | link => exact h.next_of_closed hnull htarget (h.locate htarget) rfl rfl
    | device l d => exact h.next_of_device hnull htarget
    | free l => exact h.next_of_free hnull hroom htarget (hagain l htarget)
    | file l data => exact h.next_of_file hnull hroom htarget

end

end FilesAfter

/-- However many targets are tried, each is refused or written for what it leads to before any is
tried. -/
lemma Attempts.apart {w v v' : World} {mode : WriteMode} {bytes : ByteArray} {targets : List Path}
    {files : FileTree} {attempts : List Attempt} (h : Attempts mode bytes v attempts v')
    (hv : v = { w with files }) (hfiles : FilesAfter w mode bytes targets files)
    (hroom : ∀ entries l held, w.files.rules.room entries l held bytes = none)
    (hnull : ∀ a ∈ attempts, a.target.hasNull = false)
    (hagain : ∀ a ∈ attempts, ∀ l, w.locate a.target = .ok (.free l) →
      w.files.rules.refuse l w.fileMode .write = none) :
    (∀ a ∈ attempts, a.refusal.isSome = w.refuses bytes a.target) ∧ ∃ files',
      v' = { w with files := files' } ∧
        FilesAfter w mode bytes (targets ++ attempts.map Attempt.target) files' := by
  induction h generalizing targets files with
  | nil v => exact ⟨by simp, files, hv, by simpa using hfiles⟩
  | @written target attempts v v₁ v₂ hwrite hrest ih =>
    obtain ⟨htarget, hnull⟩ := List.forall_mem_cons.1 hnull
    obtain ⟨hfree, hagain⟩ := List.forall_mem_cons.1 hagain
    rw [hv] at hwrite
    cases hfiles.next htarget hroom hfree with
    | refused hrefuses hfiles' hrefused =>
      obtain ⟨error, hrefused⟩ := hrefused
      cases hwrite.symm.trans hrefused
    | written htakes hfiles' hwritten =>
      obtain ⟨hall, files'', hv', hfiles''⟩ :=
        ih (congrArg Prod.snd (hwrite.symm.trans hwritten)) hfiles' hnull hagain
      refine ⟨List.forall_mem_cons.2 ⟨htakes.symm, hall⟩, files'', hv', ?_⟩
      simpa using hfiles''
  | @refused target error attempts v v₁ v₂ hwrite hrest ih =>
    obtain ⟨htarget, hnull⟩ := List.forall_mem_cons.1 hnull
    obtain ⟨hfree, hagain⟩ := List.forall_mem_cons.1 hagain
    rw [hv] at hwrite
    cases hfiles.next htarget hroom hfree with
    | refused hrefuses hfiles' hrefused =>
      obtain ⟨error, hrefused⟩ := hrefused
      obtain ⟨hall, files'', hv', hfiles''⟩ :=
        ih (congrArg Prod.snd (hwrite.symm.trans hrefused)) hfiles' hnull hagain
      refine ⟨List.forall_mem_cons.2 ⟨hrefuses.symm, hall⟩, files'', hv', ?_⟩
      simpa using hfiles''
    | written htakes hfiles' hwritten => cases hwrite.symm.trans hwritten

/-- Each target of a clause is refused or written for what it leads to before any is tried, and
there is one message for each that is refused, in their order. In the end a file has been written as
often as targets that are not refused lead to it, under whatever name: it has the bytes of the text,
or the text once for each of them after what it held. All else is as it was. This asks of the host
that it takes all of the text once a file has been opened, and that it lets a file be written again
which a target has just made. -/
theorem targets_written_apart (c : Clause) (text : String) (r : Run)
    (hnull : ∀ target ∈ c.targets, target.hasNull = false)
    (hroom : ∀ entries l held, r.world.files.rules.room entries l held text.toByteArray = none)
    (hagain : ∀ target ∈ c.targets, ∀ l, r.world.locate target = .ok (.free l) →
      r.world.files.rules.refuse l r.world.fileMode .write = none) :
    ∃ attempts files,
      (c.writeTargets text r).1 = .ok (attempts.filterMap Attempt.diagnostic?) ∧
      (c.writeTargets text r).2.world = { r.world with files } ∧
      attempts.map Attempt.target = c.targets ∧
      Attempts c.mode text.toByteArray r.world attempts { r.world with files } ∧
      (∀ a ∈ attempts, a.refusal.isSome = r.world.refuses text.toByteArray a.target) ∧
      ∀ l, Entry.Written c.mode text.toByteArray r.world.fileMode
        (c.targets.countP (r.world.writesTo text.toByteArray l)) (r.world.files.get? l)
        (files.get? l) := by
  obtain ⟨attempts, w, hattempts, htargets, hall⟩ :=
    exists_attempts c.mode text.toByteArray c.targets hnull r
  have hmem : ∀ a ∈ attempts, a.target ∈ c.targets := fun a ha =>
    htargets ▸ List.mem_map_of_mem ha
  obtain ⟨hrefuses, files, rfl, hfiles⟩ :=
    hattempts.apart rfl (FilesAfter.nil r.world c.mode text.toByteArray) hroom
      (fun a ha => hnull a.target (hmem a ha)) fun a ha => hagain a.target (hmem a ha)
  refine ⟨attempts, files, congrArg Prod.fst hall, congrArg (·.2.world) hall, htargets,
    hattempts, hrefuses, fun l => ?_⟩
  simpa [htargets] using hfiles.entries l

/-- Two files with two names each among the targets, between a folder and a name below a file. -/
theorem targets_written_apart_of_repeated :
    let old : FileData := ⟨"x".toByteArray, 0o600, 0⟩
    let r := Run.begin (.ofEntries [(["d"], .usualFolder), (["f"], .file old)])
    let c : Clause := ⟨.append, [⟨.here, ["f"]⟩, ⟨.here, ["d"]⟩, ⟨.here, ["new"]⟩,
      ⟨.here, ["d", "..", "f"]⟩, ⟨.here, ["new", "x"]⟩, ⟨.root, ["new"]⟩]⟩
    (∀ target ∈ c.targets, target.hasNull = false) ∧
      ∃ (attempts : List Attempt) (files : FileTree),
      (c.writeTargets "a" r).1 = .ok (attempts.filterMap Attempt.diagnostic?) ∧
      (c.writeTargets "a" r).2.world = { r.world with files } ∧
      attempts.map (·.refusal.isSome) = [false, true, false, false, true, false] ∧
      files.get? ["f"] = some (.file { old with bytes := "xaa".toByteArray }) ∧
      ∃ identity, files.get? ["new"] = some (.file ⟨"aa".toByteArray, 0o666, identity⟩) := by
  intro old r c
  have hnull : ∀ target ∈ c.targets, target.hasNull = false := by simp [c, Path.hasNull]
  obtain ⟨attempts, files, hmessages, hworld, htargets, -, hrefused, hentries⟩ :=
    targets_written_apart c "a" r hnull (fun _ _ _ => rfl) fun _ _ _ _ => rfl
  refine ⟨hnull, attempts, files, hmessages, hworld, ?_, ?_, ?_⟩
  · calc attempts.map (·.refusal.isSome)
      _ = attempts.map (r.world.refuses "a".toByteArray ·.target) := List.map_congr_left hrefused
      _ = c.targets.map (r.world.refuses "a".toByteArray) := by rw [← htargets, List.map_map]; rfl
      _ = [false, true, false, false, true, false] := by cbv
  · have hf := hentries ["f"]
    rw [show c.targets.countP (r.world.writesTo "a".toByteArray ["f"]) = 2 by cbv,
      show r.world.files.get? ["f"] = some (.file old) from rfl] at hf
    generalize files.get? ["f"] = entry at hf
    cases hf with
    | kept hnone => cases hnone
    | changed => decide
  · have hnew := hentries ["new"]
    rw [show c.targets.countP (r.world.writesTo "a".toByteArray ["new"]) = 2 by cbv,
      show r.world.files.get? ["new"] = none from rfl] at hnew
    generalize files.get? ["new"] = entry at hnew
    cases hnew with
    | kept hnone => cases hnone
    | @made identity =>
      have hbytes : c.mode.applied .empty "a".toByteArray 2 = "aa".toByteArray := by decide
      have hmode : r.world.fileMode = 0o666 := by decide
      exact ⟨identity, by rw [hbytes, hmode]⟩

/-- The rules of a host whose files hold one byte at most of what is written to them. -/
def Rules.limited : Rules :=
  { privileged with
    room := fun _ _ _ new =>
      if 1 < new.size then some (1, .numbered 27 "File too large") else none }

/-- A device that takes a text holds nothing of it, and the full one is opened and takes none. A
file of a limited size is opened and loses its bytes, and one that has just been made may not be
written again under a mask that takes the permission away. -/
theorem targets_written_and_lost :
    (¬ ∀ (c : Clause) (text : String) (r : Run), (∀ target ∈ c.targets, target.hasNull = false) →
      c.op = .output → (c.writeTargets text r).1 = .ok [] →
      ∀ target ∈ c.targets, (c.writeTargets text r).2.world.read target = .ok text.toByteArray) ∧
    (¬ ∀ (c : Clause) (text : String) (r : Run), (∀ target ∈ c.targets, target.hasNull = false) →
      c.op = .output → (∀ target ∈ c.targets, r.world.opens target = true) →
      (c.writeTargets text r).1 = .ok []) ∧
    (¬ ∀ (c : Clause) (text : String) (r : Run), (∀ target ∈ c.targets, target.hasNull = false) →
      c.op = .output → ∀ target ∈ c.targets, ∀ bytes, r.world.read target = .ok bytes →
      (c.writeTargets text r).2.world.read target = .ok bytes ∨
        (c.writeTargets text r).2.world.read target = .ok text.toByteArray) ∧
    ¬ ∀ (c : Clause) (text : String) (r : Run), (∀ target ∈ c.targets, target.hasNull = false) →
      c.op = .output → (∀ target ∈ c.targets, r.world.refuses text.toByteArray target = false) →
      (c.writeTargets text r).1 = .ok [] := by
  let null : Path := ⟨.root, ["dev", "null"]⟩
  let full : Path := ⟨.root, ["dev", "full"]⟩
  let target : Path := ⟨.root, ["f"]⟩
  let r := Run.begin (.ofEntries [(["dev"], .usualFolder), (["dev", "null"], .device .null),
    (["dev", "full"], .device .full)])
  have hnulls : null.hasNull = false ∧ full.hasNull = false ∧ target.hasNull = false := by
    simp [null, full, target, Path.hasNull]
  refine ⟨fun hholds => ?_, fun hopened => ?_, fun hkept => ?_, fun hwritten => ?_⟩
  · have hlost := hholds ⟨.output, [null]⟩ "a" r (by simpa using hnulls.1) rfl (by cbv) null
      List.mem_cons_self
    have hread : ((Clause.mk .output [null]).writeTargets "a" r).2.world.read null =
      .ok .empty := by cbv
    rw [hread] at hlost
    exact absurd (Except.ok.inj hlost) (by decide)
  · have hrefused := hopened ⟨.output, [full]⟩ "a" r (by simpa using hnulls.2.1) rfl
      (by simpa using show r.world.opens full = true by cbv)
    have hmessage : ((Clause.mk .output [full]).writeTargets "a" r).1 =
      .ok ["/dev/full: cannot write output: No space left on device"] := by cbv
    cases hmessage.symm.trans hrefused
  · let old : Entry := .file ⟨"old".toByteArray, 0o644, 0⟩
    let r : Run := .begin { World.ofEntries [] with files := ⟨[(["f"], old)], .limited⟩ }
    have hread : r.world.read target = .ok "old".toByteArray := by cbv
    have hcut : ((Clause.mk .output [target]).writeTargets "new" r).2.world.read target =
      .ok "n".toByteArray := by cbv
    have hneither := hkept ⟨.output, [target]⟩ "new" r (by simpa using hnulls.2.2) rfl target
      List.mem_cons_self _ hread
    rw [hcut] at hneither
    exact absurd hneither (by decide)
  · let owned : Rules := .byMode fun _ => true
    let r : Run := .begin { World.ofEntries [] with files := ⟨[], owned⟩, mask := 0o222 }
    have hmessages := hwritten ⟨.output, [target, target]⟩ "a" r (by simpa using hnulls.2.2) rfl
      (by simpa using show r.world.refuses "a".toByteArray target = false by cbv)
    have hmessage : ((Clause.mk .output [target, target]).writeTargets "a" r).1 =
      .ok ["/f: cannot write output: Permission denied"] := by cbv
    cases hmessage.symm.trans hmessages

end CommandShell
