import CommandShell.Completion
import CommandShell.Proofs.Escapes
import CommandShell.Proofs.FolderEntries

/-!
# What completes a text

The part of a text up to its last slash says where to look, the rest how the names begin that are
looked for. What is shown are the names in that folder which begin so, in increasing order; the dot
of a hidden name must have been typed. Each name is looked at behind the path of the folder it
stands in. Where the host does not let one of them be looked at nothing is shown at all.
-/
namespace CommandShell
open Text

/-! ## Paths to folders -/

namespace World
variable {w : World} {p : Path} {fault : FileFault}

/-- Whether a path leads to a folder, through links if need be. -/
def leadsToFolder (w : World) (p : Path) : Bool :=
  match w.isFolder p with
  | .ok leads => leads
  | .error _ => false

/-- Whether the host does not say if a path leads to a folder. -/
def conceals (w : World) (p : Path) : Bool := !(w.isFolder p).isOk

/-- Whether the names in the folder at a location are what is listed under a path. -/
def Lists (w : World) (p : Path) (location : Location) : Prop :=
  w.locate p = .ok (.folder ⟨location, 0⟩) ∧ w.files.admits ⟨location, 0⟩ .read = .ok ()

lemma isFolder_of_not_conceals (h : w.conceals p = false) :
    w.isFolder p = .ok (w.leadsToFolder p) := by
  unfold leadsToFolder
  cases hfolder : w.isFolder p with
  | ok leads => rfl
  | error e => simp [conceals, hfolder, Except.isOk, Except.toBool] at h

lemma leadsToFolder_iff (hnull : p.hasNull = false) :
    w.leadsToFolder p = true ↔ ∃ place, w.locate p = .ok (.folder place) := by
  unfold leadsToFolder isFolder
  rw [hnull]
  cases w.locate p with
  | ok spot => cases spot <;> simp
  | error fault => cases hnowhere : leadsNowhere fault <;> simp [hnowhere]

/-- The host does not say so where it refuses the path for another reason than that nothing is
there. -/
lemma conceals_iff (hnull : p.hasNull = false) :
    w.conceals p = true ↔ ∃ fault, w.locate p = .error fault ∧ leadsNowhere fault = false := by
  unfold conceals isFolder
  rw [hnull]
  cases w.locate p with
  | ok spot => cases spot <;> simp [Except.isOk, Except.toBool]
  | error fault =>
    cases hnowhere : leadsNowhere fault <;> simp [hnowhere, Except.isOk, Except.toBool]

/-- What may not be looked up in a folder that can be listed is not therefore missing. -/
lemma Lists.leadsNowhere_eq_false {location : Location} {access : Access}
    (h : w.Lists p location) (hrefuse : w.files.admits ⟨location, 0⟩ access = .error fault) :
    leadsNowhere fault = false := by
  have hread := h.2
  simp only [FileTree.admits, Nat.lt_irrefl, if_false] at hread hrefuse
  split at hrefuse
  · unfold Rules.grant at hrefuse
    split at hrefuse
    · cases hrefuse
    next denial _ =>
      cases hrefuse
      cases denial <;> rfl
  next hother =>
    split at hread
    next mode hfolder => exact absurd hfolder (hother mode)
    · cases hread

/-- The names in a folder that can be listed are listed; otherwise there is an error of the host. -/
lemma list_cases (w : World) (hnull : p.hasNull = false) :
    (∃ location, w.Lists p location ∧ w.list p = .ok (w.files.names location)) ∨
    (∀ location, ¬ w.Lists p location) ∧ ∃ error, w.list p = .error (.system error) := by
  unfold list Lists
  rw [hnull]
  cases w.locate p with
  | error fault => exact .inr ⟨by simp, _, rfl⟩
  | ok spot =>
    cases spot with
    | folder place =>
      cases hread : w.files.admits place .read with
      | error fault =>
        refine .inr ⟨?_, _, by simp only [hread]; rfl⟩
        rintro location ⟨⟨⟩, hlists⟩
        rw [hread] at hlists
        cases hlists
      | ok =>
        obtain ⟨location, _ | lost⟩ := place
        · exact .inl ⟨location, ⟨rfl, hread⟩, by simp [hread]⟩
        · exact .inr ⟨by simp, _, by simp only [hread]; rfl⟩
    | _ => exact .inr ⟨by simp, _, rfl⟩

end World

/-! ## Home folders -/

lemma HoldsNull.of_dropTrailingSlashes {text : String} (h : HoldsNull (dropTrailingSlashes text)) :
    HoldsNull text := by
  simp only [HoldsNull, dropTrailingSlashes, String.toList_ofList, List.mem_reverse] at h
  exact List.mem_reverse.1 ((List.dropWhile_sublist _).subset h)

/-- Home folders as hosts have them: none has a null character. -/
def Homes.NullFree (homes : Homes) : Prop :=
  ∀ user folder, homes.of user = some folder → ¬ HoldsNull folder

lemma HoldsNull.of_expandTilde {homes : Homes} {text : String} (hhomes : homes.NullFree)
    (h : HoldsNull (expandTilde homes text)) : HoldsNull text := by
  unfold expandTilde at h
  split at h
  next rest htext =>
    dsimp only at h
    split at h
    · exact h
    next folder hfolder =>
      split at h
      · exact absurd h (by unfold HoldsNull; decide)
      · rw [HoldsNull, String.toList_append, List.mem_append] at h
        obtain hback | hrest := h
        · exact absurd (HoldsNull.of_dropTrailingSlashes hback) (hhomes _ _ hfolder)
        · rw [String.toList_ofList] at hrest
          rw [HoldsNull, htext]
          exact List.mem_cons_of_mem _ ((List.dropWhile_sublist _).subset hrest)
  · exact h

namespace Completion
variable {w : World} {text head stem name more : String} {folder : Path} {location : Location}

/-! ## Where to look, and for what -/

/-- A text is divided after its last slash. -/
structure Divides (text head stem : String) : Prop where
  joined : head ++ stem = text
  ends : head = "" ∨ ∃ front, head.toList = front ++ ['/']
  free : '/' ∉ stem.toList

lemma Divides.split_eq (h : Divides text head stem) : split text = (head, stem) := by
  have hfree : ∀ c ∈ stem.toList.reverse, (c != '/') = true := by
    intro c hc
    rw [bne_iff_ne]
    rintro rfl
    exact h.free (List.mem_reverse.1 hc)
  have hback : text.toList.reverse = stem.toList.reverse ++ head.toList.reverse := by
    rw [← h.joined, String.toList_append, List.reverse_append]
  unfold split
  dsimp only
  rw [hback, List.dropWhile_append_of_pos hfree, List.takeWhile_append_of_pos hfree]
  obtain rfl | ⟨front, hfront⟩ := h.ends
  · simp
  · have hhead : head = String.ofList (front ++ ['/']) := by rw [← hfront, String.ofList_toList]
    rw [hfront, hhead]
    simp

/-- So every text is divided, in one way. -/
lemma exists_divides (text : String) : ∃ head stem, Divides text head stem := by
  refine ⟨(split text).1, (split text).2, ?_, ?_, ?_⟩
  · rw [split, ← String.ofList_append, ← List.reverse_append, List.takeWhile_append_dropWhile,
      List.reverse_reverse, String.ofList_toList]
  · rw [split]
    cases hback : text.toList.reverse.dropWhile (· != '/') with
    | nil => exact .inl rfl
    | cons c front =>
      have hc := List.head_dropWhile_not (· != '/') (l := text.toList.reverse) (by simp [hback])
      simp only [hback, List.head_cons, bne_eq_false_iff_eq] at hc
      exact .inr ⟨front.reverse, by simp [hc]⟩
  · rw [split, String.toList_ofList, List.mem_reverse]
    intro hslash
    simpa using List.mem_takeWhile_imp hslash

lemma Divides.append (h : Divides text head stem) (hmore : '/' ∉ more.toList) :
    Divides (text ++ more) head (stem ++ more) where
  joined := by rw [← h.joined, String.append_assoc]
  ends := h.ends
  free := by simp [h.free, hmore]

/-- The folder whose names complete a text. -/
def soughtIn (w : World) (head : String) : Path := .ofString (expandTilde w.homes head)

lemma soughtIn_of_no_tilde (h : head.toList.head? ≠ some '~') :
    soughtIn w head = .ofString head := by
  unfold soughtIn expandTilde
  split
  next hhead => simp [hhead] at h
  · rfl

/-- Without a slash it is the working folder, if names may be looked up in it. -/
lemma locate_soughtIn_empty (w : World) :
    w.locate (soughtIn w "") = (w.files.admits w.place .search).map fun _ => .folder w.place := by
  have hsearch : w.locate (soughtIn w "") = w.files.find true (mostLinks + 1) w.place ["."] := rfl
  rw [hsearch, FileTree.find, FileTree.walk]
  cases w.files.admits w.place .search <;> rfl

lemma startsWith_iff : startsWith stem name = true ↔ stem.toList <+: name.toList := by
  simp [startsWith]

lemma isHidden_iff : isHidden name = true ↔ name.toList.head? = some '.' := by
  rw [isHidden, startsWith_iff]
  cases hname : name.toList <;> simp [eq_comm]

/-- A name completes its beginning; a dot in front has to be there. -/
lemma completes_iff : completes stem name = true ↔
    stem.toList <+: name.toList ∧
      (name.toList.head? = some '.' → stem.toList.head? = some '.') := by
  rw [← startsWith_iff, ← isHidden_iff, ← isHidden_iff, completes]
  cases isHidden name <;> simp

/-! ## The names that are offered -/

/-- The names that a folder offers for the beginning of one, in their order. -/
structure Offered (t : FileTree) (location : Location) (stem : String) (names : List String) :
    Prop where
  increasing : names.Pairwise (· < ·)
  mem_iff : ∀ name, name ∈ names ↔ (t.get? (location ++ [name])).isSome = true ∧
    stem.toList <+: name.toList ∧ (name.toList.head? = some '.' → stem.toList.head? = some '.')

lemma Offered.unique {t : FileTree} {names others : List String}
    (h : Offered t location stem names) (hothers : Offered t location stem others) :
    names = others := by
  have hsame : names.Perm others := by
    refine (List.perm_ext_iff_of_nodup (h.increasing.imp ne_of_lt)
      (hothers.increasing.imp ne_of_lt)).2 fun name => ?_
    rw [h.mem_iff, hothers.mem_iff]
  exact hsame.eq_of_pairwise (fun _ _ _ _ hab hba => absurd hab (lt_asymm hba)) h.increasing
    hothers.increasing

lemma offered_filter (htree : w.files.Proper) (location : Location) (stem : String) :
    Offered w.files location stem ((w.files.names location).filter (completes stem)) where
  increasing := (htree.names_increasing location).filter _
  mem_iff name := by rw [List.mem_filter, FileTree.mem_names, completes_iff]

/-- A name as it is shown. -/
def shown (w : World) (folder : Path) (head name : String) : String :=
  head ++ name ++ if w.leadsToFolder (folder.child name) then "/" else ""

/-- A look at a name, to show it. -/
def showing (w : World) (folder : Path) (head name : String) : Except Escape String :=
  (w.isFolder (folder.child name)).map fun leadsOn => head ++ name ++ if leadsOn then "/" else ""

lemma showing_of_not_conceals (h : w.conceals (folder.child name) = false) (head : String) :
    showing w folder head name = .ok (shown w folder head name) := by
  rw [showing, World.isFolder_of_not_conceals h]
  rfl

section
variable {α β ε : Type} {f : α → Except ε β} {g : α → β} {xs : List α}

/-- Mapping with what fails at some gives all if it fails at none of them. -/
lemma mapM_of_ok (h : ∀ x ∈ xs, f x = .ok (g x)) : xs.mapM f = .ok (xs.map g) := by
  induction xs with
  | nil => rfl
  | cons x xs ih =>
    rw [List.mapM_cons, h x List.mem_cons_self, ih fun y hy => h y (List.mem_cons_of_mem _ hy)]
    rfl

lemma mapM_of_first {bad : α → Bool} {x : α} {e : ε} (h : xs.find? bad = some x)
    (hgood : ∀ y, bad y = false → f y = .ok (g y)) (hbad : f x = .error e) :
    xs.mapM f = .error e := by
  induction xs with
  | nil => cases h
  | cons y xs ih =>
    rw [List.find?_cons] at h
    rw [List.mapM_cons]
    cases hy : bad y with
    | true =>
      rw [hy] at h
      obtain rfl : y = x := Option.some.inj h
      rw [hbad]
      rfl
    | false =>
      rw [hy] at h
      rw [hgood y hy, ih h]
      rfl

end

/-- The names in the folder that is sought; there are none if it cannot be listed. -/
def namesIn (w : World) (head : String) : List String :=
  match w.list (soughtIn w head) with
  | .ok names => names
  | .error _ => []

lemma namesIn_of_lists (hnull : (soughtIn w head).hasNull = false)
    (hlists : w.Lists (soughtIn w head) location) : namesIn w head = w.files.names location := by
  obtain ⟨other, hother, hlist⟩ | ⟨hnone, -⟩ := w.list_cases hnull
  · cases hother.1.symm.trans hlists.1
    simp only [namesIn, hlist]
  · exact absurd hlists (hnone location)

lemma namesIn_of_unlisted (hnull : (soughtIn w head).hasNull = false)
    (hlists : ∀ location, ¬ w.Lists (soughtIn w head) location) : namesIn w head = [] := by
  obtain ⟨location, hlocate, -⟩ | ⟨-, error, hlist⟩ := w.list_cases hnull
  · exact absurd hlocate (hlists location)
  · simp only [namesIn, hlist]

/-- The names that complete a text are looked at one after the other. -/
lemma candidates_eq (hdivides : Divides text head stem)
    (hnull : (soughtIn w head).hasNull = false) :
    candidates w text =
      ((namesIn w head).filter (completes stem)).mapM (showing w (soughtIn w head) head) := by
  unfold candidates namesIn
  rw [hdivides.split_eq]
  dsimp only
  rw [show Path.ofString (expandTilde w.homes head) = soughtIn w head from rfl]
  obtain ⟨location, -, hlist⟩ | ⟨-, error, hlist⟩ := w.list_cases hnull
  · simp only [hlist]
    rfl
  · rw [hlist]
    rfl

lemma candidates_of_none (hdivides : Divides text head stem)
    (hnull : (soughtIn w head).hasNull = false)
    (hnone : ∀ name ∈ (namesIn w head).filter (completes stem),
      w.conceals ((soughtIn w head).child name) = false) :
    candidates w text =
      .ok (((namesIn w head).filter (completes stem)).map (shown w (soughtIn w head) head)) := by
  rw [candidates_eq hdivides hnull]
  exact mapM_of_ok fun name hname => showing_of_not_conceals (hnone name hname) head

/-- The first that cannot be looked at is what all fail with. -/
lemma candidates_of_first (hdivides : Divides text head stem)
    (hnull : (soughtIn w head).hasNull = false)
    (hfirst : ((namesIn w head).filter (completes stem)).find?
      (fun name => w.conceals ((soughtIn w head).child name)) = some name) :
    ∃ e, w.isFolder ((soughtIn w head).child name) = .error e ∧ candidates w text = .error e := by
  have hconceals := List.find?_some hfirst
  cases hlook : w.isFolder ((soughtIn w head).child name) with
  | ok leads => simp [World.conceals, hlook, Except.isOk, Except.toBool] at hconceals
  | error e =>
    refine ⟨e, rfl, (candidates_eq hdivides hnull).trans ?_⟩
    refine mapM_of_first hfirst (fun y hy => showing_of_not_conceals hy head) ?_
    rw [showing, hlook]
    rfl

/-- What is found are all names that complete the text, each of which can be looked at. -/
lemma found_eq {found : List String} (hdivides : Divides text head stem)
    (hnull : (soughtIn w head).hasNull = false) (h : candidates w text = .ok found) :
    (∀ name ∈ (namesIn w head).filter (completes stem),
      w.conceals ((soughtIn w head).child name) = false) ∧
    found = ((namesIn w head).filter (completes stem)).map (shown w (soughtIn w head) head) := by
  cases hfirst : ((namesIn w head).filter (completes stem)).find?
      fun name => w.conceals ((soughtIn w head).child name) with
  | some name =>
    obtain ⟨e, -, hfails⟩ := candidates_of_first hdivides hnull hfirst
    rw [h] at hfails
    cases hfails
  | none =>
    have hnone : ∀ name ∈ (namesIn w head).filter (completes stem),
        w.conceals ((soughtIn w head).child name) = false := by
      simpa using List.find?_eq_none.1 hfirst
    rw [candidates_of_none hdivides hnull hnone] at h
    exact ⟨hnone, (Except.ok.inj h).symm⟩

lemma prefix_shown (hdivides : Divides text head stem) (h : completes stem name = true) :
    text.toList <+: (shown w folder head name).toList := by
  obtain ⟨rest, hrest⟩ := (completes_iff.1 h).1
  refine ⟨rest ++ (if w.leadsToFolder (folder.child name) then "/" else "").toList, ?_⟩
  rw [← hdivides.joined, shown, String.toList_append, String.toList_append, String.toList_append,
    ← hrest]
  simp only [List.append_assoc]

/-! ## Asking for one after the other -/

/-- The answers to the positions from one on, up to the first at which there is none. -/
inductive Answers (w : World) (text : String) : Nat → List String → Prop
  | done {position : Nat} (h : complete w text position = .ok none) : Answers w text position []
  | more {position : Nat} {answer : String} {rest : List String}
      (h : complete w text position = .ok (some answer))
      (hrest : Answers w text (position + 1) rest) : Answers w text position (answer :: rest)

lemma complete_eq {found : List String} (h : candidates w text = .ok found) (position : Nat) :
    complete w text position = .ok found[position]? := by
  unfold complete
  simp [h, pick]

lemma answers_iff {found answers : List String} (h : candidates w text = .ok found)
    (position : Nat) : Answers w text position answers ↔ answers = found.drop position := by
  constructor
  · intro hanswers
    induction hanswers with
    | @done position hdone =>
      rw [complete_eq h, Except.ok.injEq, List.getElem?_eq_none_iff] at hdone
      exact (List.drop_eq_nil_of_le hdone).symm
    | @more position answer rest hanswer _ ih =>
      rw [complete_eq h, Except.ok.injEq, List.getElem?_eq_some_iff] at hanswer
      obtain ⟨hlt, rfl⟩ := hanswer
      rw [ih, List.drop_eq_getElem_cons hlt]
  · intro hanswers
    induction answers generalizing position with
    | nil =>
      refine .done ?_
      rw [complete_eq h, List.getElem?_eq_none_iff.2 (List.drop_eq_nil_iff.1 hanswers.symm)]
    | cons answer rest ih =>
      have hlt : position < found.length := by
        by_contra hge
        rw [List.drop_eq_nil_of_le (Nat.le_of_not_lt hge)] at hanswers
        cases hanswers
      rw [List.drop_eq_getElem_cons hlt, List.cons.injEq] at hanswers
      refine .more ?_ (ih (position + 1) hanswers.2)
      rw [complete_eq h, List.getElem?_eq_getElem hlt, hanswers.1]

/-! ## Completion -/

lemma soughtIn_noNull (hdivides : Divides text head stem) (hnull : ¬HoldsNull text)
    (hhomes : w.homes.NullFree) : (soughtIn w head).hasNull = false := by
  by_contra hholds
  have hhead := HoldsNull.of_expandTilde hhomes (.of_hasNull (eq_true_of_ne_false hholds))
  refine hnull ?_
  rw [HoldsNull, ← hdivides.joined, String.toList_append]
  exact List.mem_append_left _ hhead

lemma child_noNull (hfolder : folder.hasNull = false) (hname : IsFileName name) :
    (folder.child name).hasNull = false := by
  simpa [Path.hasNull, Path.child, hname.noNull] using hfolder

/-- What the host says about the path of a name in a folder that can be listed. A link leads on to
somewhere else; what else stands there is found, unless the path is too long or names may not be
looked up in the folder. -/
structure ChildLookup (w : World) (folder : Path) (location : Location) (name : String) :
    Prop where
  leads_iff : w.leadsToFolder (folder.child name) = true ↔
    ∃ place, w.locate (folder.child name) = .ok (.folder place)
  conceals_iff : w.conceals (folder.child name) = true ↔
    ∃ fault, w.locate (folder.child name) = .error fault ∧ World.leadsNowhere fault = false
  locate_eq : ∀ e, w.files.get? (location ++ [name]) = some e → (∀ target, e ≠ .link target) →
    w.locate (folder.child name) =
      if longestPath < (folder.child name).text.utf8ByteSize then .error .nameTooLong
      else (w.files.admits ⟨location, 0⟩ .search).map fun _ => e.spotAt (location ++ [name])
  refused : ∀ fault, w.files.admits ⟨location, 0⟩ .search = .error fault →
    World.leadsNowhere fault = false

lemma childLookup_of_lists (hnull : folder.hasNull = false) (hlists : w.Lists folder location)
    (hname : IsFileName name) : ChildLookup w folder location name where
  leads_iff := World.leadsToFolder_iff (child_noNull hnull hname)
  conceals_iff := World.conceals_iff (child_noNull hnull hname)
  locate_eq _ := World.locate_child hlists.1 hname
  refused _ := hlists.leadsNowhere_eq_false

namespace ChildLookup
variable {e : Entry} (h : ChildLookup w folder location name)
  (hstands : w.files.get? (location ++ [name]) = some e) (hlink : ∀ target, e ≠ .link target)
include h hstands hlink

lemma conceals_entry : w.conceals (folder.child name) = true ↔
    longestPath < (folder.child name).text.utf8ByteSize ∨
      w.files.admits ⟨location, 0⟩ .search ≠ .ok () := by
  rw [h.conceals_iff, h.locate_eq e hstands hlink]
  split
  next hlong => simp [hlong, World.leadsNowhere]
  next hshort =>
    cases hsearch : w.files.admits ⟨location, 0⟩ .search with
    | error fault => simp [hshort, Except.map, h.refused fault hsearch]
    | ok => simp [hshort, Except.map]

lemma leads_entry (hseen : w.conceals (folder.child name) = false) :
    w.leadsToFolder (folder.child name) = true ↔ ∃ mode, e = .folder mode := by
  rw [← Bool.not_eq_true, h.conceals_entry hstands hlink, not_or, not_not] at hseen
  rw [h.leads_iff, h.locate_eq e hstands hlink, if_neg hseen.1, hseen.2]
  cases e <;> simp [Entry.spotAt, Except.map]

end ChildLookup

/-- Where the folder in which the names of a text are sought can be listed, exactly those of its
names complete the text that start with the rest behind the last slash, the hidden ones only if
the dot is there. Each is shown once, in increasing order, behind the text up to the slash as it
was typed, with a slash behind it if it leads to a folder; and asking for one position after the
other gives just these. There is nothing to show if the folder cannot be listed. If the host does
not let one of the names be looked at, as it makes the path of the folder too long or names may not
be looked up in the folder, there is an error in place of all. -/
theorem completion_lists_names (htree : w.files.Proper) (hdivides : Divides text head stem)
    (hnull : ¬HoldsNull text) (hhomes : w.homes.NullFree) :
    (head = "" → w.locate (soughtIn w head) =
      (w.files.admits w.place .search).map fun _ => .folder w.place) ∧
    (head.toList.head? ≠ some '~' → soughtIn w head = .ofString head) ∧
    ((∀ location, ¬ w.Lists (soughtIn w head) location) → candidates w text = .ok []) ∧
    (∀ location, w.Lists (soughtIn w head) location →
      ∃ names, Offered w.files location stem names ∧
        (∀ name ∈ names, ChildLookup w (soughtIn w head) location name) ∧
        ((∀ name ∈ names, w.conceals ((soughtIn w head).child name) = false) →
          candidates w text = .ok (names.map (shown w (soughtIn w head) head))) ∧
        (∀ name, names.find? (fun name => w.conceals ((soughtIn w head).child name)) = some name →
          ∃ e, w.isFolder ((soughtIn w head).child name) = .error e ∧
            candidates w text = .error e)) ∧
    ∀ found, candidates w text = .ok found →
      (∀ c ∈ found, text.toList <+: c.toList) ∧
        ∀ answers, Answers w text 0 answers ↔ answers = found := by
  have hsought := soughtIn_noNull hdivides hnull hhomes
  refine ⟨?_, soughtIn_of_no_tilde, ?_, ?_, ?_⟩
  · rintro rfl
    exact locate_soughtIn_empty w
  · intro hlists
    rw [candidates_eq hdivides hsought, namesIn_of_unlisted hsought hlists]
    rfl
  · intro location hlists
    have hnames := namesIn_of_lists hsought hlists
    refine ⟨_, offered_filter htree location stem, ?_, ?_, ?_⟩
    · intro name hname
      have hfile := htree.isFileName (FileTree.mem_names.1 (List.mem_of_mem_filter hname))
      exact childLookup_of_lists hsought hlists hfile
    · intro hnone
      rw [← hnames] at hnone ⊢
      exact candidates_of_none hdivides hsought hnone
    · intro name hfirst
      rw [← hnames] at hfirst
      exact candidates_of_first hdivides hsought hfirst
  · intro found hfound
    refine ⟨?_, fun answers => by simpa using answers_iff hfound 0⟩
    obtain ⟨-, rfl⟩ := found_eq hdivides hsought hfound
    intro c hc
    obtain ⟨name, hname, rfl⟩ := List.mem_map.1 hc
    exact prefix_shown hdivides (List.mem_filter.1 hname).2

/-- A home folder with a hidden file, a file and a folder. -/
def homely : World :=
  { World.ofEntries [(["home"], .usualFolder), (["home", ".new"], .file ⟨.empty, 0o644, 0⟩),
      (["home", "new.txt"], .file ⟨.empty, 0o644, 1⟩), (["home", "notes"], .usualFolder)] with
    homes := ⟨some "/home", none, []⟩ }

lemma homely_proper : homely.files.Proper := by decide

lemma names_homely : homely.files.names ["home"] = [".new", "new.txt", "notes"] :=
  FileTree.names_of_sorted (by decide) (by decide)

lemma homely_nullFree : homely.homes.NullFree := by
  intro user folder hfolder
  unfold Homes.of at hfolder
  split at hfolder
  · cases hfolder
    unfold HoldsNull
    decide
  · cases hfolder

lemma divides_home : Divides "~/" "~/" "" := ⟨rfl, .inr ⟨['~'], rfl⟩, by decide⟩

lemma lists_home : homely.Lists (soughtIn homely "~/") ["home"] := ⟨rfl, rfl⟩

lemma seen_homely (name : String) (hname : name ∈ [".new", "new.txt", "notes"]) :
    homely.conceals ((soughtIn homely "~/").child name) = false ∧
      homely.leadsToFolder ((soughtIn homely "~/").child name) = (name == "notes") := by
  have hnull := soughtIn_noNull divides_home (by unfold HoldsNull; decide) homely_nullFree
  have hfile : IsFileName name :=
    homely_proper.isFileName (FileTree.mem_names.1 (names_homely ▸ hname))
  have hlookup : ChildLookup homely (soughtIn homely "~/") ["home"] name :=
    childLookup_of_lists hnull lists_home hfile
  have hlocate : homely.locate ((soughtIn homely "~/").child name) =
      .ok (if name = "notes" then .folder ⟨["home", "notes"], 0⟩
        else .file ["home", name] ⟨.empty, 0o644, if name = ".new" then 0 else 1⟩) := by
    simp only [List.mem_cons, List.not_mem_nil, or_false] at hname
    obtain rfl | rfl | rfl := hname <;> rfl
  constructor
  · rw [Bool.eq_false_iff, Ne, hlookup.conceals_iff, hlocate]
    exact nofun
  · rw [Bool.eq_iff_iff, hlookup.leads_iff, hlocate]
    by_cases hfolder : name = "notes" <;> simp [hfolder]

theorem completion_lists_names_at_home :
    homely.files.Proper ∧ Divides "~/n" "~/" "n" ∧ ¬HoldsNull "~/n" ∧ homely.homes.NullFree ∧
      candidates homely "~/n" = .ok ["~/new.txt", "~/notes/"] ∧
      Answers homely "~/n" 0 ["~/new.txt", "~/notes/"] := by
  have hdivides : Divides "~/n" "~/" "n" := ⟨rfl, .inr ⟨['~'], rfl⟩, by decide⟩
  have hnull : ¬HoldsNull "~/n" := by unfold HoldsNull; decide
  obtain ⟨-, -, -, hlisted, hfound⟩ :=
    completion_lists_names homely_proper hdivides hnull homely_nullFree
  obtain ⟨names, hoffered, -, hall, -⟩ := hlisted ["home"] lists_home
  have hnames : names = ["new.txt", "notes"] := by
    have hcomplete := offered_filter homely_proper ["home"] "n"
    rw [names_homely] at hcomplete
    exact hoffered.unique hcomplete
  subst hnames
  have hnew := seen_homely "new.txt" (by decide)
  have hnotes := seen_homely "notes" (by decide)
  have hcandidates : candidates homely "~/n" = .ok ["~/new.txt", "~/notes/"] := by
    rw [hall (by simp [hnew, hnotes])]
    simp [shown, hnew, hnotes]
  exact ⟨homely_proper, hdivides, hnull, homely_nullFree, hcandidates,
    ((hfound _ hcandidates).2 _).2 rfl⟩

/-! ## A way that is long -/

/-- A way that goes into a folder and out of it again, many times over. -/
def winding : Nat → String
  | 0 => ""
  | n + 1 => "d/../" ++ winding n

/-- The names on that way, and those behind it. -/
def windingNames (more : List String) : Nat → List String
  | 0 => more
  | n + 1 => "d" :: ".." :: windingNames more n

lemma windingNames_append (more later : List String) (n : Nat) :
    windingNames more n ++ later = windingNames (more ++ later) n := by
  induction n with
  | zero => rfl
  | succ n ih => rw [windingNames, windingNames, List.cons_append, List.cons_append, ih]

lemma ofString_winding (n : Nat) : Path.ofString (winding n) = ⟨.here, windingNames [] n⟩ := by
  have hanchor : Path.anchorOf (winding n).toList = .here := by
    cases n with
    | zero => rfl
    | succ n =>
      rw [winding, String.toList_append]
      rfl
  have hnames : ((cut Path.isSlash (winding n).toList).map String.ofList).filter Path.isPart =
      windingNames [] n := by
    clear hanchor
    induction n with
    | zero => rfl
    | succ n ih =>
      have hcut : cut Path.isSlash (winding (n + 1)).toList =
          ['d'] :: ['.', '.'] :: cut Path.isSlash (winding n).toList := by
        rw [winding, String.toList_append]
        rfl
      rw [hcut, List.map_cons, List.map_cons, List.filter_cons_of_pos (by decide),
        List.filter_cons_of_pos (by decide), ih]
      rfl
  rw [Path.ofString, hanchor, hnames]

lemma utf8ByteSize_winding (name : String) (n : Nat) :
    ((Path.ofString (winding n)).child name).text.utf8ByteSize = 5 * n + name.utf8ByteSize := by
  have hne (n : Nat) : windingNames [name] n ≠ [] := by cases n <;> simp [windingNames]
  have hjoined : ("/".intercalate (windingNames [name] n)).utf8ByteSize =
      5 * n + name.utf8ByteSize := by
    induction n with
    | zero => simp [windingNames]
    | succ n ih =>
      rw [windingNames, String.intercalate_cons_of_ne_nil (List.cons_ne_nil _ _),
        String.intercalate_cons_of_ne_nil (hne n)]
      simp only [String.utf8ByteSize_append, ih]
      have hsizes : "d".utf8ByteSize = 1 ∧ "..".utf8ByteSize = 2 ∧ "/".utf8ByteSize = 1 := by decide
      omega
  rw [ofString_winding, Path.child, windingNames_append, Path.text, if_neg (by simp [hne]),
    String.utf8ByteSize_append, List.nil_append, hjoined]
  simp [Path.Anchor.text]

/-- A folder into which the way goes, beside a file with a short and one with a long name. -/
def beside : World :=
  .ofEntries [(["aa"], .file ⟨.empty, 0o644, 0⟩), (["d"], .usualFolder),
    (["d", "x"], .file ⟨.empty, 0o644, 1⟩), (["longname"], .file ⟨.empty, 0o644, 2⟩)]

lemma walk_windingNames (more : List String) (n : Nat) :
    beside.files.walk .top (windingNames more n) = beside.files.walk .top more := by
  induction n with
  | zero => rfl
  | succ n ih => exact ih

lemma steps_winding (n : Nat) :
    (Path.ofString (winding n)).steps = windingNames (if n = 0 then ["."] else []) n := by
  rw [ofString_winding, Path.steps]
  cases n <;> simp [windingNames]

lemma locate_winding {n : Nat} (h : 5 * n < longestPath) :
    beside.locate (.ofString (winding n)) = .ok (.folder ⟨[], 0⟩) := by
  have hchild : ((Path.ofString (winding n)).child "d").text.utf8ByteSize ≤ longestPath := by
    rw [utf8ByteSize_winding]
    exact h
  have hshort := Path.utf8ByteSize_parent_le hchild
  rw [Path.parent_child] at hshort
  have hwalk : beside.files.walk .top (Path.ofString (winding n)).steps =
      .ok (.arrived (.folder .top)) := by
    rw [steps_winding, walk_windingNames]
    split <;> rfl
  have horigin : beside.origin (Path.ofString (winding n)).anchor = .top := by
    rw [ofString_winding]
    rfl
  rw [World.locate, World.locateFrom, if_neg (Nat.not_lt.2 hshort), horigin, FileTree.find, hwalk]
  rfl

lemma lists_winding {n : Nat} (h : 5 * n < longestPath) :
    beside.Lists (.ofString (winding n)) [] := ⟨locate_winding h, rfl⟩

lemma not_holdsNull_winding (n : Nat) : ¬HoldsNull (winding n) := by
  unfold HoldsNull
  induction n with
  | zero => decide
  | succ n ih =>
    rw [winding, String.toList_append, List.mem_append, not_or]
    exact ⟨by decide, ih⟩

lemma noNull_winding (n : Nat) : (Path.ofString (winding n)).hasNull = false :=
  Bool.eq_false_iff.2 fun hholds => not_holdsNull_winding n (.of_hasNull hholds)

lemma divides_winding (n : Nat) : Divides (winding n) (winding n) "" where
  joined := String.append_empty
  ends := by
    induction n with
    | zero => exact .inl rfl
    | succ n ih =>
      rw [winding, String.toList_append]
      obtain hempty | ⟨front, hfront⟩ := ih
      · exact .inr ⟨['d', '/', '.', '.'], by rw [hempty]; rfl⟩
      · exact .inr ⟨['d', '/', '.', '.', '/'] ++ front, by rw [hfront, List.append_assoc]; rfl⟩
  free := by decide

lemma soughtIn_winding (w : World) (n : Nat) : soughtIn w (winding n) = .ofString (winding n) := by
  refine soughtIn_of_no_tilde ?_
  cases n <;> simp [winding]

lemma names_beside : beside.files.names [] = ["aa", "d", "longname"] :=
  FileTree.names_of_sorted (by decide) (by decide)

lemma childLookup_winding {n : Nat} (h : 5 * n < longestPath)
    (hname : name ∈ ["aa", "d", "longname"]) :
    ChildLookup beside (.ofString (winding n)) [] name := by
  have htree : beside.files.Proper := by decide
  have hfile := htree.isFileName (FileTree.mem_names.1 (names_beside ▸ hname))
  exact childLookup_of_lists (noNull_winding n) (lists_winding h) hfile

/-- The names beside the way are too long behind it if the way is. -/
lemma conceals_winding {n : Nat} (h : 5 * n < longestPath)
    (hname : name ∈ ["aa", "d", "longname"]) :
    beside.conceals ((Path.ofString (winding n)).child name) = true ↔
      longestPath < 5 * n + name.utf8ByteSize := by
  have hentry : ∃ e, beside.files.get? ([] ++ [name]) = some e ∧ ∀ target, e ≠ .link target := by
    have hcases := hname
    simp only [List.mem_cons, List.not_mem_nil, or_false] at hcases
    obtain rfl | rfl | rfl := hcases <;> exact ⟨_, rfl, by simp [Entry.usualFolder]⟩
  have hsearch : beside.files.admits ⟨[], 0⟩ .search = .ok () := rfl
  obtain ⟨e, hstands, hlink⟩ := hentry
  rw [(childLookup_winding h hname).conceals_entry hstands hlink, utf8ByteSize_winding]
  simp [hsearch]

lemma namesIn_winding {n : Nat} (h : 5 * n < longestPath) :
    namesIn beside (winding n) = ["aa", "d", "longname"] := by
  have hnull : (soughtIn beside (winding n)).hasNull = false := by
    rw [soughtIn_winding]
    exact noNull_winding n
  rw [namesIn_of_lists hnull (by rw [soughtIn_winding]; exact lists_winding h), names_beside]

lemma conceals_beside :
    beside.conceals ((Path.ofString (winding 818)).child "aa") = false ∧
      beside.conceals ((Path.ofString (winding 818)).child "d") = false ∧
      beside.conceals ((Path.ofString (winding 818)).child "longname") = true := by
  have hlong (name : String) (hname : name ∈ ["aa", "d", "longname"]) :=
    conceals_winding (by decide : 5 * 818 < longestPath) hname
  refine ⟨?_, ?_, (hlong "longname" (by decide)).2 (by decide)⟩
  · exact Bool.eq_false_iff.2 fun h => absurd ((hlong "aa" (by decide)).1 h) (by decide)
  · exact Bool.eq_false_iff.2 fun h => absurd ((hlong "d" (by decide)).1 h) (by decide)

lemma isFolder_winding : beside.isFolder ((Path.ofString (winding 818)).child "longname") =
    .error (World.failure ((Path.ofString (winding 818)).child "longname") .nameTooLong) := by
  have hlong : longestPath <
      ((Path.ofString (winding 818)).child "longname").text.utf8ByteSize := by
    rw [utf8ByteSize_winding]
    decide
  have hnull := child_noNull (noNull_winding 818) (by decide : IsFileName "longname")
  rw [World.isFolder, hnull, World.locate, World.locateFrom, if_pos hlong]
  rfl

lemma candidates_winding : candidates beside (winding 818) =
    .error (World.failure ((Path.ofString (winding 818)).child "longname") .nameTooLong) := by
  have hall : ["aa", "d", "longname"].filter (completes "") = ["aa", "d", "longname"] := by decide
  have hnull : (soughtIn beside (winding 818)).hasNull = false := by
    rw [soughtIn_winding]
    exact noNull_winding 818
  have hfirst : ((namesIn beside (winding 818)).filter (completes "")).find? (fun name =>
      beside.conceals ((soughtIn beside (winding 818)).child name)) = some "longname" := by
    obtain ⟨haa, hd, hlongname⟩ := conceals_beside
    rw [namesIn_winding (by decide), hall, soughtIn_winding]
    simp [haa, hd, hlongname]
  obtain ⟨e, hlook, hfails⟩ := candidates_of_first (divides_winding 818) hnull hfirst
  rw [soughtIn_winding, isFolder_winding] at hlook
  rw [hfails, Except.error.inj hlook]

/-- At the end of a long way a file with a long name leaves nothing of what could be shown. -/
theorem completion_lost_behind_long_way :
    beside.files.Proper ∧ Divides (winding 818) (winding 818) "" ∧ ¬HoldsNull (winding 818) ∧
      beside.Lists (.ofString (winding 818)) [] ∧
      Offered beside.files [] "" ["aa", "d", "longname"] ∧
      candidates beside (winding 818) =
        .error (World.failure ((Path.ofString (winding 818)).child "longname") .nameTooLong) := by
  have htree : beside.files.Proper := by decide
  have hoffered := offered_filter htree [] ""
  rw [names_beside] at hoffered
  exact ⟨htree, divides_winding 818, not_holdsNull_winding 818, lists_winding (by decide),
    hoffered, candidates_winding⟩

end Completion
end CommandShell
