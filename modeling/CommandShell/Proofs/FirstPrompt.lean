import CommandShell.Proofs.Completing
import CommandShell.Proofs.Preparing
import CommandShell.Proofs.Spelling

/-!
# From the environment to the first prompt

The settings are read from the environment, the history file is prepared and loaded, and the first
prompt is shown. A history that cannot be stored or read is done without. Two things the start does
not get over: a path in a home folder that nobody knows, and a line of the history that the editor
does not take.
-/
namespace CommandShell
open Text

/-! ## Home folders -/

section Home
variable {homes : Homes} {user s : String} {p : Path} {rest : List String}

lemma startsWithTilde_iff : startsWithTilde s = true ↔ ∃ user, s = "~" ++ user := by
  constructor
  · intro h
    obtain ⟨cs, hcs⟩ : ∃ cs, s.toList = '~' :: cs := by
      simpa [startsWithTilde, List.head?_eq_some_iff] using h
    exact ⟨.ofList cs, String.toList_injective (by simp [hcs])⟩
  · rintro ⟨user, rfl⟩
    simp [startsWithTilde]

lemma startsWithTilde_dropTrailingSlashes (s : String) :
    startsWithTilde (dropTrailingSlashes s) = startsWithTilde s := by
  have hback : (dropTrailingSlashes s).toList = s.toList.rdropWhile (· == '/') := by
    simp [dropTrailingSlashes, List.rdropWhile]
  obtain ⟨slashes, hslashes⟩ := List.rdropWhile_prefix (· == '/') s.toList
  rw [startsWithTilde, startsWithTilde, hback]
  cases hkept : s.toList.rdropWhile (· == '/') with
  | cons c cs => rw [← hslashes, hkept, List.cons_append, List.head?_cons, List.head?_cons]
  | nil =>
    have hall := List.rdropWhile_eq_nil_iff.1 hkept
    cases hs : s.toList with
    | nil => rfl
    | cons c cs =>
      obtain rfl : c = '/' := by simpa using hall c (by simp [hs])
      rfl

/-- A tilde with a name is replaced by what starts with a tilde only if the user has no home, or one
that starts so itself. -/
lemma startsWithTilde_expandTilde (hslash : '/' ∉ user.toList) :
    startsWithTilde (expandTilde homes ("~" ++ user)) = true ↔
      ∀ folder ∈ homes.of user, startsWithTilde folder = true := by
  have hname : ∀ c ∈ user.toList, (c != '/') = true := fun c hc =>
    bne_iff_ne.2 fun hc' => hslash (hc' ▸ hc)
  have htake := List.takeWhile_eq_self_iff.2 hname
  have hdrop := List.dropWhile_eq_nil_iff.2 hname
  have htilde : ("~" ++ user).toList = '~' :: user.toList := by simp
  simp only [expandTilde, htilde, htake, hdrop, String.ofList_toList, String.ofList_nil,
    String.append_empty]
  cases homes.of user with
  | none => simp [startsWithTilde_iff]
  | some folder =>
    have hkept := startsWithTilde_dropTrailingSlashes folder
    -- A home of slashes alone is the root.
    by_cases hempty : dropTrailingSlashes folder = ""
    · rw [hempty] at hkept
      have hslash : startsWithTilde "/" = startsWithTilde "" := by decide
      simp [hempty, hslash, hkept]
    · simp [hempty, hkept]

/-- Whether a path starts in the home folder of a user who has none, or one whose own path starts
with a tilde. -/
def Path.IsHomeless (homes : Homes) (p : Path) : Prop :=
  ∃ user rest, p = ⟨.here, ("~" ++ user) :: rest⟩ ∧
    ∀ folder ∈ homes.of user, startsWithTilde folder = true

/-- A path that is read from a text has a null character only from there. -/
lemma Path.hasNull_ofString (h : ¬ HoldsNull s) : (ofString s).hasNull = false := by
  simpa using mt HoldsNull.of_hasNull h

lemma Path.hasNull_eq_false : p.hasNull = false ↔ ∀ part ∈ p.parts, ¬ HoldsNull part := by
  simp [hasNull, HoldsNull]

lemma Path.hasNull_child {name : String} (h : p.hasNull = false) (hname : ¬ HoldsNull name) :
    (p.child name).hasNull = false := by
  rw [hasNull_eq_false] at h ⊢
  simpa [child, or_imp, forall_and] using And.intro h hname

/-- Nobody knows the home folder if the tilde has stayed where it was, or another has come. -/
lemma Path.isHomeless_iff (hslash : '/' ∉ user.toList) :
    (⟨.here, ("~" ++ user) :: rest⟩ : Path).IsHomeless homes ↔
      startsWithTilde (expandTilde homes ("~" ++ user)) = true := by
  rw [startsWithTilde_expandTilde hslash]
  constructor
  · rintro ⟨user', rest', hp, hunknown⟩
    have hname : ("~" ++ user).toList = ("~" ++ user').toList :=
      congrArg String.toList (List.cons.inj (Path.mk.inj hp).2).1
    obtain rfl : user = user' := String.toList_injective (by simpa using hname)
    exact hunknown
  · exact fun hunknown => ⟨user, rest, rfl, hunknown⟩

/-- A path without a tilde in front stays as it is. -/
lemma Path.expandHome_of_no_tilde (h : ¬ ∃ user rest, p = ⟨.here, ("~" ++ user) :: rest⟩) :
    p.expandHome homes = .ok p := by
  obtain ⟨_ | _ | _, _ | ⟨first, rest⟩⟩ := p <;> try rfl
  have hfirst : startsWithTilde first = false := by
    rw [← Bool.not_eq_true, startsWithTilde_iff]
    rintro ⟨user, rfl⟩
    exact h ⟨user, rest, rfl⟩
  simp [expandHome, hfirst]

/-- Either nobody knows the home folder of a path, or the path becomes one that hosts take. -/
lemma Path.expandHome_cases (hnormal : p.IsNormal) (hnull : p.hasNull = false)
    (hhomes : homes.NullFree) :
    (p.IsHomeless homes ∧ p.expandHome homes = .error .unknown) ∨
      ¬ p.IsHomeless homes ∧ ∃ q, p.expandHome homes = .ok q ∧ q.hasNull = false := by
  by_cases htilde : ∃ user rest, p = ⟨.here, ("~" ++ user) :: rest⟩
  · obtain ⟨user, rest, rfl⟩ := htilde
    obtain ⟨hfirst, hrest⟩ := List.forall_mem_cons.1 (hasNull_eq_false.1 hnull)
    have hslash : '/' ∉ user.toList := fun hc => by
      simpa [isSlash] using (hnormal _ List.mem_cons_self).2 '/' (by simp [hc])
    have hname : startsWithTilde ("~" ++ user) = true := startsWithTilde_iff.2 ⟨user, rfl⟩
    have hvalid : ("~" ++ user).contains '\x00' = false := by simpa [HoldsNull] using hfirst
    rw [isHomeless_iff hslash]
    by_cases hunknown : startsWithTilde (expandTilde homes ("~" ++ user)) = true
    · exact .inl ⟨hunknown, by simp [expandHome, hname, hvalid, hunknown]⟩
    · have hfolder : ¬ HoldsNull (expandTilde homes ("~" ++ user)) :=
        mt (HoldsNull.of_expandTilde hhomes) hfirst
      refine .inr ⟨hunknown, _, by simp only [expandHome, hname, hvalid, hunknown]; rfl, ?_⟩
      rw [hasNull_eq_false, List.forall_mem_append]
      exact ⟨hasNull_eq_false.1 (hasNull_ofString hfolder), hrest⟩
  · have hknown : ¬ p.IsHomeless homes := by
      rintro ⟨user, rest, hp, -⟩
      exact htilde ⟨user, rest, hp⟩
    exact .inr ⟨hknown, p, expandHome_of_no_tilde htilde, hnull⟩

end Home

/-! ## Settings -/

namespace Settings
variable {homes : Homes} {env : Environment} {name value : String}

/-- Whether the environment gives a path in a home folder that nobody knows. -/
def Homeless (homes : Homes) (env : Environment) : Prop :=
  ∃ override, valueOf env "PIPESHELL_HISTORY" = some override ∧
    (Path.ofString override).IsHomeless homes

/-- The values that hosts give to variables. -/
def Plain (env : Environment) : Prop := ∀ e ∈ env, ¬ HoldsNull e.2

lemma Plain.not_holdsNull (henv : Plain env) (h : valueOf env name = some value) :
    ¬ HoldsNull value := by
  obtain ⟨hlookup, -⟩ := Option.filter_eq_some_iff.1 h
  obtain ⟨before, after, rfl, -⟩ := List.lookup_eq_some_iff.1 hlookup
  exact henv (name, value) (by simp)

lemma Plain.hasNull_configFolder (henv : Plain env) :
    ∀ folder ∈ configFolder env, folder.hasNull = false := by
  have hfolderName : ¬ HoldsNull folderName := by unfold HoldsNull; decide
  have hconfig : ¬ HoldsNull ".config" := by unfold HoldsNull; decide
  intro folder hfolder
  unfold configFolder at hfolder
  split at hfolder
  next base _ hbase =>
    cases hfolder
    exact Path.hasNull_child (Path.hasNull_ofString (henv.not_holdsNull hbase)) hfolderName
  next own _ hown =>
    cases hfolder
    have hbase := Path.hasNull_ofString (henv.not_holdsNull hown)
    exact Path.hasNull_child (Path.hasNull_child hbase hconfig) hfolderName
  · cases hfolder

/-- Either the settings are in a home folder that nobody knows, or they are there and the path of
the history is one that hosts take. -/
lemma load_cases (henv : Plain env) (hhomes : homes.NullFree) :
    (Homeless homes env ∧ load homes env = .error .unknown) ∨
      ¬ Homeless homes env ∧ ∃ settings, load homes env = .ok settings ∧
        ∀ path ∈ settings.historyPath, path.hasNull = false := by
  cases hoverride : valueOf env "PIPESHELL_HISTORY" with
  | none =>
    have hknown : ¬ Homeless homes env := fun ⟨_, hvalue, _⟩ => by
      cases hoverride.symm.trans hvalue
    refine .inr ⟨hknown, _, by simp only [load, historyPathIn, hoverride]; rfl, ?_⟩
    intro path hpath
    obtain ⟨folder, hfolder, rfl⟩ := Option.mem_map.1 hpath
    have hhistoryName : ¬ HoldsNull historyName := by unfold HoldsNull; decide
    exact Path.hasNull_child (henv.hasNull_configFolder folder hfolder) hhistoryName
  | some override =>
    have hhomeless : Homeless homes env ↔ (Path.ofString override).IsHomeless homes := by
      simp [Homeless, hoverride]
    rw [hhomeless]
    have hnull := Path.hasNull_ofString (henv.not_holdsNull hoverride)
    refine (Path.expandHome_cases (Path.ofString_isNormal override) hnull hhomes).imp ?_ ?_
    · rintro ⟨hunknown, hexpand⟩
      exact ⟨hunknown, by simp only [load, historyPathIn, hoverride, hexpand]; rfl⟩
    · rintro ⟨hknown, path, hexpand, hpath⟩
      exact ⟨hknown, _, by simp only [load, historyPathIn, hoverride, hexpand]; rfl,
        by simpa using hpath⟩

end Settings

/-! ## The history -/

namespace World
variable {w : World} {path : Path}

/-- The text of a file, if it can be read and decoded. -/
def readText (w : World) (path : Path) : Option String :=
  (w.read path).toOption.bind fun bytes => (Utf8.decode bytes).toOption

/-- The lines that are loaded are those of the text; there are none where there is no text. -/
lemma loadLines_eq (hnull : path.hasNull = false) (w : World) :
    ∃ notes, w.loadLines path = .ok ((w.readText path).elim [] filledLines, notes) := by
  unfold loadLines readText
  cases hread : w.read path with
  | error e =>
    obtain ⟨error, rfl⟩ := (read_error hread).resolve_right fun hnone => by simp [hnull] at hnone
    split
    · exact ⟨_, rfl⟩
    · exact ⟨_, rfl⟩
    next hother heq => exact absurd (Except.error.inj heq).symm (hother error)
    next heq => cases heq
  | ok bytes =>
    cases hdecode : Utf8.decode bytes with
    | error fault =>
      simp only [hdecode, Except.toOption, Option.bind_some]
      exact ⟨_, rfl⟩
    | ok text =>
      simp only [hdecode, Except.toOption, Option.bind_some, History.ofText_eq_filledLines]
      exact ⟨_, rfl⟩

lemma folderText_ensureFile {path : Option Path} (hnull : ∀ p ∈ path, p.hasNull = false)
    (w : World) : (w.ensureFile path).2.folderText = w.folderText := by
  cases path with
  | none => rfl
  | some path =>
    obtain ⟨usable, notes, w', hensure, hpreparing⟩ := exists_preparing (hnull path rfl) w
    obtain ⟨files, rfl, -⟩ := hpreparing.prepared.rest
    rw [hensure]
    rfl

/-- Whether a path leads to a device that gives bytes without an end, which nobody reads to it. -/
def IsEndless (w : World) (path : Path) : Prop :=
  ∃ l d, w.locate path = .ok (.device l d) ∧ (d = .zero ∨ d = .full)

end World

namespace Repl
variable {host : Host} {settings : Settings} {s : Repl}

/-- How a history is opened in a world. Without a path, or where there is no file to be used in the
end, it is empty and will not be stored; else it will be, and it has the lines of the text that is
there, if there is one. -/
inductive Opened (w : World) : Option Path → Repl → Prop
  | unplaced {s : Repl} (hstore : s.store = none)
      (hhistory : s.history = .ofLines [] History.usualLimit) : Opened w none s
  | unusable {path : Path} {s : Repl} (hpath : ¬ w.HasUsable s.world path) (hstore : s.store = none)
      (hhistory : s.history = .ofLines [] History.usualLimit) : Opened w (some path) s
  | unreadable {path : Path} {s : Repl} (hpath : w.HasUsable s.world path)
      (hread : s.world.readText path = none) (hstore : s.store = some path)
      (hhistory : s.history = .ofLines [] History.usualLimit) : Opened w (some path) s
  | loaded {path : Path} {s : Repl} {text : String} (hpath : w.HasUsable s.world path)
      (hread : s.world.readText path = some text) (hstore : s.store = some path)
      (hhistory : s.history = .ofLines (filledLines text) History.usualLimit) :
      Opened w (some path) s

lemma openHistory_opened (hnull : ∀ path ∈ settings.historyPath, path.hasNull = false)
    (hnone : s.store = none) (hempty : s.history = .ofLines [] History.usualLimit) :
    ∃ t, openHistory settings s = (.ok (), t) ∧ Opened s.world settings.historyPath t ∧
      t.world = (s.world.ensureFile settings.historyPath).2 := by
  cases hpath : settings.historyPath with
  | none =>
    refine ⟨_, ?_, .unplaced (s := note settings [.folderUnknown] s) hnone hempty, rfl⟩
    simp only [openHistory, hpath, World.ensureFile]
    rfl
  | some path =>
    have hvalid := hnull path hpath
    obtain ⟨usable, notes, w, hensure, hpreparing⟩ := World.exists_preparing hvalid s.world
    have husable := hpreparing.usable_iff hvalid
    rw [hensure]
    cases usable with
    | false =>
      refine ⟨note settings notes { s with run := { s.run with world := w } }, ?_,
        .unusable (fun h => Bool.noConfusion (husable.2 h)) hnone hempty, rfl⟩
      simp only [openHistory, hensure, hpath]
      rfl
    | true =>
      obtain ⟨loadNotes, hload⟩ := World.loadLines_eq hvalid w
      refine ⟨note settings loadNotes { note settings notes { s with run :=
          { s.run with world := w } } with
        history := .ofLines ((w.readText path).elim [] filledLines) History.usualLimit
        store := some path }, ?_, ?_, rfl⟩
      · simp only [openHistory, hensure, hpath, hload]
        rfl
      · cases hread : w.readText path with
        | none => exact .unreadable (husable.1 rfl) hread rfl rfl
        | some text => exact .loaded (husable.1 rfl) hread rfl rfl

/-- Without arguments, what gets ready for the first prompt are the settings, the history and the
editor. -/
lemma ready_of_load {w : World} {recalled : List String}
    (hload : Settings.load w.homes host.environment = .ok settings) :
    ready host [] (before w recalled) = start host settings (before w recalled) := by
  have hread : Usage.read [] = .start := rfl
  have hhomes : (before w recalled).world.homes = w.homes := rfl
  simp only [ready, hread, hhomes, hload]

/-- A prompt can be shown exactly if the working folder has a path. -/
lemma ask_isOk_iff : (∃ asked, s.ask host settings = .ok asked) ↔ s.world.folderText ≠ none := by
  cases hfolder : s.world.folderText <;> simp [ask, prompt, hfolder]

end Repl

/-- Whatever the environment says and whatever the files are, the first prompt is reached, unless
the environment gives a path in a home folder that nobody knows or the editor does not take a line
of the history. With such a path no settings are found, and the start fails before anything has been
done. Otherwise the settings are found and the history is opened, with what can be read and stored
of it; if the editor takes its lines, the prompt that follows only needs the working folder. A path
to a device without an end is left out, as reading it does not come to an end. -/
theorem start_does_without_history (host : Host) (w : World) (recalled : List String)
    (henv : Settings.Plain host.environment) (hhomes : w.homes.NullFree) :
    (Settings.Homeless w.homes host.environment →
      Settings.load w.homes host.environment = .error .unknown ∧
        Repl.ready host [] (.before w recalled) =
          (.error (.homeless .unknown), .before w recalled)) ∧
    (¬ Settings.Homeless w.homes host.environment →
      ∃ settings, Settings.load w.homes host.environment = .ok settings ∧
        ((∀ path ∈ settings.historyPath, ¬ (w.ensureFile (some path)).2.IsEndless path) →
          ∃ s, Repl.openHistory settings (.before w recalled) = (.ok (), s) ∧
            Repl.Opened w settings.historyPath s ∧
            ((∃ line ∈ s.history.lines, host.editor.takes line = false) →
              (Repl.ready host [] (.before w recalled)).1 = .error (.failed .nullInLine)) ∧
            ((∀ line ∈ s.history.lines, host.editor.takes line = true) →
              ∃ t, Repl.ready host [] (.before w recalled) = (.ok settings, t) ∧
                t.history = s.history ∧ t.store = s.store ∧
                ((∃ asked, t.ask host settings = .ok asked) ↔ w.folderText ≠ none)))) := by
  have hcases := Settings.load_cases henv hhomes
  constructor
  · intro hhomeless
    obtain ⟨-, hload⟩ := hcases.resolve_right fun h => h.1 hhomeless
    have hread : Usage.read [] = .start := rfl
    have hsame : (Repl.before w recalled).world.homes = w.homes := rfl
    exact ⟨hload, by simp only [Repl.ready, hread, hsame, hload]⟩
  · intro hknown
    obtain ⟨-, settings, hload, hnull⟩ := hcases.resolve_left fun h => hknown h.1
    refine ⟨settings, hload, fun _ => ?_⟩
    obtain ⟨s, hopen, hopened, hworld⟩ :=
      Repl.openHistory_opened (s := .before w recalled) hnull rfl rfl
    have hfolders : s.world.folderText = w.folderText := by
      rw [hworld]
      exact World.folderText_ensureFile hnull w
    refine ⟨s, hopen, hopened, ?_⟩
    rw [Repl.ready_of_load hload]
    obtain ⟨htakes, t, hstart, hhistory, hstore, hfolder⟩ | ⟨⟨line, hline, huntaken⟩, hstart⟩ :=
      Repl.start_of_open hopen host
    · refine ⟨?_, fun _ => ⟨t, hstart, hhistory, hstore, ?_⟩⟩
      · rintro ⟨line, hline, huntaken⟩
        cases huntaken.symm.trans (htakes line hline)
      · rw [Repl.ask_isOk_iff, hfolder, hfolders]
    · refine ⟨fun _ => hstart, fun htakes => ?_⟩
      cases huntaken.symm.trans (htakes line hline)

/-- A host whose history is in a folder in one's own home folder. -/
def Host.homely : Host := { Host.bare with environment := [("PIPESHELL_HISTORY", "~/h/x")] }

/-- A world whose home folder is the root, with a file in the way of that folder. -/
def World.blocked : World :=
  { World.storing .empty "" with homes := { Homes.unknown with environment := some "/" } }

lemma World.nullFree_blocked : World.blocked.homes.NullFree := by
  intro user folder hfolder
  unfold Homes.of at hfolder
  split at hfolder
  · cases hfolder
    unfold HoldsNull
    decide
  · cases hfolder

lemma Settings.not_homeless_homely : ¬ Homeless World.blocked.homes Host.homely.environment := by
  rintro ⟨override, hvalue, hunknown⟩
  have hgiven : valueOf Host.homely.environment "PIPESHELL_HISTORY" = some "~/h/x" := by cbv
  obtain rfl := Option.some.inj (hgiven.symm.trans hvalue)
  have hpath : Path.ofString "~/h/x" = ⟨.here, ("~" ++ "") :: ["h", "x"]⟩ := by cbv
  rw [hpath, Path.isHomeless_iff (by decide)] at hunknown
  revert hunknown
  decide

/-- Its history is done without. -/
theorem start_does_without_history_over_blocked_folder :
    let settings : Settings := { Settings.bare with historyPath := some ⟨.root, ["h", "x"]⟩ }
    Settings.Plain Host.homely.environment ∧ World.blocked.homes.NullFree ∧
      ¬ Settings.Homeless World.blocked.homes Host.homely.environment ∧
      Settings.load World.blocked.homes Host.homely.environment = .ok settings ∧
      ∃ s t, Repl.openHistory settings (.before World.blocked []) = (.ok (), s) ∧
        Repl.Opened World.blocked settings.historyPath s ∧
        Repl.ready Host.homely [] (.before World.blocked []) = (.ok settings, t) ∧
        t.store = none ∧ ∃ asked, t.ask Host.homely settings = .ok asked := by
  intro settings
  have henv : Settings.Plain Host.homely.environment := by
    simp only [Settings.Plain, HoldsNull]
    decide
  have hhomes := World.nullFree_blocked
  have hload : Settings.load World.blocked.homes Host.homely.environment = .ok settings := by cbv
  have hblocked : (World.blocked.ensureFile settings.historyPath).2.locate ⟨.root, ["h", "x"]⟩ =
      .error .notFolder := by cbv
  have hempty : (Repl.openHistory settings (.before World.blocked [])).2.store = none ∧
      (Repl.openHistory settings (.before World.blocked [])).2.history.lines = [] := by cbv
  obtain ⟨settings', hload', hstarts⟩ := (start_does_without_history Host.homely World.blocked []
    henv hhomes).2 Settings.not_homeless_homely
  obtain rfl : settings = settings' := Except.ok.inj (hload.symm.trans hload')
  have hends : ∀ path ∈ settings.historyPath,
      ¬ (World.blocked.ensureFile (some path)).2.IsEndless path := by
    rintro path hpath ⟨l, d, hdevice, -⟩
    obtain rfl : ⟨.root, ["h", "x"]⟩ = path := Option.some.inj hpath
    cases hblocked.symm.trans hdevice
  obtain ⟨s, hopen, hopened, -, hready⟩ := hstarts hends
  rw [hopen] at hempty
  have htakes : ∀ line ∈ s.history.lines, Host.homely.editor.takes line = true := by
    rw [hempty.2]
    simp
  obtain ⟨t, hready, -, hsame, hask⟩ := hready htakes
  exact ⟨henv, hhomes, Settings.not_homeless_homely, hload, s, t, hopen, hopened, hready,
    hsame.trans hempty.1, hask.2 (by decide)⟩

/-- Where the history is in the home folder of somebody whom nobody knows, there are no settings,
and the history is not opened. -/
theorem start_fails_without_home :
    ¬ ∀ (host : Host) (w : World) (recalled : List String), Settings.Plain host.environment →
      w.homes.NullFree →
      ∃ settings s, Settings.load w.homes host.environment = .ok settings ∧
        Repl.openHistory settings (.before w recalled) = (.ok (), s) := by
  intro h
  have hplain : Settings.Plain [("PIPESHELL_HISTORY", "~nosuchuserxyz/h")] := by
    simp only [Settings.Plain, HoldsNull]
    decide
  have hhomes : World.bare.homes.NullFree := fun user folder hfolder => by
    unfold Homes.of at hfolder
    split at hfolder <;> cases hfolder
  obtain ⟨settings, s, hload, -⟩ := h
    { Host.bare with environment := [("PIPESHELL_HISTORY", "~nosuchuserxyz/h")] } World.bare []
    hplain hhomes
  have hfails : Settings.load World.bare.homes [("PIPESHELL_HISTORY", "~nosuchuserxyz/h")] =
    .error .unknown := by cbv
  cases hfails.symm.trans hload

end CommandShell
