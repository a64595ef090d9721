import CommandShell.Proofs.Sessions
import CommandShell.Proofs.Storing

/-!
# History, recalled lines and file in step

A loop with a line editor and a file for its history keeps three copies of what was entered. The
editor recalls all of it, the history has the newest of what is recalled, and the file has the
history as it is before a line is run. A device in the place of the file has nothing.
-/
namespace CommandShell
open Text

def Event.line? : Event → Option String
  | .line text => some text
  | .interrupt => none

/-- The lines that events bring, blank ones too. -/
def linesOf (events : List Event) : List String := events.filterMap Event.line?

lemma linesOf_concat (front : List Event) (event : Event) :
    linesOf (front ++ [event]) = linesOf front ++ event.line?.toList := by
  rw [linesOf, List.filterMap_append]
  cases event <;> rfl

/-- A path from the root leads to the same from every working folder. -/
lemma World.locate_of_rooted {w : World} {path : Path} (hrooted : path.anchor ≠ .here)
    (place : Place) : { w with place }.locate path = w.locate path := by
  have horigin : { w with place }.origin path.anchor = w.origin path.anchor := by
    cases hanchor : path.anchor with
    | here => exact absurd hanchor hrooted
    | root | doubleRoot => rfl
  rw [locate, locateFrom, horigin]
  rfl

lemma Editor.foldl_map_addHistory (recalled lines : List String) :
    (lines.map Request.addHistory).foldl Request.apply recalled = recalled ++ lines := by
  induction lines generalizing recalled with
  | nil => exact (List.append_nil recalled).symm
  | cons line lines ih => exact (ih (recalled ++ [line])).trans (List.append_assoc ..)

/-- An editor that is set up recalls the lines of the history and nothing else. -/
lemma Editor.foldl_setup (recalled lines : List String) (description : String)
    (takesNulls : Bool) :
    (setup lines (.present description takesNulls)).foldl Request.apply recalled = lines :=
  foldl_map_addHistory [] lines

namespace Repl
variable {host : Host} {settings : Settings} {s t t' asked now : Repl} {path : Path}
  {lines : List String} {line description : String} {takesNulls : Bool}

/-- What holds once lines have been entered in a loop that began as `s` and stores its history
under `path`. -/
structure InStep (s : Repl) (path : Path) (lines : List String) (t : Repl) : Prop where
  history : t.history = s.history.addAll lines
  recalled : t.recalled = s.recalled ++ s.history.accepted lines
  store : t.store = some path
  stored : ∃ spot, t.world.locate path = .ok spot ∧ spot.IsTaken ∧ ¬ spot.IsDevice ∧
    (s.history.accepted lines ≠ [] →
      ∃ l data, spot = .file l data ∧ data.bytes = (History.text t.history.lines).toByteArray)

lemma InStep.first {spot : Spot} (hstore : s.store = some path)
    (hspot : s.world.locate path = .ok spot) (htaken : spot.IsTaken) (hdevice : ¬ spot.IsDevice) :
    InStep s path [] s :=
  ⟨rfl, by rw [History.accepted, List.append_nil], hstore, spot, hspot, htaken, hdevice,
    fun hsome => absurd rfl hsome⟩

lemma InStep.of_same (h : InStep s path lines t) (hsame : SameRecords t t')
    (hlocate : t'.world.locate path = t.world.locate path) : InStep s path lines t' := by
  obtain ⟨spot, hspot, htaken, hdevice, hbytes⟩ := h.stored
  refine ⟨hsame.history.trans h.history, hsame.recalled.trans h.recalled,
    hsame.store.trans h.store, spot, hlocate.trans hspot, htaken, hdevice, ?_⟩
  rwa [hsame.history]

lemma InStep.rejected (h : InStep s path lines t) (hadd : (t.history.add line).1 = false) :
    InStep s path (lines ++ [line]) t := by
  rw [h.history] at hadd
  have haccepted := History.accepted_concat_of_rejected hadd
  refine ⟨?_, by rw [haccepted, h.recalled], h.store, by rw [haccepted]; exact h.stored⟩
  rw [History.addAll_concat, History.add_of_rejected hadd, h.history]

/-- A line that is accepted is recalled, is the newest of the history and is stored with it. -/
lemma InStep.accepted (h : InStep s path lines t) (hadd : (t.history.add line).1 = true)
    (hrecalled : now.recalled = t.recalled ++ [trim line])
    (hhistory : now.history = (t.history.add line).2) (hstore : now.store = t.store)
    (hsave : t.world.saveLines path now.history.lines = (.ok (), now.world)) :
    InStep s path (lines ++ [line]) now := by
  obtain ⟨spot, hspot, htaken, hdevice, -⟩ := h.stored
  obtain ⟨l, data, hfile, hbytes⟩ := World.locate_of_saveLines hspot htaken hdevice hsave
  rw [h.history] at hadd hhistory
  refine ⟨?_, ?_, hstore.trans h.store, .file l data, hfile, fun _ => Spot.noConfusion,
    by rintro ⟨-, -, ⟨⟩⟩, fun _ => ⟨l, data, rfl, hbytes⟩⟩
  · rw [hhistory, History.addAll_concat]
  · rw [hrecalled, h.recalled, History.accepted_concat_of_add hadd, List.append_assoc]

/-- Recording a line keeps what holds if the history is stored when the line is accepted. -/
lemma InStep.record (h : InStep s path lines t)
    (heditor : host.editor = .present description takesNulls)
    (hrecord : record host settings line t = (.ok (), now))
    (hsave : ∀ history, t.history.add line = (true, history) →
      host.editor.takes (trim line) = true → (t.world.saveLines path history.lines).1 = .ok ()) :
    InStep s path (lines ++ [line]) now := by
  cases hadd : t.history.add line with
  | mk accepted history =>
    cases accepted with
    | false =>
      have hrejected : (t.history.add line).1 = false := by rw [hadd]
      rw [record_of_rejected hrejected] at hrecord
      cases hrecord
      exact h.rejected hrejected
    | true =>
      cases htakes : host.editor.takes (trim line) with
      | false =>
        rw [record_of_untaken hadd htakes] at hrecord
        cases hrecord
      | true =>
        obtain ⟨w, hw⟩ : ∃ w, t.world.saveLines path history.lines = (.ok (), w) :=
          ⟨_, Prod.ext (hsave history hadd htakes) rfl⟩
        have hsaved : save settings { t with history, recalled := t.recalled ++ [trim line] } =
            (.ok (), _) := save_of_saveLines h.store hw
        rw [record_of_taken hadd htakes, heditor] at hrecord
        cases hsaved.symm.trans hrecord
        have hhistory : history = (t.history.add line).2 := by rw [hadd]
        exact h.accepted (by rw [hadd]) rfl hhistory rfl hw

/-- A run in which every save of the history succeeds and no line that is run touches its file. -/
structure Undisturbed (host : Host) (settings : Settings) (s : Repl) (path : Path)
    (events : List Event) : Prop where
  saved : ∀ front line t asked history, front ++ [Event.line line] <+: events →
    Reaches host settings s front t → t.ask host settings = .ok asked →
      asked.history.add line = (true, history) → host.editor.takes (trim line) = true →
        (asked.world.saveLines path history.lines).1 = .ok ()
  untouched : ∀ front line now, front ++ [Event.line line] <+: events →
    Runs host settings s front line now →
      { (runLine host settings line now).2.world with place := now.world.place }.locate path =
        now.world.locate path

lemma InStep.shown (h : InStep s path lines t) (hask : t.ask host settings = .ok asked) :
    InStep s path lines asked := by
  obtain ⟨prompt, -, rfl⟩ := ask_eq_ok hask
  exact h.of_same ⟨rfl, rfl, rfl⟩ rfl

section
variable {events front : List Event} (h : Undisturbed host settings s path events)
  (hrooted : path.anchor ≠ .here)
  (heditor : host.editor = .present description takesNulls)
include h heditor

/-- What holds at a prompt holds when the line that answers it is run. -/
lemma InStep.run (hstep : InStep s path (linesOf front) t)
    (hreached : Reaches host settings s front t) (hevents : front ++ [Event.line line] <+: events)
    (hask : t.ask host settings = .ok asked)
    (hrecord : Repl.record host settings line asked = (.ok (), now)) :
    InStep s path (linesOf (front ++ [Event.line line])) now := by
  rw [linesOf_concat]
  exact (hstep.shown hask).record heditor hrecord fun history =>
    h.saved front line t asked history hevents hreached hask

include hrooted

lemma InStep.answer {event : Event} (hstep : InStep s path (linesOf front) t)
    (hreached : Reaches host settings s front t) (hevents : front ++ [event] <+: events)
    (hask : t.ask host settings = .ok asked)
    (hanswer : Repl.answer host settings asked event = (none, t')) :
    InStep s path (linesOf (front ++ [event])) t' := by
  have hasked := hstep.shown hask
  obtain ⟨rfl, rfl⟩ | ⟨line, rfl, hblank, rfl⟩ | ⟨line, now, rfl, hblank, hrecord, hrun⟩ :=
    answer_eq_none hanswer
  · rw [linesOf_concat, Event.line?, Option.toList_none, List.append_nil]
    exact hasked.of_same ⟨rfl, rfl, rfl⟩ rfl
  · rw [linesOf_concat]
    exact hasked.rejected (History.add_of_isBlankLine hblank)
  · have hnow := hstep.run h heditor hreached hevents hask hrecord
    have hlocate := h.untouched front line now hevents
      ⟨t, asked, hreached, hask, hblank, hrecord⟩
    have hsame := runLine_sameRecords host settings line now
    rw [World.locate_of_rooted hrooted, hrun] at hlocate
    rw [hrun] at hsame
    exact hnow.of_same hsame hlocate

lemma InStep.reached (hfirst : InStep s path [] s) (hreached : Reaches host settings s front t)
    (hevents : front <+: events) : InStep s path (linesOf front) t := by
  induction hreached with
  | first => exact hfirst
  | later hreached hask hanswer ih =>
    exact (ih ((List.prefix_append _ _).trans hevents)).answer h hrooted heditor hreached hevents
      hask hanswer

/-- What holds at the first prompt holds whenever a line is run. -/
lemma InStep.runs (hfirst : InStep s path [] s) (hruns : Runs host settings s front line now)
    (hevents : front ++ [Event.line line] <+: events) :
    InStep s path (linesOf (front ++ [Event.line line])) now := by
  obtain ⟨t, asked, hreached, hask, -, hrecord⟩ := hruns
  have hstep := hfirst.reached h hrooted heditor hreached ((List.prefix_append _ _).trans hevents)
  exact hstep.run h heditor hreached hevents hask hrecord

end

/-! ## The first prompt -/

/-- A file that has been touched is there, and the working folder is the same. -/
lemma touch_taken {w w' : World} (h : w.touch path = (.ok (), w')) :
    path.hasNull = false ∧ w'.place = w.place ∧
      ∃ spot, w'.locate path = .ok spot ∧ spot.IsTaken := by
  cases hnull : path.hasNull with
  | true => simp [World.touch, hnull] at h
  | false =>
    refine ⟨rfl, ?_⟩
    obtain ⟨l, hfree, htouch⟩ | ⟨⟨spot, hspot, htaken, -⟩, htouch⟩ | ⟨-, fault, htouch⟩ :=
      World.touch_cases hnull w
    · cases htouch.symm.trans h
      have hholds : { w with files := w.files.create l .empty w.fileMode }.Holds path .empty :=
        (World.holds_create hfree w.fileMode).2
      obtain ⟨l', data, hfile, -⟩ | ⟨l', d, hdevice⟩ := hholds
      · exact ⟨rfl, _, hfile, fun _ => Spot.noConfusion⟩
      · exact ⟨rfl, _, hdevice, fun _ => Spot.noConfusion⟩
    · cases htouch.symm.trans h
      exact ⟨rfl, spot, hspot, htaken⟩
    · cases htouch.symm.trans h

/-- A file that could be prepared is there, under a path that hosts take. -/
lemma ensureFile_taken {w w' : World} {notes : List Note}
    (h : w.ensureFile (some path) = (.ok (true, notes), w')) :
    path.hasNull = false ∧ w'.place = w.place ∧
      ∃ spot, w'.locate path = .ok spot ∧ spot.IsTaken := by
  unfold World.ensureFile at h
  dsimp only at h
  split at h
  · cases h
  · cases h
  next w₁ hfolder =>
    have hgrown := World.ensureFolder_grown w path.parent
    rw [hfolder] at hgrown
    obtain ⟨files, rfl, -⟩ := hgrown
    split at h
    · cases h
    · cases h
    next htouch =>
      cases h
      have hthere := touch_taken htouch
      exact hthere

/-- A history that is stored is stored where the settings say, and its file has been prepared and
loaded. -/
lemma openHistory_stored (hopen : openHistory settings s = (.ok (), t)) (hnone : s.store = none)
    (hstore : t.store = some path) :
    settings.historyPath = some path ∧ t.recalled = s.recalled ∧ ∃ notes loaded notes',
      s.world.ensureFile (some path) = (.ok (true, notes), t.world) ∧
        t.world.loadLines path = .ok (loaded, notes') ∧
          t.history = .ofLines loaded History.usualLimit := by
  unfold openHistory at hopen
  split at hopen
  · cases hopen
  next usable notes w hensure =>
    dsimp only at hopen
    split at hopen
    · cases hopen
      cases hnone.symm.trans hstore
    next other hpath =>
      split at hopen
      next husable =>
        split at hopen
        · cases hopen
        next loaded notes' hload =>
          cases hopen
          obtain rfl : other = path := Option.some.inj hstore
          rw [hpath, husable] at hensure
          exact ⟨hpath, rfl, notes, loaded, notes', hensure, hload, rfl⟩
      · cases hopen
        cases hnone.symm.trans hstore

/-- A loop whose editor has been set up with the lines of the history. -/
def edited (host : Host) (settings : Settings) (s : Repl) : Repl :=
  note settings host.editor.notes { s with
    recalled := (host.editor.setup s.history.lines).foldl Editor.Request.apply s.recalled }

lemma setupEditor_of_takes (htakes : ∀ line ∈ s.history.lines, host.editor.takes line = true)
    (settings : Settings) : setupEditor host settings s = (.ok (), s.edited host settings) := by
  have hgranted := Editor.perform_of_granted ((Editor.grants_setup_iff _ _).2 htakes) s.recalled
  simp only [setupEditor, edit, hgranted, edited]

/-- The editor is set up exactly if it takes all the lines of the history. -/
lemma setupEditor_cases (host : Host) (settings : Settings) (s : Repl) :
    ((∀ line ∈ s.history.lines, host.editor.takes line = true) ∧
      setupEditor host settings s = (.ok (), s.edited host settings)) ∨
    ((∃ line ∈ s.history.lines, host.editor.takes line = false) ∧
      (setupEditor host settings s).1 = .error .nullInLine) := by
  by_cases htakes : ∀ line ∈ s.history.lines, host.editor.takes line = true
  · exact .inl ⟨htakes, setupEditor_of_takes htakes settings⟩
  · have hrefused := htakes
    rw [← Editor.grants_setup_iff] at hrefused
    push Not at hrefused
    simp only [ne_eq, Bool.not_eq_true] at hrefused
    refine .inr ⟨by simpa using htakes, ?_⟩
    exact Editor.perform_of_refused hrefused s.recalled

/-- Before the first prompt the history is opened and the editor is set up with it. -/
lemma ready_opens {args : List String} (hready : ready host args s = (.ok settings, t)) :
    ∃ opened, openHistory settings s = (.ok (), opened) ∧
      (∀ line ∈ opened.history.lines, host.editor.takes line = true) ∧
      t = (opened.edited host settings).print (settings.banner ++ "\n") := by
  unfold ready at hready
  split at hready
  · cases hready
  · cases hready
  · split at hready
    · cases hready
    next settings' hload =>
      unfold start at hready
      split at hready
      · cases hready
      next opened hopen =>
        obtain ⟨htakes, hsetup⟩ | ⟨-, hrefused⟩ := setupEditor_cases host settings' opened
        · simp only [hsetup] at hready
          cases hready
          exact ⟨opened, hopen, htakes, rfl⟩
        · split at hready
          · cases hready
          next hsetup =>
            rw [hsetup] at hrefused
            cases hrefused

/-- With a history that has been opened, and that the editor takes, the loop is ready. -/
lemma ready_of_open {args : List String} {opened : Repl} (hread : Usage.read args = .start)
    (hload : Settings.load s.world.homes host.environment = .ok settings)
    (hopen : openHistory settings s = (.ok (), opened))
    (htakes : ∀ line ∈ opened.history.lines, host.editor.takes line = true) :
    ready host args s =
      (.ok settings, (opened.edited host settings).print (settings.banner ++ "\n")) := by
  simp only [ready, hread, hload, start, hopen, setupEditor_of_takes htakes]

lemma ready_eq_ok {args : List String} {w : World} {recalled : List String}
    (hready : ready host args (.before w recalled) = (.ok settings, s))
    (hstore : s.store = some path) :
    settings.historyPath = some path ∧ path.hasNull = false ∧ s.world.place = w.place ∧
    (∃ spot, s.world.locate path = .ok spot ∧ spot.IsTaken) ∧
    (∃ loaded notes, s.world.loadLines path = .ok (loaded, notes) ∧
      s.history = .ofLines loaded History.usualLimit) ∧
    s.recalled = (host.editor.setup s.history.lines).foldl Editor.Request.apply recalled := by
  obtain ⟨opened, hopen, -, rfl⟩ := ready_opens hready
  obtain ⟨hpath, hrecalled, notes, loaded, notes', hensure, hload, hhistory⟩ :=
    openHistory_stored hopen rfl hstore
  obtain ⟨hnull, hplace, hspot⟩ := ensureFile_taken hensure
  exact ⟨hpath, hnull, hplace, hspot, ⟨loaded, notes', hload, hhistory⟩,
    congrArg ((host.editor.setup opened.history.lines).foldl Editor.Request.apply) hrecalled⟩

end Repl

/-- Whenever a line is run, the editor recalls the loaded lines and then all that were accepted, the
history has the newest of these, and once a line has been accepted the text of its file, which is no
device, is the history. The line itself is the newest one if it was accepted. -/
theorem session_keeps_in_step (host : Host) (args : List String) (w : World)
    (recalled : List String) (settings : Settings) (s : Repl) (description : String)
    (takesNulls : Bool) (path : Path) (events front : List Event) (line : String) (now : Repl)
    (hready : Repl.ready host args (.before w recalled) = (.ok settings, s))
    (heditor : host.editor = .present description takesNulls) (hstore : s.store = some path)
    (hrooted : path.anchor ≠ .here) (hdevice : ¬ ∃ l d, s.world.locate path = .ok (.device l d))
    (h : Repl.Undisturbed host settings s path events)
    (hevents : front ++ [Event.line line] <+: events)
    (hruns : Repl.Runs host settings s front line now) :
    (∀ rest, s.loop host settings (front ++ .line line :: rest) =
      match Repl.runLine host settings line now with
      | (some ended, t) => (ended, t)
      | (none, t) => t.loop host settings rest) ∧
    (∃ loaded notes, s.world.loadLines path = .ok (loaded, notes) ∧
      s.history = .ofLines loaded History.usualLimit) ∧
    now.recalled = s.history.lines ++ s.history.accepted (linesOf (front ++ [Event.line line])) ∧
    now.history.lines = History.lastLines History.usualLimit now.recalled ∧
    (s.history.accepted (linesOf (front ++ [Event.line line])) ≠ [] →
      ∃ l data, now.world.locate path = .ok (.file l data) ∧
        data.bytes = (History.text now.history.lines).toByteArray) ∧
    (((s.history.addAll (linesOf front)).add line).1 = true →
      s.history.accepted (linesOf (front ++ [Event.line line])) ≠ [] ∧
        now.history.lines.getLast? = some (trim line)) := by
  obtain ⟨-, hnull, -, ⟨spot, hspot, htaken⟩, ⟨loaded, notes, hload, hhistory⟩, hrecalled⟩ :=
    Repl.ready_eq_ok hready hstore
  rw [heditor, Editor.foldl_setup] at hrecalled
  have hfirst : Repl.InStep s path [] s := by
    refine .first hstore hspot htaken ?_
    rintro ⟨l, d, rfl⟩
    exact hdevice ⟨l, d, hspot⟩
  have hnow := hfirst.runs h hrooted heditor hruns hevents
  have hboth : now.recalled = s.history.lines ++
      s.history.accepted (linesOf (front ++ [Event.line line])) := by
    rw [hnow.recalled, hrecalled]
  have hlimit : s.history.limit = History.usualLimit := by rw [hhistory, History.ofLines]
  have hlength : (s.history.lines.length : Int) ≤ History.usualLimit := by
    rw [hhistory]
    exact History.length_ofLines_le History.usualLimit_pos loaded
  have hlines : now.history.lines = History.lastLines History.usualLimit now.recalled := by
    rw [hnow.history, hboth, ← hlimit]
    rw [← hlimit] at hlength
    exact History.addAll_lines (hlimit ▸ History.usualLimit_pos) hlength _
  refine ⟨hruns.loop, ⟨loaded, notes, hload, hhistory⟩, hboth, hlines, ?_, ?_⟩
  · intro hsome
    obtain ⟨spot, hspot, -, -, hbytes⟩ := hnow.stored
    obtain ⟨l, data, rfl, hdata⟩ := hbytes hsome
    exact ⟨l, data, hspot, hdata⟩
  · intro hadd
    have hlast : s.history.accepted (linesOf (front ++ [Event.line line])) =
        s.history.accepted (linesOf front) ++ [trim line] := by
      rw [linesOf_concat]
      exact History.accepted_concat_of_add hadd
    rw [hlines, hboth, hlast, ← List.append_assoc]
    exact ⟨List.concat_ne_nil _ _, History.getLast?_lastLines_concat History.usualLimit_pos _ _⟩

/-! ## A session of one line -/

/-- A host on which no program starts. -/
def Host.bare : Host :=
  ⟨fun _ _ w => (.error (.refused "" "command not found"), w), [("PIPESHELL_HISTORY", "/h")],
    .present "" false, false⟩

def Settings.bare : Settings := ⟨some ⟨.root, ["h"]⟩, usualPrompt, false, usualBanner⟩

/-- A world with nothing in it but a file for a history. -/
def World.storing (bytes : ByteArray) (text : String) : World :=
  { World.ofEntries [(["h"], .file ⟨bytes, 0o644, 0⟩)] with printed := text }

lemma World.locate_storing (bytes : ByteArray) (text : String) :
    (storing bytes text).locate ⟨.root, ["h"]⟩ = .ok (.file ["h"] ⟨bytes, 0o644, 0⟩) :=
  rfl

lemma World.saveLines_storing (bytes : ByteArray) (text : String) (lines : List String) :
    (storing bytes text).saveLines ⟨.root, ["h"]⟩ lines =
      (.ok (), storing (History.text lines).toByteArray text) := by
  cbv

namespace Repl
variable {host : Host} {settings : Settings} {s asked : Repl} {path : Path} {line : String}
  (bytes : ByteArray) (text : String) (lines : List String)

/-- A loop with a file for its history. -/
def storing : Repl :=
  ⟨.begin (.storing bytes text), ⟨lines, History.usualLimit⟩, some ⟨.root, ["h"]⟩, lines, ""⟩

lemma ask_storing : (storing bytes text lines).ask .bare .bare =
    .ok (storing bytes (text ++ "/ >> ") lines) :=
  rfl

lemma record_storing : record .bare .bare "clear " (storing bytes text ["ls"]) =
    (.ok (), storing (History.text ["ls", "clear"]).toByteArray text ["ls", "clear"]) := by
  have hadd : (⟨["ls"], History.usualLimit⟩ : History).add "clear " =
      (true, ⟨["ls", "clear"], History.usualLimit⟩) := by decide
  have htrim : trim "clear " = "clear" := by decide
  have htakes : Host.bare.editor.takes (trim "clear ") = true := by
    simp [htrim, Host.bare, Editor.takes]
  rw [record_of_taken hadd htakes, htrim]
  exact save_of_saveLines rfl (World.saveLines_storing bytes text _)

lemma ready_storing : ready .bare [] (.before (.storing "ls\n".toByteArray "") []) =
    (.ok .bare, storing "ls\n".toByteArray (Settings.usualBanner ++ "\n") ["ls"]) := by
  have hopen : openHistory .bare (.before (.storing "ls\n".toByteArray "") []) = (.ok (),
      { storing "ls\n".toByteArray "" ["ls"] with recalled := [] }) := by cbv
  have htakes : ∀ line ∈ ["ls"], Host.bare.editor.takes line = true := by
    simp [Host.bare, Editor.takes]
  rw [ready_of_open rfl rfl hopen htakes]
  rfl

lemma runLine_clear (hwords : words line = ["clear"]) (host : Host) (settings : Settings)
    (now : Repl) :
    (runLine host settings line now).2.world = now.world.print Builtin.clearScreen :=
  (runLine_of_builtin hwords (by decide) (by simp) rfl rfl host settings).2

/-- A session of one line is undisturbed if the line is saved and does not touch the file. -/
lemma Undisturbed.of_line (hask : s.ask host settings = .ok asked)
    (hsave : ∀ history : History, (asked.world.saveLines path history.lines).1 = .ok ())
    (hrun : ∀ now, record host settings line asked = (.ok (), now) →
      { (runLine host settings line now).2.world with place := now.world.place }.locate path =
        now.world.locate path) :
    Undisturbed host settings s path [.line line] := by
  have honly : ∀ {front : List Event} {other : String},
      front ++ [Event.line other] <+: [.line line] → front = [] ∧ other = line := by
    intro front other hprefix
    cases front with
    | nil => simpa using hprefix
    | cons event front => simpa using hprefix.length_le
  constructor
  · intro front other t asked' history hprefix hreached hask' hadd htakes
    obtain ⟨rfl, rfl⟩ := honly hprefix
    obtain rfl := reaches_nil_iff.1 hreached
    obtain rfl := Except.ok.inj (hask.symm.trans hask')
    exact hsave history
  · rintro front other now hprefix ⟨t, asked', hreached, hask', -, hrecord⟩
    obtain ⟨rfl, rfl⟩ := honly hprefix
    obtain rfl := reaches_nil_iff.1 hreached
    obtain rfl := Except.ok.inj (hask.symm.trans hask')
    exact hrun now hrecord

lemma undisturbed_storing : Undisturbed .bare .bare (storing bytes text ["ls"]) ⟨.root, ["h"]⟩
    [.line "clear "] := by
  refine .of_line (ask_storing bytes text ["ls"])
    (fun history => congrArg Prod.fst (World.saveLines_storing bytes _ history.lines)) ?_
  intro now hrecord
  rw [record_storing] at hrecord
  cases hrecord
  rw [runLine_clear (by decide)]
  rfl

end Repl

/-- A line with a blank behind it is recorded without the blank before it is run. -/
theorem session_keeps_in_step_of_clear :
    let first := Repl.storing "ls\n".toByteArray (Settings.usualBanner ++ "\n") ["ls"]
    ∃ now, Repl.ready .bare [] (.before (.storing "ls\n".toByteArray "") []) = (.ok .bare, first) ∧
      Repl.Runs .bare .bare first [] "clear " now ∧ now.recalled = ["ls", "clear"] ∧
      ∃ l data, now.world.locate ⟨.root, ["h"]⟩ = .ok (.file l data) ∧
        data.bytes = (History.text now.history.lines).toByteArray := by
  intro first
  have hruns : Repl.Runs .bare .bare first [] "clear " _ :=
    ⟨_, _, .first, Repl.ask_storing _ _ _, by decide, Repl.record_storing _ _⟩
  have haccepted : first.history.accepted (linesOf ([] ++ [Event.line "clear "])) = ["clear"] :=
    show (⟨["ls"], History.usualLimit⟩ : History).accepted ["clear "] = ["clear"] by decide
  have hdevice : ¬ ∃ l d, first.world.locate ⟨.root, ["h"]⟩ = .ok (.device l d) := by
    rintro ⟨l, d, hlocate⟩
    cases (World.locate_storing _ _).symm.trans hlocate
  refine ⟨_, Repl.ready_storing, hruns, ?_⟩
  obtain ⟨-, -, hrecalled, -, hstored, -⟩ := session_keeps_in_step .bare []
    (.storing "ls\n".toByteArray "") [] .bare first "" false ⟨.root, ["h"]⟩ _ [] "clear " _
    Repl.ready_storing rfl rfl (by decide) hdevice (Repl.undisturbed_storing _ _)
    (List.prefix_refl _) hruns
  rw [haccepted] at hrecalled hstored
  exact ⟨hrecalled, hstored (List.cons_ne_nil _ _)⟩

/-! ## A device for a history -/

/-- The path of the device that drops what is written to it. -/
def Path.devNull : Path := ⟨.root, ["dev", "null"]⟩

/-- A host on which the history goes to that device. -/
def Host.dropping : Host := { Host.bare with environment := [("PIPESHELL_HISTORY", "/dev/null")] }

def Settings.dropping : Settings := { Settings.bare with historyPath := some .devNull }

/-- A world with nothing in it but the device. -/
def World.dropping (text : String) : World :=
  { World.ofEntries [(["dev"], .usualFolder), (["dev", "null"], .device .null)] with
    printed := text }

namespace Repl
variable (text : String) (lines : List String)

/-- A loop whose history goes to the device. -/
def dropping : Repl :=
  ⟨.begin (.dropping text), ⟨lines, History.usualLimit⟩, some .devNull, lines, ""⟩

lemma ask_dropping :
    (dropping text lines).ask .dropping .dropping = .ok (dropping (text ++ "/ >> ") lines) :=
  rfl

lemma saveLines_dropping :
    (World.dropping text).saveLines .devNull lines = (.ok (), .dropping text) := by
  cbv

lemma record_dropping : record .dropping .dropping "clear" (dropping text []) =
    (.ok (), dropping text ["clear"]) := by
  have hadd : (⟨[], History.usualLimit⟩ : History).add "clear" =
      (true, ⟨["clear"], History.usualLimit⟩) := by decide
  have htrim : trim "clear" = "clear" := by decide
  have htakes : Host.dropping.editor.takes (trim "clear") = true := by
    simp [htrim, Host.dropping, Host.bare, Editor.takes]
  rw [record_of_taken hadd htakes, htrim]
  exact save_of_saveLines rfl (saveLines_dropping text _)

lemma ready_dropping : ready .dropping [] (.before (.dropping "") []) =
    (.ok .dropping, dropping (Settings.usualBanner ++ "\n") []) := by
  have hopen : openHistory .dropping (.before (.dropping "") []) =
      (.ok (), dropping "" []) := by cbv
  have htakes : ∀ line ∈ (dropping "" []).history.lines,
      Host.dropping.editor.takes line = true := by simp [dropping]
  rw [ready_of_open rfl rfl hopen htakes]
  rfl

lemma undisturbed_dropping :
    Undisturbed .dropping .dropping (dropping text []) .devNull [.line "clear"] := by
  refine .of_line (ask_dropping text [])
    (fun history => congrArg Prod.fst (saveLines_dropping _ history.lines)) ?_
  intro now hrecord
  rw [record_dropping] at hrecord
  cases hrecord
  rw [runLine_clear (by decide)]
  rfl

end Repl

/-- Of a history that goes to a device no text is left. -/
theorem session_out_of_step_on_device :
    ¬ ∀ (host : Host) (args : List String) (w : World) (recalled : List String)
      (settings : Settings) (s : Repl) (description : String) (takesNulls : Bool) (path : Path)
      (events front : List Event) (line : String) (now : Repl),
      Repl.ready host args (.before w recalled) = (.ok settings, s) →
      host.editor = .present description takesNulls → s.store = some path → path.anchor ≠ .here →
      Repl.Undisturbed host settings s path events → front ++ [Event.line line] <+: events →
      Repl.Runs host settings s front line now →
      s.history.accepted (linesOf (front ++ [Event.line line])) ≠ [] →
        now.world.read path = .ok (History.text now.history.lines).toByteArray := by
  intro h
  let first := Repl.dropping (Settings.usualBanner ++ "\n") []
  have hruns : Repl.Runs .dropping .dropping first [] "clear" _ :=
    ⟨_, _, .first, Repl.ask_dropping _ _, by decide, Repl.record_dropping _⟩
  have haccepted : first.history.accepted (linesOf ([] ++ [Event.line "clear"])) ≠ [] :=
    show (⟨[], History.usualLimit⟩ : History).accepted ["clear"] ≠ [] by decide
  have hread := h .dropping [] (.dropping "") [] .dropping first "" false .devNull _ [] "clear" _
    Repl.ready_dropping rfl rfl (by decide) (Repl.undisturbed_dropping _) (List.prefix_refl _)
    hruns haccepted
  have hnothing : (World.dropping (Settings.usualBanner ++ "\n" ++ "/ >> ")).read .devNull =
      .ok .empty := by cbv
  have hsame := Except.ok.inj (hnothing.symm.trans hread)
  revert hsame
  decide

end CommandShell
