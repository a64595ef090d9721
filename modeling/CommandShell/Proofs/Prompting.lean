import CommandShell.Proofs.Escapes
import CommandShell.Proofs.Recalling

/-!
# From the first prompt to the last

Files and folders fail with errors of the host, unless their path holds a null character, and such
errors end neither the start of the loop nor the recording of a line. As long as every line that is
run comes back or is interrupted, the loop goes from prompt to prompt until the input ends. Two
things it cannot do without: the working folder, which the prompt names, and an editor that takes
what is recorded.
-/
namespace CommandShell
open Text

/-! ## Errors of the host -/

lemma Path.hasNull_parent {p : Path} (h : p.hasNull = false) : p.parent.hasNull = false := by
  rw [hasNull, List.any_eq_false] at h ⊢
  exact fun part hpart => h part (List.dropLast_subset _ hpart)

namespace World
variable {w w' : World} {p path : Path} {e : Escape} {lines : List String}

/-- A folder that cannot be accepted is an error of the host, whatever its path. -/
lemma acceptFolder_error {fault : FileFault} (h : w.acceptFolder p fault = .error e) :
    ∃ error, e = .system error := by
  unfold acceptFolder isFolder at h
  split at h
  next other hother =>
    cases h
    split at hother
    · cases hother
    · split at hother
      · cases hother
      · cases hother
      · split at hother
        · cases hother
        · exact ⟨_, (Except.error.inj hother).symm⟩
  · cases h
  · exact ⟨_, (Except.error.inj h).symm⟩

lemma ensureLastFolder_error (h : w.ensureLastFolder p = (.error e, w')) :
    ∃ error, e = .system error := by
  unfold ensureLastFolder at h
  split at h
  · cases h
  · cases h
    exact ⟨_, rfl⟩
  · exact acceptFolder_error (congrArg Prod.fst h)

lemma ensureFolderTo_error {depth : Nat} (h : w.ensureFolderTo p depth = (.error e, w')) :
    ∃ error, e = .system error := by
  induction depth generalizing w' e with
  | zero => exact ensureLastFolder_error h
  | succ depth ih =>
    unfold ensureFolderTo at h
    dsimp only at h
    split at h
    · cases h
    · split at h
      next hdeeper =>
        cases h
        exact ih hdeeper
      · exact ensureLastFolder_error h
    · exact acceptFolder_error (congrArg Prod.fst h)

lemma ensureFolder_error (hnull : p.hasNull = false) (h : w.ensureFolder p = (.error e, w')) :
    ∃ error, e = .system error := by
  rw [ensureFolder, hnull] at h
  exact ensureFolderTo_error h

lemma touch_error (hnull : p.hasNull = false) (h : w.touch p = (.error e, w')) :
    ∃ error, e = .system error := by
  obtain ⟨l, -, htouch⟩ | ⟨-, htouch⟩ | ⟨-, fault, htouch⟩ := touch_cases hnull w
  · cases htouch.symm.trans h
  · cases htouch.symm.trans h
  · cases htouch.symm.trans h
    exact ⟨_, rfl⟩

lemma saveLines_error (hnull : path.hasNull = false) (h : w.saveLines path lines = (.error e, w')) :
    ∃ error, e = .system error := by
  unfold saveLines at h
  split at h
  next hfolder =>
    cases h
    exact ensureFolder_error (Path.hasNull_parent hnull) hfolder
  · exact write_error hnull h

lemma loadLines_ok (hnull : path.hasNull = false) (w : World) :
    ∃ loaded, w.loadLines path = .ok loaded := by
  unfold loadLines
  split
  · exact ⟨_, rfl⟩
  · exact ⟨_, rfl⟩
  next hother hread =>
    obtain ⟨error, rfl⟩ := (read_error hread).resolve_right fun hnone => by simp [hnull] at hnone
    exact absurd rfl (hother error)
  · split
    · exact ⟨_, rfl⟩
    · exact ⟨_, rfl⟩

lemma ensureFile_ok {path : Option Path} (hnull : ∀ p ∈ path, p.hasNull = false) (w : World) :
    ∃ prepared, (w.ensureFile path).1 = .ok prepared := by
  unfold ensureFile
  split
  · exact ⟨_, rfl⟩
  next path =>
    have hpath := hnull path rfl
    split
    · exact ⟨_, rfl⟩
    next e w' hother hfolder =>
      obtain ⟨error, rfl⟩ := ensureFolder_error (Path.hasNull_parent hpath) hfolder
      exact absurd rfl (hother error)
    · split
      · exact ⟨_, rfl⟩
      next e w' hother htouch =>
        obtain ⟨error, rfl⟩ := touch_error hpath htouch
        exact absurd rfl (hother error)
      · exact ⟨_, rfl⟩

end World

namespace Repl
variable {host : Host} {settings : Settings} {s t asked now : Repl} {front rest events : List Event}
  {event : Event} {line : String} {path : Path}

/-! ## Recording -/

/-- The history of a loop is stored under a path that hosts take, if it is stored at all. -/
def Storable (s : Repl) : Prop := ∀ path ∈ s.store, path.hasNull = false

lemma save_store (settings : Settings) (s : Repl) : (save settings s).2.store = s.store := by
  unfold save
  split
  · rfl
  · split <;> rfl

lemma save_ok (h : s.Storable) (settings : Settings) : (save settings s).1 = .ok () := by
  unfold save
  split
  · rfl
  next path hstore =>
    split
    · rfl
    · rfl
    next e w hother hsave =>
      obtain ⟨error, rfl⟩ := World.saveLines_error (h path hstore) hsave
      exact absurd rfl (hother error)

/-- Recording a line does not fail either, unless the editor does not take the line. -/
lemma record_cases (h : s.Storable) (host : Host) (settings : Settings) (line : String) :
    (∃ t, record host settings line s = (.ok (), t) ∧ t.store = s.store) ∨
      ∃ history, s.history.add line = (true, history) ∧ host.editor.takes (trim line) = false ∧
        record host settings line s = (.error .nullInLine, { s with history }) := by
  cases hadd : s.history.add line with
  | mk accepted history =>
    cases accepted with
    | false => exact .inl ⟨s, record_of_rejected (by rw [hadd]), rfl⟩
    | true =>
      cases htakes : host.editor.takes (trim line) with
      | false => exact .inr ⟨history, rfl, rfl, record_of_untaken hadd htakes⟩
      | true =>
        obtain ⟨t, hrecord, hstore⟩ : ∃ t, record host settings line s = save settings t ∧
            t.store = s.store := ⟨_, record_of_taken hadd htakes, rfl⟩
        have hstorable : t.Storable := by rwa [Storable, hstore]
        rw [hrecord]
        exact .inl ⟨_, Prod.ext (save_ok hstorable settings) rfl,
          (save_store settings t).trans hstore⟩

/-- The history can be opened whether or not its file can be used. -/
lemma openHistory_ok (hnull : ∀ path ∈ settings.historyPath, path.hasNull = false)
    (hnone : s.store = none) :
    ∃ t, openHistory settings s = (.ok (), t) ∧ t.Storable := by
  have hunstored {t : Repl} (ht : t.store = s.store) : t.Storable := by
    rw [Storable, ht, hnone]
    simp
  obtain ⟨prepared, hprepared⟩ := World.ensureFile_ok hnull s.world
  unfold openHistory
  split
  next e w hfailed =>
    rw [hfailed] at hprepared
    cases hprepared
  next usable notes w hensure =>
    dsimp only
    split
    · exact ⟨_, rfl, hunstored rfl⟩
    next path hpath =>
      split
      · obtain ⟨loaded, hload⟩ := World.loadLines_ok (hnull path hpath) w
        simp only [hload]
        exact ⟨_, rfl, fun stored hstored => Option.some.inj hstored ▸ hnull path hpath⟩
      · exact ⟨_, rfl, hunstored rfl⟩

/-- With a history that has been opened the loop starts, unless the editor does not take one of its
lines. -/
lemma start_of_open {opened : Repl} (hopen : openHistory settings s = (.ok (), opened))
    (host : Host) :
    ((∀ line ∈ opened.history.lines, host.editor.takes line = true) ∧
      ∃ t, start host settings s = (.ok settings, t) ∧ t.history = opened.history ∧
        t.store = opened.store ∧ t.world.folderText = opened.world.folderText) ∨
    (∃ line ∈ opened.history.lines, host.editor.takes line = false) ∧
      (start host settings s).1 = .error (.failed .nullInLine) := by
  simp only [start, hopen]
  refine (setupEditor_cases host settings opened).imp ?_ ?_
  · rintro ⟨htakes, hsetup⟩
    rw [hsetup]
    exact ⟨htakes, _, rfl, rfl, rfl, rfl⟩
  · rintro ⟨huntaken, hsetup⟩
    refine ⟨huntaken, ?_⟩
    generalize setupEditor host settings opened = ended at hsetup
    obtain ⟨result, t⟩ := ended
    obtain rfl : result = .error .nullInLine := hsetup
    rfl

/-! ## From the first prompt to the last -/

/-- A line that, run in a state, comes back or is interrupted. -/
def Returns (host : Host) (line : String) (now : Repl) : Prop :=
  ∀ e, (CommandShell.runLine now.registry host.spawner line { now.run with trace := [] }).1 =
    .left e → e = .interrupt

lemma runLine_of_returns (h : now.Returns host line) (settings : Settings) :
    ∃ t, runLine host settings line now = (none, t) ∧ t.store = now.store := by
  have hstore := (runLine_sameRecords host settings line now).store
  have hnone : (runLine host settings line now).1 = none := by
    unfold runLine
    dsimp only
    split
    · rfl
    · rfl
    next hleft => cases h _ hleft
    next hinterrupt _ hleft => exact absurd (h _ hleft) hinterrupt
  exact ⟨_, Prod.ext hnone rfl, hstore⟩

/-- When the line that answers a prompt comes back, the prompt is answered without an end, unless
the line is recorded and the editor does not take it. -/
lemma answer_of_returns (h : asked.Storable)
    (hreturns : ∀ line now, event = .line line → isBlankLine line = false →
      record host settings line asked = (.ok (), now) → now.Returns host line) :
    (∃ t, answer host settings asked event = (none, t) ∧ t.store = asked.store) ∨
      ∃ line history, event = .line line ∧ asked.history.add line = (true, history) ∧
        host.editor.takes (trim line) = false ∧
        answer host settings asked event =
          (some (.failed .nullInLine), { asked with history }) := by
  cases event with
  | interrupt => exact .inl ⟨_, rfl, rfl⟩
  | line line =>
    cases hblank : isBlankLine line with
    | true => exact .inl ⟨asked, by simp [answer, hblank], rfl⟩
    | false =>
      obtain ⟨now, hrecord, hstore⟩ | ⟨history, hadd, htakes, hrecord⟩ :=
        record_cases h host settings line
      · obtain ⟨t, hrun, hsame⟩ :=
          runLine_of_returns (hreturns line now rfl hblank hrecord) settings
        exact .inl ⟨t, by simp [answer, hblank, hrecord, hrun], hsame.trans hstore⟩
      · exact .inr ⟨line, history, rfl, hadd, htakes, by simp [answer, hblank, hrecord]⟩

/-- The last event before a prompt was answered at the prompt before. -/
lemma exists_of_reaches_concat (h : Reaches host settings s (front ++ [event]) t) :
    ∃ t' asked, Reaches host settings s front t' ∧ t'.ask host settings = .ok asked ∧
      answer host settings asked event = (none, t) := by
  generalize hfront : front ++ [event] = events at h
  cases h with
  | first => simp at hfront
  | later hreached hask hanswer =>
    obtain ⟨rfl, heq⟩ := List.append_inj' hfront rfl
    obtain rfl := List.singleton_injective heq
    exact ⟨_, _, hreached, hask, hanswer⟩

/-- How a loop ends whose lines come back: it has answered some of the events, and either the
working folder is gone, or the next line is recorded and the editor does not take it, or there are
no more of them. -/
inductive Ends (host : Host) (settings : Settings) (s : Repl) (events : List Event) :
    ReplEnd × Repl → Prop
  | lost {front rest : List Event} {t : Repl} (hevents : front ++ rest = events)
      (hreached : Reaches host settings s front t) (hgone : t.world.folderText = none) :
      Ends host settings s events (.failed folderGone, t)
  | untaken {front rest : List Event} {line : String} {t asked : Repl} {history : History}
      (hevents : front ++ .line line :: rest = events) (hreached : Reaches host settings s front t)
      (hask : t.ask host settings = .ok asked) (hadd : asked.history.add line = (true, history))
      (htakes : host.editor.takes (trim line) = false) :
      Ends host settings s events (.failed .nullInLine, { asked with history })
  | closed {t : Repl} {prompt : String} (hreached : Reaches host settings s events t)
      (hprompt : t.prompt host settings = some prompt) :
      Ends host settings s events (.exited 0, (t.print prompt).print "Exiting!\n")

lemma prompt_eq_none (h : s.prompt host settings = none) : s.world.folderText = none :=
  Option.map_eq_none_iff.1 h

lemma Reaches.lost (hreached : Reaches host settings s front t) (hevents : front ++ rest = events)
    (hprompt : t.prompt host settings = none) :
    Ends host settings s events (s.loop host settings events) := by
  have hloop := hreached.loop rest
  have hend : t.loop host settings rest = (.failed folderGone, t) := by
    cases rest <;> simp only [Repl.loop, ask, hprompt]
  rw [hevents, hend] at hloop
  rw [hloop]
  exact .lost hevents hreached (prompt_eq_none hprompt)

/-- From any prompt, the loop ends that way if the lines that are still to come come back. -/
lemma Reaches.ends (hreached : Reaches host settings s front t) (hstorable : t.Storable)
    (hreturns : ∀ front line now, front ++ [Event.line line] <+: events →
      Runs host settings s front line now → now.Returns host line)
    (hevents : front ++ rest = events) :
    Ends host settings s events (s.loop host settings events) := by
  induction rest generalizing front t with
  | nil =>
    cases hprompt : t.prompt host settings with
    | none => exact hreached.lost hevents hprompt
    | some prompt =>
      have hloop := hreached.loop []
      simp only [hevents, Repl.loop, ask, hprompt] at hloop
      rw [hloop]
      rw [List.append_nil] at hevents
      exact .closed (hevents ▸ hreached) hprompt
  | cons event rest ih =>
    cases hprompt : t.prompt host settings with
    | none => exact hreached.lost hevents hprompt
    | some prompt =>
      have hask : t.ask host settings = .ok (t.print prompt) := by simp only [ask, hprompt]
      have hsplit : front ++ [event] ++ rest = events := by
        rw [List.append_assoc, List.singleton_append, hevents]
      have hasked : (t.print prompt).Storable := hstorable
      have hcomes : ∀ line now, event = .line line → isBlankLine line = false →
          record host settings line (t.print prompt) = (.ok (), now) → now.Returns host line := by
        rintro line now rfl hblank hrecord
        exact hreturns front line now ⟨rest, hsplit⟩ ⟨t, _, hreached, hask, hblank, hrecord⟩
      obtain ⟨t', hanswer, hstore⟩ | ⟨line, history, rfl, hadd, htakes, hanswer⟩ :=
        answer_of_returns hasked hcomes
      · refine ih (.later hreached hask hanswer) ?_ hsplit
        rw [Storable, hstore]
        exact hstorable
      · have hloop := hreached.loop (.line line :: rest)
        rw [hevents, Repl.loop, hask] at hloop
        simp only [hanswer] at hloop
        rw [hloop]
        exact .untaken hevents hreached hask hadd htakes

end Repl

lemma Settings.hasNull_bare : ∀ path ∈ bare.historyPath, path.hasNull = false := by
  simp [bare, Path.hasNull]

lemma Repl.lines_of_openHistory_bare {opened : Repl}
    (h : openHistory .bare (.before World.bare []) = (.ok (), opened)) :
    opened.history.lines = [] := by
  have hlines : (openHistory .bare (.before World.bare [])).2.history.lines = [] := by cbv
  rwa [h] at hlines

/-- A host on which every program takes the working folder away. -/
def Host.sweeping : Host :=
  { Host.bare with spawner := fun _ _ w => (.ok (.writing .empty false 0), w.discard w.place.path) }

lemma World.folderText_discard (w : World) : (w.discard w.place.path).folderText = none := by
  simp [folderText, discard, Place.afterRemoval]

namespace Repl

/-- A line that starts a program there comes back, with the working folder gone. -/
lemma runLine_sweeping (now : Repl) :
    ∃ r, CommandShell.runLine now.registry Host.sweeping.spawner "sweep"
      { now.run with trace := [] } = (.finished ⟨"", "", 0⟩, r) ∧ r.world.folderText = none := by
  have hwords : words "sweep" = ["sweep"] := by decide
  obtain ⟨r, -, hrun⟩ := runLine_of_call hwords (by decide) (by simp) now.registry
    Host.sweeping.spawner { now.run with trace := [] }
  have hdecode : Utf8.decode .empty = .ok "" := Utf8.decode_toByteArray ""
  have hprogram : now.registry.builtin? "sweep" = none := rfl
  rw [hrun]
  simp [runSingle, hprogram, runProgram, singleInput, Host.sweeping, Run.spawn, collect,
    Process.writing, Process.collected, deliver, hdecode, unlines, World.folderText_discard]

end Repl

end CommandShell
