import CommandShell.Proofs.Escapes
import CommandShell.Repl

/-!
# From prompt to prompt

The loop as a relation: a prompt is reached from another one through the events between them, and a
line is run in the state that recording it has left. Running a line touches neither the history nor
the recalled lines nor where the history is stored.
-/
namespace CommandShell
open Text

/-! ## What the editor is asked for -/

namespace Editor
variable {editor : Editor} {requests : List Request}

lemma perform_of_granted (h : ∀ request ∈ requests, editor.grants request = true)
    (recalled : List String) :
    editor.perform recalled requests = (.ok (), requests.foldl Request.apply recalled) := by
  induction requests generalizing recalled with
  | nil => rfl
  | cons request rest ih =>
    obtain ⟨hfirst, hrest⟩ := List.forall_mem_cons.1 h
    rw [perform, if_pos hfirst, ih hrest, List.foldl_cons]

/-- The first request that is refused is the last that is looked at. -/
lemma perform_of_refused (h : ∃ request ∈ requests, editor.grants request = false)
    (recalled : List String) : (editor.perform recalled requests).1 = .error .nullInLine := by
  induction requests generalizing recalled with
  | nil => simp at h
  | cons request rest ih =>
    rw [perform]
    split
    next hfirst => exact ih (by simpa [hfirst] using h) _
    · rfl

lemma grants_record_iff (editor : Editor) (line : String) :
    (∀ request ∈ editor.record line, editor.grants request = true) ↔ editor.takes line = true := by
  cases editor <;> simp [record, grants, takes]

lemma grants_setup_iff (editor : Editor) (lines : List String) :
    (∀ request ∈ editor.setup lines, editor.grants request = true) ↔
      ∀ line ∈ lines, editor.takes line = true := by
  cases editor <;> simp [setup, grants, takes]

end Editor

namespace Repl
variable {host : Host} {settings : Settings} {s t asked now : Repl} {front rest : List Event}
  {event : Event} {line : String}

/-- A later prompt, with the events that have been answered since the first one. -/
inductive Reaches (host : Host) (settings : Settings) (s : Repl) : List Event → Repl → Prop
  | first : Reaches host settings s [] s
  | later {front : List Event} {t asked t' : Repl} {event : Event}
      (hreached : Reaches host settings s front t) (hask : t.ask host settings = .ok asked)
      (hanswer : answer host settings asked event = (none, t')) :
      Reaches host settings s (front ++ [event]) t'

/-- A line that is run behind some events, with the state in which it is. -/
def Runs (host : Host) (settings : Settings) (s : Repl) (front : List Event) (line : String)
    (now : Repl) : Prop :=
  ∃ t asked, Reaches host settings s front t ∧ t.ask host settings = .ok asked ∧
    isBlankLine line = false ∧ record host settings line asked = (.ok (), now)

lemma Reaches.loop (h : Reaches host settings s front t) (rest : List Event) :
    s.loop host settings (front ++ rest) = t.loop host settings rest := by
  induction h generalizing rest with
  | first => rfl
  | later hreached hask hanswer ih =>
    rw [List.append_assoc, ih, List.singleton_append, Repl.loop, hask]
    simp only [hanswer]

/-- The loop runs a line in the state that recording it has left. -/
lemma Runs.loop (h : Runs host settings s front line now) (rest : List Event) :
    s.loop host settings (front ++ .line line :: rest) =
      match runLine host settings line now with
      | (some ended, t) => (ended, t)
      | (none, t) => t.loop host settings rest := by
  obtain ⟨t, asked, hreached, hask, hblank, hrecord⟩ := h
  rw [hreached.loop, Repl.loop, hask]
  simp only [answer, hblank, hrecord]
  rfl

lemma reaches_nil_iff : Reaches host settings s [] t ↔ t = s := by
  refine ⟨fun h => ?_, fun h => h ▸ .first⟩
  generalize hfront : ([] : List Event) = front at h
  cases h with
  | first => rfl
  | later => simp at hfront

/-! ## What a prompt and a line leave alone -/

/-- Where and what a loop records has not changed. -/
structure SameRecords (s t : Repl) : Prop where
  history : t.history = s.history
  store : t.store = s.store
  recalled : t.recalled = s.recalled

lemma ask_eq_ok (h : s.ask host settings = .ok asked) :
    ∃ prompt, s.prompt host settings = some prompt ∧ asked = s.print prompt := by
  unfold ask at h
  split at h
  · cases h
  next prompt hprompt =>
    cases h
    exact ⟨prompt, hprompt, rfl⟩

lemma present_shows (result : Result) (s : Repl) :
    SameRecords s (s.present result) ∧
      ∃ text, (s.present result).world = s.world.print text := by
  unfold present
  dsimp only
  split
  · have hnothing : s.world.print "" = s.world := by simp [World.print]
    exact ⟨⟨rfl, rfl, rfl⟩, "", hnothing.symm⟩
  · exact ⟨⟨rfl, rfl, rfl⟩, _, rfl⟩

/-- A loop runs a line as it is run outside a loop; beyond that it prints, and records nothing. -/
lemma runLine_shows (host : Host) (settings : Settings) (line : String) (s : Repl) :
    SameRecords s (runLine host settings line s).2 ∧
      ∃ text, (runLine host settings line s).2.world =
        (CommandShell.runLine s.registry host.spawner line
          { s.run with trace := [] }).2.world.print text := by
  unfold runLine
  dsimp only
  split
  · obtain ⟨⟨hhistory, hstore, hrecalled⟩, hworld⟩ := present_shows _ _
    exact ⟨⟨hhistory, hstore, hrecalled⟩, hworld⟩
  · exact ⟨⟨rfl, rfl, rfl⟩, _, rfl⟩
  all_goals
    refine ⟨⟨rfl, rfl, rfl⟩, "", ?_⟩
    simp [World.print, world, note, report]

lemma runLine_sameRecords (host : Host) (settings : Settings) (line : String) (s : Repl) :
    SameRecords s (runLine host settings line s).2 :=
  (runLine_shows host settings line s).1

/-- A line that calls a builtin which comes back leaves the world that the builtin leaves. -/
lemma runLine_of_builtin {word : String} {args : List String} {handler : Handler} {w : World}
    (hwords : words line = word :: args) (hname : word ≠ "")
    (hargs : ∀ arg ∈ args, isFilename arg = true)
    (hbuiltin : s.registry.builtin? word = some handler)
    (hcall : handler (args.map Path.ofString) s.world = (.done, w)) (host : Host)
    (settings : Settings) :
    (runLine host settings line s).1 = none ∧ (runLine host settings line s).2.world = w := by
  obtain ⟨r, hrun, hworld⟩ := CommandShell.runLine_of_builtin
    (r := { s.run with trace := [] }) hwords hname hargs hbuiltin hcall host.spawner
  simpa [runLine, hrun, present, note, report, world] using hworld

/-! ## Answers -/

lemma record_of_rejected (hadd : (s.history.add line).1 = false) :
    record host settings line s = (.ok (), s) := by
  unfold record
  split
  · rfl
  next haccepted =>
    rw [haccepted] at hadd
    cases hadd

/-- A line that is accepted goes to the history and to the editor, if this takes it, and then the
history is saved. -/
lemma record_of_taken {history : History} (hadd : s.history.add line = (true, history))
    (htakes : host.editor.takes (trim line) = true) :
    record host settings line s = save settings { s with
      history
      recalled := (host.editor.record (trim line)).foldl Editor.Request.apply s.recalled } := by
  have hgranted := Editor.perform_of_granted ((Editor.grants_record_iff _ _).2 htakes) s.recalled
  simp only [record, hadd, edit, hgranted]

/-- Recording a line fails where the editor does not take it, with the line in the history. -/
lemma record_of_untaken {history : History} (hadd : s.history.add line = (true, history))
    (htakes : host.editor.takes (trim line) = false) :
    record host settings line s = (.error .nullInLine, { s with history }) := by
  cases heditor : host.editor with
  | missing =>
    rw [heditor] at htakes
    cases htakes
  | present description takesNulls =>
    rw [heditor] at htakes
    simp [record, hadd, edit, heditor, Editor.record, Editor.perform, Editor.grants, htakes]

lemma save_of_saveLines {path : Path} {w : World} (hstore : s.store = some path)
    (hsave : s.world.saveLines path s.history.lines = (.ok (), w)) :
    save settings s = (.ok (), { s with run := { s.run with world := w } }) := by
  simp only [save, hstore, hsave]

/-- A prompt that is answered without an end: by an interrupt, a blank line, or a line that is
recorded and run. -/
lemma answer_eq_none (h : answer host settings asked event = (none, t)) :
    (event = .interrupt ∧ t = asked.print "^C\n") ∨
    (∃ line, event = .line line ∧ isBlankLine line = true ∧ t = asked) ∨
    ∃ line now, event = .line line ∧ isBlankLine line = false ∧
      record host settings line asked = (.ok (), now) ∧
        runLine host settings line now = (none, t) := by
  cases event with
  | interrupt =>
    cases h
    exact .inl ⟨rfl, rfl⟩
  | line line =>
    right
    simp only [answer] at h
    split at h
    next hblank =>
      cases h
      exact .inl ⟨line, rfl, hblank, rfl⟩
    next hblank =>
      split at h
      · cases h
      next now hrecord =>
        exact .inr ⟨line, now, rfl, by simpa using hblank, hrecord, h⟩

end Repl
end CommandShell
