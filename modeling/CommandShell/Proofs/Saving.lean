import CommandShell.Proofs.Sites
import CommandShell.Proofs.Targets

/-!
# Where a session saves its history

The path of the history is fixed at the start, but each save follows it anew from the working folder
of that moment. Builtins and redirected output spare the file that was opened at the start, so as
long as programs spare it too, it is found there from the folder in which the session began.
-/
namespace CommandShell
open Text

/-! ## What runs spare -/

namespace Builtin

lemma moveTo_files (target : Path) (w : World) : (moveTo target w).2.files = w.files := by
  unfold moveTo
  split
  · rfl
  · split
    next w' henter =>
      unfold World.enter at henter
      repeat' split at henter
      all_goals cases henter
      rfl
    · rfl
  · split <;> rfl

lemma handler_files (b : Builtin) (s : Surroundings) (paths : List Path) (w : World) :
    (b.handler s paths w).2.files = w.files := by
  cases b with
  | leave =>
    simp only [handler]
    split <;> rfl
  | clear | help => rfl
  | history =>
    simp only [handler]
    split <;> rfl
  | changeFolder =>
    simp only [handler]
    split
    · rfl
    · exact moveTo_files _ w
    · rfl

lemma handlers_files {aliases : Table String} {history : Option (List String)}
    {policy : LeavePolicy} {name : String} {handler : Handler}
    (hbuiltin : (handlers aliases history policy).builtin? name = some handler)
    (paths : List Path) (w : World) : (handler paths w).2.files = w.files := by
  rw [handlers, Registry.builtin?_map, Option.map_eq_some_iff] at hbuiltin
  obtain ⟨b, -, rfl⟩ := hbuiltin
  exact b.handler_files _ paths w

end Builtin

/-- Whether the builtins of a registry leave all files alone. -/
def Registry.KeepsFiles (reg : Registry Handler) : Prop :=
  ∀ name handler, reg.builtin? name = some handler →
    ∀ paths w, (handler paths w).2.files = w.files

/-- Whether the programs that are started among some actions leave alone where a path leads from a
folder. -/
def StartsSpare (reg : Registry Handler) (spawner : Spawner) (place : Place) (path : Path)
    (w : World) (actions : List Action) : Prop :=
  ∀ before argv stdin started after, actions = before ++ .spawn argv stdin started :: after →
    (spawner argv stdin (worldLeft reg spawner w before)).2.seen place path =
      (worldLeft reg spawner w before).seen place path

section
variable {reg : Registry Handler} {spawner : Spawner} {place : Place} {path : Path} {site : Spot}
  {w : World} {actions more : List Action}

lemma StartsSpare.left (h : StartsSpare reg spawner place path w (actions ++ more)) :
    StartsSpare reg spawner place path w actions := by
  rintro before argv stdin started after rfl
  exact h before argv stdin started (after ++ more) (by simp)

lemma StartsSpare.behind (h : StartsSpare reg spawner place path w (actions ++ more))
    (hidle : ∀ a ∈ actions, a.isSending = false) :
    StartsSpare reg spawner place path w more := by
  rintro before argv stdin started after rfl
  have hmore := h (actions ++ before) argv stdin started after (by simp)
  rwa [worldLeft_append, worldLeft_of_idle hidle] at hmore

/-- Builtins and programs that spare a file leave a world in which it is seen as before. -/
lemma StartsSpare.seen_worldLeft (h : StartsSpare reg spawner place path w actions)
    (hreg : reg.KeepsFiles) :
    (worldLeft reg spawner w actions).seen place path = w.seen place path := by
  induction actions using List.reverseRecOn with
  | nil => rfl
  | append_singleton actions a ih =>
    rw [worldLeft_append, ← ih h.left]
    cases a with
    | spawn argv stdin started => exact h actions argv stdin started [] rfl
    | call name args =>
      refine World.seen_congr ?_ place path
      simp only [worldLeft, List.foldl_cons, List.foldl_nil, changed]
      split
      next handler hbuiltin => exact hreg name handler hbuiltin _ _
      · rfl
    | _ => rfl

/-! ## Delivery -/

lemma writeAll_spares (mode : WriteMode) (bytes : ByteArray) (targets : List Path) (r : Run) :
    r.world.files.Spares (writeAll mode bytes targets r).2.world.files := by
  have hwrites := writeAll_writes mode bytes targets r
  generalize writeAll mode bytes targets r = written at hwrites ⊢
  cases hwrites with
  | all h | cut h =>
    obtain ⟨files, rfl, hover⟩ := h.overwritten
    exact hover.spares

lemma deliver_spares (raw : ByteArray) (code : Int) (clause : Option Clause)
    (messages : List String) (r : Run) :
    r.world.files.Spares (deliver raw code clause messages r).2.world.files := by
  cases destined raw clause with
  | nowhere hdecode =>
    rw [deliver_of_error code messages r hdecode]
    exact .refl _
  | back hdecode hkeeps =>
    rw [deliver_of_keeps code messages r hdecode hkeeps]
    exact .refl _
  | @targets c text hdecode hop =>
    rw [deliver_of_takes code messages r hdecode hop]
    exact writeAll_spares c.mode text.toByteArray c.targets
      (r.log (.deliver text.length c.targets))

/-! ## Lines -/

variable {stages : List Stage} {clause : Option Clause} {r : Run} {ended : Outcome × Run}

lemma Ending.seen (h : Ending reg spawner stages clause r ended)
    (htrace : ended.2.trace = r.trace ++ actions)
    (hstarts : StartsSpare reg spawner place path r.world actions) (hreg : reg.KeepsFiles)
    (hseen : r.world.seen place path = .ok site) (htaken : site.IsTaken) :
    ended.2.world.seen place path = .ok site := by
  cases h with
  | stopped hrun hleads =>
    obtain rfl := List.append_cancel_left (hrun.symm.trans htrace)
    rw [hleads.world, hstarts.seen_worldLeft hreg, hseen]
  | @delivered before code messages r' hrun hleads =>
    obtain ⟨delivery, hdelivered, -⟩ :=
      deliver_spec (lastOutput before) clause code messages r'
    rw [hdelivered, hrun, List.append_assoc] at htrace
    obtain rfl := List.append_cancel_left htrace
    have hbefore : r'.world.seen place path = .ok site := by
      rw [hleads.world, hstarts.left.seen_worldLeft hreg, hseen]
    exact World.seen_of_spares (deliver_spares _ _ _ _ _) hbefore htaken

lemma execute_seen (p : Pipeline)
    (hstarts : StartsSpare reg spawner place path r.world (actionsOf reg spawner p r))
    (hreg : reg.KeepsFiles) (hseen : r.world.seen place path = .ok site) (htaken : site.IsTaken) :
    (execute reg spawner p r).2.world.seen place path = .ok site := by
  obtain ⟨before, delivery, w, htrace, -⟩ := (execute_ending reg spawner p r).parts
  have hactions := htrace
  rw [Run.log_trace, List.append_assoc] at hactions
  rw [actionsOf_eq reg spawner hactions] at hstarts
  have hidle : ∀ a ∈ [Action.execute p.stages], a.isSending = false := by simp [Action.isSending]
  exact (execute_ending reg spawner p r).seen htrace (hstarts.behind hidle) hreg hseen htaken

lemma runLine_runs (reg : Registry Handler) (spawner : Spawner) (line : String) (r : Run) :
    (runLine reg spawner line r).2.world = r.world ∨
      ∃ p earlier, (∀ a ∈ earlier, a.isSending = false) ∧
        runLine reg spawner line r = execute reg spawner p (r.logAll earlier) := by
  unfold runLine
  split
  · exact .inl rfl
  · unfold runWords
    split
    · exact .inl rfl
    next tree _ =>
      unfold runTree
      split
      · exact .inl rfl
      next p _ =>
        refine .inr ⟨p, [.readWords (words line), .readTree (words line) tree, .planned p,
          .showTree tree], by simp [Action.isSending], ?_⟩
        simp [Run.log, Run.logAll]

lemma runLine_seen (line : String)
    (hstarts : StartsSpare reg spawner place path r.world (lineActions reg spawner line r))
    (hreg : reg.KeepsFiles) (hseen : r.world.seen place path = .ok site) (htaken : site.IsTaken) :
    (runLine reg spawner line r).2.world.seen place path = .ok site := by
  obtain hsame | ⟨p, earlier, hidle, hrun⟩ := runLine_runs reg spawner line r
  · rw [hsame, hseen]
  · have hactions : lineActions reg spawner line r =
        earlier ++ actionsOf reg spawner p (r.logAll earlier) := by
      obtain ⟨before, delivery, w, htrace, -⟩ :=
        (execute_ending reg spawner p (r.logAll earlier)).parts
      rw [Run.log_trace, List.append_assoc] at htrace
      rw [actionsOf_eq reg spawner htrace, lineActions, hrun, htrace, Run.logAll_trace,
        List.append_assoc, List.drop_left]
    rw [hactions] at hstarts
    rw [hrun]
    exact execute_seen p (hstarts.behind hidle) hreg hseen htaken

end

namespace Repl
variable {host : Host} {settings : Settings} {s t asked now : Repl} {front rest events : List Event}
  {event : Event} {line : String} {path : Path} {place : Place} {site : Spot}

/-! ## Sessions -/

lemma registry_keepsFiles (s : Repl) : s.registry.KeepsFiles :=
  fun _ _ hbuiltin paths w => Builtin.handlers_files hbuiltin paths w

/-- No program that is started by the lines of some events moves what a path leads to from a
folder. -/
def Spared (host : Host) (settings : Settings) (s : Repl) (place : Place) (path : Path)
    (events : List Event) : Prop :=
  ∀ front line now, front ++ [Event.line line] <+: events → Runs host settings s front line now →
    StartsSpare now.registry host.spawner place path now.world
      (lineActions now.registry host.spawner line { now.run with trace := [] })

lemma runLine_files (host : Host) (settings : Settings) (line : String) (s : Repl) :
    (runLine host settings line s).2.world.files =
      (CommandShell.runLine s.registry host.spawner line
        { s.run with trace := [] }).2.world.files := by
  obtain ⟨-, text, hworld⟩ := runLine_shows host settings line s
  rw [hworld, World.print]

/-- A save stores the history, and whatever keeps it from doing so. -/
lemma save_world (hstore : s.store = some path) (settings : Settings) :
    (save settings s).2.world = (s.world.saveLines path s.history.lines).2 := by
  simp only [save, hstore]
  split
  next hsave => exact congrArg Prod.snd hsave.symm
  next hsave => exact congrArg Prod.snd hsave.symm
  next hsave => exact congrArg Prod.snd hsave.symm

/-- Recording a line that is accepted stores the history with it, if the editor takes the line. -/
lemma record_world {history : History} (hadd : s.history.add line = (true, history))
    (hstore : s.store = some path) (host : Host) (settings : Settings) :
    (record host settings line s).2.world =
      if host.editor.takes (trim line) then (s.world.saveLines path history.lines).2
      else s.world := by
  cases htakes : host.editor.takes (trim line) with
  | false => simp [record_of_untaken hadd htakes, world]
  | true =>
    obtain ⟨t, hrecord, hsame, hworld, hhistory⟩ : ∃ t, record host settings line s =
        save settings t ∧ t.store = some path ∧ t.world = s.world ∧ t.history = history :=
      ⟨_, record_of_taken hadd htakes, hstore, rfl, rfl⟩
    rw [hrecord, save_world hsame, hworld, hhistory, if_pos rfl]

lemma record_spares (host : Host) (settings : Settings) (line : String) (s : Repl) :
    s.world.files.Spares (record host settings line s).2.world.files := by
  cases hadd : s.history.add line with
  | mk accepted history =>
    cases accepted with
    | false =>
      rw [record_of_rejected (by rw [hadd])]
      exact .refl _
    | true =>
      cases hstore : s.store with
      | none =>
        have hsame : (record host settings line s).2.world = s.world := by
          cases htakes : host.editor.takes (trim line) with
          | false => rw [record_of_untaken hadd htakes]; rfl
          | true => rw [record_of_taken hadd htakes]; simp only [save, hstore, world]
        rw [hsame]
        exact .refl _
      | some path =>
        rw [record_world hadd hstore]
        split
        · exact World.saveLines_spares _ _ _
        · exact .refl _

/-- What holds at every prompt: the history is stored under a path, and this leads, from the folder
in which the session began, to the same as at the start. -/
structure Keeps (place : Place) (path : Path) (site : Spot) (t : Repl) : Prop where
  store : t.store = some path
  seen : t.world.seen place path = .ok site

lemma Keeps.shown (h : Keeps place path site t) (hask : t.ask host settings = .ok asked) :
    Keeps place path site asked := by
  obtain ⟨prompt, -, rfl⟩ := ask_eq_ok hask
  exact ⟨h.store, h.seen⟩

lemma Keeps.recorded (h : Keeps place path site t) (hnull : path.hasNull = false)
    (htaken : site.IsTaken) (hrecord : record host settings line t = (.ok (), now)) :
    Keeps place path site now := by
  have hstorable : t.Storable := by
    rw [Storable, h.store]
    rintro _ ⟨⟩
    exact hnull
  obtain ⟨_, hsame, hstore⟩ | ⟨_, -, -, hfailed⟩ := record_cases hstorable host settings line
  swap
  · cases hrecord.symm.trans hfailed
  obtain rfl := congrArg Prod.snd (hrecord.symm.trans hsame)
  have hspares := record_spares host settings line t
  rw [hrecord] at hspares
  exact ⟨hstore.trans h.store, World.seen_of_spares hspares h.seen htaken⟩

section
variable (hnull : path.hasNull = false) (htaken : site.IsTaken)
  (h : Spared host settings s place path events)
include hnull htaken h

lemma Keeps.answer (hkeeps : Keeps place path site t) (hreached : Reaches host settings s front t)
    (hevents : front ++ [event] <+: events) (hask : t.ask host settings = .ok asked)
    {t' : Repl} (hanswer : Repl.answer host settings asked event = (none, t')) :
    Keeps place path site t' := by
  have hasked := hkeeps.shown hask
  obtain ⟨rfl, rfl⟩ | ⟨line, rfl, hblank, rfl⟩ | ⟨line, now, rfl, hblank, hrecord, hrun⟩ :=
    answer_eq_none hanswer
  · exact ⟨hasked.store, hasked.seen⟩
  · exact hasked
  · have hnow := hasked.recorded hnull htaken hrecord
    have hstarts := h front line now hevents ⟨t, asked, hreached, hask, hblank, hrecord⟩
    have hseen := runLine_seen (r := { now.run with trace := [] }) line hstarts
      now.registry_keepsFiles hnow.seen htaken
    have hsame := runLine_sameRecords host settings line now
    have hfiles := runLine_files host settings line now
    rw [hrun] at hsame hfiles
    exact ⟨hsame.store.trans hnow.store, (World.seen_congr hfiles place path).trans hseen⟩

lemma Keeps.reached (hfirst : Keeps place path site s) (hreached : Reaches host settings s front t)
    (hevents : front <+: events) : Keeps place path site t := by
  induction hreached with
  | first => exact hfirst
  | later hreached hask hanswer ih =>
    exact (ih ((List.prefix_append _ _).trans hevents)).answer hnull htaken h hreached hevents hask
      hanswer

end

end Repl

/-- A session that stores its history does so under the path of its settings, which has been loaded
and leads to something at the start. As long as programs leave that alone it stays where it is, as
seen from the folder in which the session began. A save changes nothing but the contents of the
file to which the path leads from the working folder, if it leads to anything; one that fails leaves
the file as it was or with the beginning of the text. That is the file of the start if the path
begins at the root or the working folder is the one of the start. -/
theorem saves_follow_path (host : Host) (args : List String) (w : World) (recalled : List String)
    (settings : Settings) (s : Repl) (path : Path) (events : List Event)
    (hready : Repl.ready host args (.before w recalled) = (.ok settings, s))
    (hstore : s.store = some path)
    (hspared : Repl.Spared host settings s w.place path events) :
    settings.historyPath = some path ∧
    (∃ loaded notes, s.world.loadLines path = .ok (loaded, notes) ∧
      s.history = .ofLines loaded History.usualLimit) ∧
    ∃ site, site.IsTaken ∧ s.world.seen w.place path = .ok site ∧
      ∀ front line t asked history, front ++ [Event.line line] <+: events →
        Repl.Reaches host settings s front t → t.ask host settings = .ok asked →
        asked.history.add line = (true, history) →
          let saved := (Repl.record host settings line asked).2.world
          let text := (History.text history.lines).toByteArray
          asked.world.seen w.place path = .ok site ∧
          (∀ there, there.IsTaken → asked.world.seen asked.world.place path = .ok there →
            (host.editor.takes (trim line) = true →
              (asked.world.saveLines path history.lines).1 = .ok () →
                saved = asked.world.storedAt there text) ∧
            (saved = asked.world ∨ ∃ n, saved = asked.world.storedAt there (text.extract 0 n))) ∧
          (path.anchor ≠ .here ∨ asked.world.place = w.place →
            asked.world.seen asked.world.place path = .ok site) := by
  obtain ⟨hpath, hnull, hplace, ⟨spot, hspot, htaken⟩, hloaded, -⟩ :=
    Repl.ready_eq_ok hready hstore
  have hsite := htaken.blank
  have hseen : s.world.seen w.place path = .ok spot.blank := by
    rw [← hplace]
    exact congrArg (Except.map Spot.blank) hspot
  refine ⟨hpath, hloaded, spot.blank, hsite, hseen, ?_⟩
  intro front line t asked history hevents hreached hask hadd saved text
  have hfirst : Repl.Keeps w.place path spot.blank s := ⟨hstore, hseen⟩
  have hasked := (hfirst.reached hnull hsite hspared hreached
    ((List.prefix_append _ _).trans hevents)).shown hask
  have hsaved : saved = _ := Repl.record_world hadd hasked.store host settings
  refine ⟨hasked.seen, fun there hthere hfound => ?_, fun hsame => ?_⟩
  · obtain ⟨spot', hspot', rfl⟩ := World.exists_of_seen hfound
    obtain ⟨hwhole, hpart⟩ := World.write_at text hspot' hthere.of_blank
    rw [hsaved, World.saveLines_at hnull hspot']
    cases host.editor.takes (trim line) with
    | false => exact ⟨by rintro ⟨⟩, .inl rfl⟩
    | true => exact ⟨fun _ => hwhole, hpart⟩
  · obtain hrooted | hplace := hsame
    · rw [World.seen_of_rooted hrooted _ w.place, hasked.seen]
    · rw [hplace, hasked.seen]

lemma Repl.Spared.of_idle {host : Host} (h : ∀ argv stdin w, (host.spawner argv stdin w).2 = w)
    (settings : Settings) (s : Repl) (place : Place) (path : Path) (events : List Event) :
    Spared host settings s place path events := by
  intro front line now _ _ before argv stdin started after _
  rw [h]

/-- A line with a blank behind it is stored in the file from which the history was loaded. -/
theorem saves_follow_path_of_clear :
    let first := Repl.storing "ls\n".toByteArray (Settings.usualBanner ++ "\n") ["ls"]
    let asked := Repl.storing "ls\n".toByteArray (Settings.usualBanner ++ "\n" ++ "/ >> ") ["ls"]
    Repl.ready .bare [] (.before (.storing "ls\n".toByteArray "") []) = (.ok .bare, first) ∧
      first.store = some ⟨.root, ["h"]⟩ ∧
      Repl.Spared .bare .bare first .top ⟨.root, ["h"]⟩ [.line "clear "] ∧
      ∃ site, site.IsTaken ∧ first.world.seen .top ⟨.root, ["h"]⟩ = .ok site ∧
        (Repl.record .bare .bare "clear " asked).2.world =
          asked.world.storedAt site (History.text ["ls", "clear"]).toByteArray := by
  intro first asked
  have hspared : Repl.Spared .bare .bare first .top ⟨.root, ["h"]⟩ [.line "clear "] :=
    .of_idle (fun _ _ _ => rfl) _ _ _ _ _
  obtain ⟨-, -, site, htaken, hseen, hsaves⟩ := saves_follow_path .bare []
    (.storing "ls\n".toByteArray "") [] .bare first ⟨.root, ["h"]⟩ [.line "clear "]
    Repl.ready_storing rfl hspared
  have hadd : asked.history.add "clear " = (true, ⟨["ls", "clear"], History.usualLimit⟩) := by
    decide
  obtain ⟨-, hsave, hsame⟩ := hsaves [] "clear " first asked _ (List.prefix_refl _) .first
    (Repl.ask_storing _ _ _) hadd
  obtain ⟨hwhole, -⟩ := hsave site htaken (hsame (.inl (by decide)))
  have htrim : trim "clear " = "clear" := by decide
  have htakes : Host.bare.editor.takes (trim "clear ") = true := by
    simp [htrim, Host.bare, Editor.takes]
  exact ⟨Repl.ready_storing, rfl, hspared, site, htaken, hseen,
    hwhole htakes (congrArg Prod.fst (World.saveLines_storing _ _ _))⟩

/-! ## A session that moves -/

/-- A world with a folder, and with a file for a history beside it. -/
def World.nested (bytes : ByteArray) (text : String) : World :=
  { World.ofEntries [(["d"], .usualFolder), (["h"], .file ⟨bytes, 0o644, 0⟩)] with
    printed := text }

/-- What becomes of it when the folder is entered. -/
def World.inFolder (bytes : ByteArray) (text : String) : World :=
  { World.nested bytes text with place := ⟨["d"], 0⟩ }

lemma World.saveLines_nested (bytes : ByteArray) (text : String) (lines : List String) :
    (nested bytes text).saveLines ⟨.here, ["h"]⟩ lines =
      (.ok (), nested (History.text lines).toByteArray text) := by
  cbv

/-- A host whose history file is beside the folder in which the session begins. -/
def Host.nearby : Host := { Host.bare with environment := [("PIPESHELL_HISTORY", "h")] }

def Settings.nearby : Settings := { Settings.bare with historyPath := some ⟨.here, ["h"]⟩ }

namespace Repl
variable (bytes : ByteArray) (text : String) (lines : List String)

def nested : Repl :=
  ⟨.begin (.nested bytes text), ⟨lines, History.usualLimit⟩, some ⟨.here, ["h"]⟩, lines, ""⟩

/-- The loop at its second prompt, in the folder. -/
def moved : Repl :=
  (runLine .nearby .nearby "cd d" (nested (History.text ["cd d"]).toByteArray
    (Settings.usualBanner ++ "\n" ++ "/ >> ") ["cd d"])).2

lemma ready_nested : ready .nearby [] (.before (.nested .empty "") []) =
    (.ok .nearby, nested .empty (Settings.usualBanner ++ "\n") []) := by
  have hopen : openHistory .nearby (.before (.nested .empty "") []) =
      (.ok (), nested .empty "" []) := by cbv
  have htakes : ∀ line ∈ (nested .empty "" []).history.lines,
      Host.nearby.editor.takes line = true := by simp [nested]
  rw [ready_of_open rfl rfl hopen htakes]
  rfl

lemma ask_nested :
    (nested bytes text lines).ask .nearby .nearby = .ok (nested bytes (text ++ "/ >> ") lines) :=
  rfl

lemma record_nested : record .nearby .nearby "cd d" (nested bytes text []) =
    (.ok (), nested (History.text ["cd d"]).toByteArray text ["cd d"]) := by
  have hadd : (⟨[], History.usualLimit⟩ : History).add "cd d" =
      (true, ⟨["cd d"], History.usualLimit⟩) := by decide
  have htrim : trim "cd d" = "cd d" := by decide
  have htakes : Host.nearby.editor.takes (trim "cd d") = true := by
    simp [htrim, Host.nearby, Host.bare, Editor.takes]
  rw [record_of_taken hadd htakes, htrim]
  exact save_of_saveLines rfl (World.saveLines_nested bytes text _)

lemma runLine_nested : (runLine .nearby .nearby "cd d" (nested bytes text lines)).1 = none ∧
    (runLine .nearby .nearby "cd d" (nested bytes text lines)).2.world =
      .inFolder bytes text := by
  have hwords : words "cd d" = ["cd", "d"] := by decide
  have hmove : Builtin.moveTo (Path.ofString "d") (nested bytes text lines).world =
      (.done, .inFolder bytes text) := by cbv
  exact runLine_of_builtin hwords (by decide) (by decide) rfl hmove .nearby .nearby

lemma answer_nested : answer .nearby .nearby
    (nested .empty (Settings.usualBanner ++ "\n" ++ "/ >> ") []) (.line "cd d") =
      (none, moved) := by
  have hblank : isBlankLine "cd d" = false := by decide
  simp only [answer, hblank, record_nested]
  exact Prod.ext (runLine_nested _ _ _).1 rfl

lemma moved_eq : moved.store = some ⟨.here, ["h"]⟩ ∧
    moved.history = ⟨["cd d"], History.usualLimit⟩ ∧
    moved.world = .inFolder (History.text ["cd d"]).toByteArray
      (Settings.usualBanner ++ "\n" ++ "/ >> ") := by
  obtain ⟨hhistory, hstore, -⟩ := runLine_sameRecords .nearby .nearby "cd d"
    (nested (History.text ["cd d"]).toByteArray (Settings.usualBanner ++ "\n" ++ "/ >> ") ["cd d"])
  exact ⟨hstore, hhistory, (runLine_nested _ _ _).2⟩

lemma ask_moved : moved.ask .nearby .nearby = .ok (moved.print "/d >> ") := by
  have hprompt : moved.prompt .nearby .nearby = some "/d >> " := by
    rw [prompt, moved_eq.2.2]
    rfl
  simp only [ask, hprompt]

lemma add_moved : (moved.print "/d >> ").history.add "ls" =
    (true, ⟨["cd d", "ls"], History.usualLimit⟩) := by
  have hhistory : (moved.print "/d >> ").history = ⟨["cd d"], History.usualLimit⟩ := moved_eq.2.1
  rw [hhistory]
  decide

lemma takes_moved : Host.nearby.editor.takes (trim "ls") = true := by
  have htrim : trim "ls" = "ls" := by decide
  simp [htrim, Host.nearby, Host.bare, Editor.takes]

lemma saveLines_moved : ∃ w,
    (moved.print "/d >> ").world.saveLines ⟨.here, ["h"]⟩ ["cd d", "ls"] = (.ok (), w) ∧
      (w.files.get? ["d", "h"]).isSome = true := by
  have hworld : (moved.print "/d >> ").world = moved.world.print "/d >> " := rfl
  rw [hworld, moved_eq.2.2]
  exact ⟨_, by cbv, by decide⟩

lemma get?_moved : (moved.print "/d >> ").world.files.get? ["d", "h"] = none := by
  have hfiles : (moved.print "/d >> ").world.files = moved.world.files := rfl
  rw [hfiles, moved_eq.2.2]
  decide

end Repl

/-- A session that moves to another folder saves its history there, in another file. -/
theorem saves_leave_file_behind :
    ¬ ∀ (host : Host) (args : List String) (w : World) (recalled : List String)
      (settings : Settings) (s : Repl) (path : Path) (site : Spot) (front : List Event)
      (line : String) (t asked : Repl) (history : History),
      (∀ argv stdin w, (host.spawner argv stdin w).2 = w) →
      Repl.ready host args (.before w recalled) = (.ok settings, s) → s.store = some path →
      site.IsTaken → s.world.seen w.place path = .ok site →
      Repl.Reaches host settings s front t → t.ask host settings = .ok asked →
      asked.history.add line = (true, history) → host.editor.takes (trim line) = true →
      (asked.world.saveLines path history.lines).1 = .ok () →
        (Repl.record host settings line asked).2.world =
          asked.world.storedAt site (History.text history.lines).toByteArray := by
  intro h
  let first := Repl.nested .empty (Settings.usualBanner ++ "\n") []
  have hsite : first.world.seen .top ⟨.here, ["h"]⟩ = .ok (.file ["h"] ⟨.empty, 0o644, 0⟩) :=
    rfl
  have hreached : Repl.Reaches .nearby .nearby first ([] ++ [Event.line "cd d"]) .moved :=
    .later .first (Repl.ask_nested _ _ _) Repl.answer_nested
  obtain ⟨w, hsave, hmade⟩ := Repl.saveLines_moved
  have hsaved := h .nearby [] (.nested .empty "") [] .nearby first ⟨.here, ["h"]⟩ _ _ "ls" .moved
    _ _ (fun _ _ _ => rfl) Repl.ready_nested rfl (fun l => Spot.noConfusion) hsite hreached
    Repl.ask_moved Repl.add_moved Repl.takes_moved (congrArg Prod.fst hsave)
  rw [Repl.record_world Repl.add_moved Repl.moved_eq.1, if_pos Repl.takes_moved, hsave] at hsaved
  obtain rfl : w = _ := hsaved
  rw [World.storedAt] at hmade
  simp [FileTree.get?_rewrite, Repl.get?_moved] at hmade

end CommandShell
