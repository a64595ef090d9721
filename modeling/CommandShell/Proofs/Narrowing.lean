import CommandShell.Proofs.Completing

/-!
# What typing more leaves of the completions

What is typed after a text without a slash goes on with the name and leaves the folder that is
sought. So of what completes the text it leaves just that which goes on in this way, with one
exception: a dot typed at the very beginning of the name brings the hidden ones. The longer text can
be completed more often than the shorter one, as fewer names are looked at for it.
-/
namespace CommandShell.Completion
open Text

variable {w : World} {text head stem name more : String} {folder : Path}

lemma isHidden_append (hdot : stem ≠ "" ∨ more.toList.head? ≠ some '.') :
    isHidden (stem ++ more) = isHidden stem := by
  rw [Bool.eq_iff_iff, isHidden_iff, isHidden_iff, String.toList_append]
  cases hstem : stem.toList with
  | nil =>
    have hempty : stem = "" := String.toList_inj.1 hstem
    simpa using hdot.resolve_left (not_not.2 hempty)
  | cons c cs => simp

lemma startsWith_of_append (h : startsWith (stem ++ more) name = true) :
    startsWith stem name = true := by
  rw [startsWith_iff] at h ⊢
  rw [String.toList_append] at h
  exact (List.prefix_append _ _).trans h

/-- A name completes a longer beginning if it completes the shorter one and starts with it. -/
lemma completes_append (hdot : stem ≠ "" ∨ more.toList.head? ≠ some '.') :
    completes (stem ++ more) name = (startsWith (stem ++ more) name && completes stem name) := by
  unfold completes
  rw [isHidden_append hdot]
  cases hstarts : startsWith (stem ++ more) name with
  | false => rfl
  | true => rw [startsWith_of_append hstarts, Bool.true_and, Bool.true_and]

/-- A slash behind a name is not what a beginning without a slash goes on with. -/
lemma startsWith_shown (hdivides : Divides text head stem) :
    startsWith text (shown w folder head name) = startsWith stem name := by
  rw [Bool.eq_iff_iff, startsWith_iff, startsWith_iff, shown, ← hdivides.joined,
    String.append_assoc, String.toList_append, String.toList_append, List.prefix_append_right_inj,
    String.toList_append]
  refine ⟨fun h => ?_, fun h => h.trans (List.prefix_append _ _)⟩
  split at h
  · change stem.toList <+: name.toList ++ ['/'] at h
    obtain hwhole | hname := List.prefix_concat_iff.1 h
    · exact absurd (by simp [hwhole]) hdivides.free
    · exact hname
  · simpa using h

lemma filter_shown (hdivides : Divides text head stem) (hmore : '/' ∉ more.toList)
    (hdot : stem ≠ "" ∨ more.toList.head? ≠ some '.') (names : List String) :
    ((names.filter (completes stem)).map (shown w folder head)).filter
        (startsWith (text ++ more)) =
      (names.filter (completes (stem ++ more))).map (shown w folder head) := by
  rw [List.filter_map, List.filter_filter]
  congr 1
  refine List.filter_congr fun name _ => ?_
  rw [Function.comp_apply, startsWith_shown (hdivides.append hmore), completes_append hdot]

/-- There are completions unless a name that completes the text cannot be looked at. -/
lemma exists_found_iff (hdivides : Divides text head stem)
    (hnull : (soughtIn w head).hasNull = false) :
    (∃ found, candidates w text = .ok found) ↔
      ∀ name ∈ namesIn w head, completes stem name = true →
        w.conceals ((soughtIn w head).child name) = false := by
  constructor
  · rintro ⟨found, hfound⟩ name hname hcompletes
    exact (found_eq hdivides hnull hfound).1 name (List.mem_filter.2 ⟨hname, hcompletes⟩)
  · intro hseen
    refine ⟨_, candidates_of_none hdivides hnull fun name hname => ?_⟩
    exact hseen name (List.mem_filter.1 hname).1 (List.mem_filter.1 hname).2

/-- Typing on without a slash leaves of what is found just that which starts with all that has been
typed, in the same order, unless a dot is typed at the beginning of a name. Nothing is found only
where a name that completes the text cannot be looked at behind the folder; the longer text is
spared the names with which it does not go on. -/
theorem completions_narrow (hdivides : Divides text head stem) (hnull : ¬HoldsNull text)
    (hhomes : w.homes.NullFree) (hmore : '/' ∉ more.toList)
    (hdot : stem ≠ "" ∨ more.toList.head? ≠ some '.') :
    (∀ found, candidates w text = .ok found →
      candidates w (text ++ more) = .ok (found.filter (startsWith (text ++ more)))) ∧
    ((∃ found, candidates w text = .ok found) ↔
      ∀ name ∈ namesIn w head, completes stem name = true →
        w.conceals ((soughtIn w head).child name) = false) ∧
    ((∃ found, candidates w (text ++ more) = .ok found) ↔
      ∀ name ∈ namesIn w head, completes stem name = true →
        startsWith (stem ++ more) name = true →
          w.conceals ((soughtIn w head).child name) = false) := by
  have hsought := soughtIn_noNull hdivides hnull hhomes
  have hlonger := hdivides.append hmore
  refine ⟨fun found hfound => ?_, exists_found_iff hdivides hsought, ?_⟩
  · obtain ⟨hseen, rfl⟩ := found_eq hdivides hsought hfound
    rw [filter_shown hdivides hmore hdot]
    refine candidates_of_none hlonger hsought fun name hname => hseen name ?_
    obtain ⟨hin, hcompletes⟩ := List.mem_filter.1 hname
    rw [completes_append hdot, Bool.and_eq_true] at hcompletes
    exact List.mem_filter.2 ⟨hin, hcompletes.2⟩
  · rw [exists_found_iff hlonger hsought]
    refine forall₂_congr fun name _ => ?_
    rw [completes_append hdot, Bool.and_eq_true]
    exact ⟨fun h hcompletes hstarts => h ⟨hstarts, hcompletes⟩,
      fun h ⟨hstarts, hcompletes⟩ => h hcompletes hstarts⟩

theorem completions_narrow_at_home :
    Divides "~/" "~/" "" ∧ ¬HoldsNull "~/" ∧
      homely.homes.NullFree ∧ '/' ∉ "no".toList ∧
      ("" ≠ "" ∨ "no".toList.head? ≠ some '.') ∧
      candidates homely "~/" = .ok ["~/new.txt", "~/notes/"] ∧
      candidates homely ("~/" ++ "no") = .ok ["~/notes/"] := by
  have hnull : ¬HoldsNull "~/" := by unfold HoldsNull; decide
  have hmore : '/' ∉ "no".toList := by decide
  have hdot : "" ≠ "" ∨ "no".toList.head? ≠ some '.' := by decide
  have hsought := soughtIn_noNull divides_home hnull homely_nullFree
  have hnames : (namesIn homely "~/").filter (completes "") = ["new.txt", "notes"] := by
    rw [namesIn_of_lists hsought lists_home, names_homely]
    decide
  have hnew := seen_homely "new.txt" (by decide)
  have hnotes := seen_homely "notes" (by decide)
  have hfound : candidates homely "~/" = .ok ["~/new.txt", "~/notes/"] := by
    rw [candidates_of_none divides_home hsought (by simp [hnames, hnew, hnotes]), hnames]
    simp [shown, hnew, hnotes]
  refine ⟨divides_home, hnull, homely_nullFree, hmore, hdot, hfound, ?_⟩
  exact (completions_narrow divides_home hnull homely_nullFree hmore hdot).1 _ hfound

/-- Behind a long way nothing is found until enough has been typed to leave out the long name. -/
theorem completions_appear_behind_long_way :
    Divides (winding 818) (winding 818) "" ∧ ¬HoldsNull (winding 818) ∧ '/' ∉ "a".toList ∧
      "a".toList.head? ≠ some '.' ∧
      candidates beside (winding 818) =
        .error (World.failure ((Path.ofString (winding 818)).child "longname") .nameTooLong) ∧
      candidates beside (winding 818 ++ "a") = .ok [winding 818 ++ "aa"] := by
  refine ⟨divides_winding 818, not_holdsNull_winding 818, by decide, by decide, candidates_winding,
    ?_⟩
  have hlonger : Divides (winding 818 ++ "a") (winding 818) "a" :=
    (divides_winding 818).append (by decide)
  have hone : ["aa", "d", "longname"].filter (completes "a") = ["aa"] := by decide
  have hlookup : ChildLookup beside (.ofString (winding 818)) [] "aa" :=
    childLookup_winding (by decide) (by decide)
  have hfile : beside.leadsToFolder ((Path.ofString (winding 818)).child "aa") = false :=
    Bool.eq_false_iff.2 fun h => by
      simpa using (hlookup.leads_entry rfl (by simp) conceals_beside.1).1 h
  have hnames : (namesIn beside (winding 818)).filter (completes "a") = ["aa"] := by
    rw [namesIn_winding (by decide), hone]
  rw [candidates_of_none hlonger (by rw [soughtIn_winding, noNull_winding])
    (by simp [hnames, soughtIn_winding, conceals_beside]), hnames, soughtIn_winding]
  simp [shown, hfile]

end CommandShell.Completion
