import CommandShell.Proofs.Forgiven
import CommandShell.Proofs.Reports

/-!
# Who can leave a run

A run comes to a result unless one of its builtins leaves. Then it is left at that builtin's stage,
for what the builtin left for: the stages in front have been sent off and none behind it is. Nothing
else gets out of a run, provided that its clause is one that a line can have, that the spawner lets
nothing through and that its programs, started with an output, give one when they are read to their
end.
-/
namespace CommandShell
open Text

/-- Whether an escape is somebody's wish to go, and not a failure. -/
def Escape.isDeparture : Escape → Bool
  | .interrupt => true
  | .exit _ => true
  | _ => false

/-- Builtins that only leave because somebody wishes to go, and have words for all their failures.
-/
def Registry.OnlyDeparts (reg : Registry Handler) : Prop :=
  ∀ name handler, reg.builtin? name = some handler → ∀ args w e,
    (handler args w).1 = .left e → e.isDeparture = true

/-- A clause that names files, under paths that a host takes. -/
def Clause.Nameable (c : Clause) : Prop :=
  c.targets ≠ [] ∧ ∀ target ∈ c.targets, target.hasNull = false

/-- A spawner that starts a program or refuses to. -/
def Spawner.Confined (spawner : Spawner) : Prop :=
  ∀ argv stdin w e, (spawner argv stdin w).1 ≠ .error (.escaped e)

/-- A spawner whose programs, read to their end, give what they have written. -/
def Spawner.Collects (spawner : Spawner) : Prop :=
  ∀ argv stdin w process, (spawner argv stdin w).1 = .ok process → process.collected ≠ none

/-- A run of some stages from a world has been left at one of them, a builtin: the stages in front
of it have been sent off, and that the builtin leaves is the last that happens. -/
structure LeftAt (reg : Registry Handler) (spawner : Spawner) (stages : List Stage) (w : World)
    (e : Escape) (actions : List Action) (ended : Outcome × Run) (front : List Stage)
    (stage : Stage) (handler : Handler) (calls : List Returned) (before : List Action) : Prop where
  isNext : front ++ [stage] <+: stages
  sent : SentOff reg spawner front calls w before (worldLeft reg spawner w before)
  isBuiltin : reg.builtin? stage.command = some handler
  left : handler (stage.args.map Path.ofString) (worldLeft reg spawner w before) =
    (.left e, ended.2.world)
  actions_eq : actions = before ++ [.call stage.command stage.args, .returned (.left e)]
  outcome_eq : ended.1 = .left e

section
variable {reg : Registry Handler} {spawner : Spawner} {p : Pipeline} {e : Escape}
  {stages : List Stage} {calls : List Returned} {actions : List Action} {w v : World}
  {ended : Outcome × Run}

lemma returned_notMem (h : ∀ a ∈ actions, a.isFailure = false) :
    .returned (.left e) ∉ actions := fun hmem => Bool.noConfusion (h _ hmem)

lemma Reported.left_at (h : Reported reg spawner p w actions ended)
    (hleft : .returned (.left e) ∈ actions) :
    ∃ front stage handler calls before,
      LeftAt reg spawner p.stages w e actions ended front stage handler calls before := by
  cases h with
  | unnamed hbefore => exact absurd hleft (returned_notMem hbefore.neither.isFailure)
  | unreadable hsource hread hnext hsent =>
    simp [returned_notMem hsent.faultless] at hleft
  | @left front stage calls before handler e' v r hnext hsent hbuiltin hcall =>
    obtain rfl : e = e' := by simpa [returned_notMem hsent.faultless] using hleft
    obtain rfl := hsent.leads.world
    exact ⟨front, stage, handler, calls, before, hnext, hsent, hbuiltin, hcall, rfl, rfl⟩
  | notStarted hnext hsent hprogram hspawn hafter =>
    simp [returned_notMem hsent.faultless, returned_notMem hafter.neither.isFailure, spawnActions]
      at hleft
  | uncollected hstages hsent => simp [returned_notMem hsent.faultless] at hleft
  | delivered hsent hdelivery =>
    have hlater := (neither_of_delivery hdelivery).isFailure
    simp [returned_notMem hsent.faultless, returned_notMem hlater] at hleft

lemma Reported.finishes (h : Reported reg spawner p w actions ended) (hspawner : spawner.Confined)
    (hcollects : spawner.Collects)
    (hclause : ∀ c ∈ p.clause, c.Nameable) (hstays : ∀ e, .returned (.left e) ∉ actions) :
    ∃ result, ended.1 = .finished result := by
  cases h with
  | unnamed hbefore hsource =>
    obtain ⟨-, c, hc, hnone⟩ := inputSource_eq_error hsource
    exact absurd hnone (hclause c hc).1
  | @unreadable front calls before source e messages r hsource hread =>
    obtain ⟨error, rfl⟩ | ⟨-, hnull⟩ := World.read_error hread
    · exact ⟨_, rfl⟩
    · obtain ⟨c, hc, hmem⟩ := exists_mem_targets hsource source rfl
      rw [(hclause c hc).2 source hmem] at hnull
      cases hnull
  | @left front stage calls before handler e => exact absurd (by simp) (hstays e)
  | @notStarted front stage calls before after stdin fault halt v r hnext hsent hprogram hspawn
      hafter hhalt =>
    have hrefused : ∀ e, fault ≠ .escaped e := by
      rintro e rfl
      exact hspawner _ _ _ e (congrArg Prod.fst hspawn)
    obtain rfl | ⟨-, -, path, e, -, hfault, -⟩ := hhalt
    · cases fault with
      | refused program reason => exact ⟨_, rfl⟩
      | escaped e => exact absurd rfl (hrefused e)
    · exact absurd hfault (hrefused e)
  | uncollected hstages hsent hprogram hspawn hnone =>
    exact absurd hnone (hcollects _ _ _ _ (congrArg Prod.fst hspawn))
  | @delivered calls before delivery code r hsent =>
    obtain ⟨_, -, -, hhands, -⟩ :=
      deliver_spec (lastOutput before) p.clause code (p.notices reg calls) r
    cases houtcome : (deliver (lastOutput before) code p.clause (p.notices reg calls) r).1 with
    | finished result => exact ⟨result, rfl⟩
    | left e =>
      obtain ⟨-, c, hc, -, target, hmem, hnull⟩ := hhands.left houtcome
      rw [(hclause c hc).2 target hmem] at hnull
      cases hnull

/-- Whatever is started among stages that have been sent off is one of them, and no builtin. -/
lemma SentOff.spawns (h : SentOff reg spawner stages calls w actions v) {argv : List String}
    {stdin : Stdin} {started : Option Nat} (hspawn : .spawn argv stdin started ∈ actions) :
    ∃ stage ∈ stages, reg.argv? stage.command stage.args = some argv := by
  have hsending : .spawn argv stdin started ∈ actions.filter Action.isDispatch :=
    List.mem_filter.2 ⟨hspawn, rfl⟩
  obtain ⟨⟨i, hi⟩, hget⟩ := List.mem_iff_get.1 hsending
  have hlt := h.dispatched.length_eq ▸ hi
  have hdispatches := h.dispatched.get hlt hi
  rw [hget] at hdispatches
  obtain ⟨hprogram, rfl, -⟩ := hdispatches
  refine ⟨_, List.get_mem stages ⟨i, hlt⟩, ?_⟩
  rw [Registry.argv?, isBuiltin_of_eq_none hprogram]
  rfl

/-- Nobody asks for the words with which a builtin would be run. -/
lemma Reported.spawns (h : Reported reg spawner p w actions ended) {argv : List String}
    {stdin : Stdin} {started : Option Nat} (hspawn : .spawn argv stdin started ∈ actions) :
    ∃ stage ∈ p.stages, reg.argv? stage.command stage.args = some argv := by
  have hfront {front : List Stage} {calls : List Returned} {before : List Action} {v : World}
      (hsent : SentOff reg spawner front calls w before v) (hnext : front ⊆ p.stages)
      (hmem : .spawn argv stdin started ∈ before) :
      ∃ stage ∈ p.stages, reg.argv? stage.command stage.args = some argv := by
    obtain ⟨stage, hstage, hargv⟩ := hsent.spawns hmem
    exact ⟨stage, hnext hstage, hargv⟩
  cases h with
  | unnamed hbefore => exact Bool.noConfusion (hbefore.neither.isSending _ hspawn)
  | unreadable hsource hread hnext hsent =>
    exact hfront hsent hnext.subset (by simpa using hspawn)
  | left hnext hsent =>
    exact hfront hsent (List.append_subset.1 hnext.subset).1 (by simpa using hspawn)
  | @notStarted front stage calls before after stdin' fault halt v r hnext hsent hprogram hrefused
      hafter =>
    have hlater : .spawn argv stdin started ∉ after := fun hmem =>
      Bool.noConfusion (hafter.neither.isSending _ hmem)
    obtain hmem | ⟨rfl, -, -⟩ : .spawn argv stdin started ∈ before ∨
        argv = reg.argv stage.command stage.args ∧ stdin = stdin' ∧ started = none := by
      simpa [hlater, spawnActions] using hspawn
    · exact hfront hsent (List.append_subset.1 hnext.subset).1 hmem
    · refine ⟨stage, (List.append_subset.1 hnext.subset).2 (List.mem_singleton_self _), ?_⟩
      rw [Registry.argv?, isBuiltin_of_eq_none hprogram]
      rfl
  | uncollected hstages hsent => exact hfront hsent (List.Subset.refl _) (by simpa using hspawn)
  | @delivered calls before delivery code r hsent hdelivery =>
    have hlater : .spawn argv stdin started ∉ delivery := fun hmem =>
      Bool.noConfusion ((hdelivery _ hmem).isSending)
    exact hfront hsent (List.Subset.refl _) (by simpa [hlater] using hspawn)

end

end CommandShell
