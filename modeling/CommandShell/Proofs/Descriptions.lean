import CommandShell.Proofs.Escapes
import Mathlib

/-!
# What names are said to be

A name is looked up among the builtins first and described by its alias first. The two agree on
every name but a builtin that has an alias of its name and no description: it is said to be an alias
and is run as a builtin. The help text is the one without such aliases only where there are none,
for it lists them below the others.
-/
namespace CommandShell
open Text

namespace Registry
variable {β : Type} {r : Registry β} {name target : String}

/-- A name with a description of its own. An empty one counts as missing. -/
def IsDescribed (r : Registry β) (name : String) : Prop :=
  (r.descriptions.lookup name).getD "" ≠ ""

/-- The registry without the alias of a name. -/
def withoutAlias (r : Registry β) (name : String) : Registry β :=
  { r with aliases := r.aliases.filter (·.1 ≠ name) }

/-- The registry with no aliases but those that are followed: a builtin goes before its alias. -/
def followed (r : Registry β) : Registry β :=
  { r with aliases := r.aliases.filter fun e => !r.isBuiltin e.1 }

lemma lookup_filter {α : Type} (t : Table α) (p : String → Bool) (name : String) :
    (t.filter fun e => p e.1).lookup name = if p name then t.lookup name else none := by
  induction t with
  | nil => simp
  | cons e t ih =>
    obtain ⟨key, a⟩ := e
    by_cases hkey : name = key
    · subst hkey
      cases hp : p name with
      | true => simp [hp]
      | false => simpa [hp] using ih
    · have hother := beq_eq_false_iff_ne.2 hkey
      cases hp : p key <;> simpa [hp, List.lookup_cons, hother] using ih

lemma alias?_withoutAlias (r : Registry β) (name : String) :
    (r.withoutAlias name).alias? name = none := by
  have hlookup := lookup_filter r.aliases (fun key => decide (key ≠ name)) name
  simpa [alias?, withoutAlias] using hlookup

lemma alias?_followed (r : Registry β) (name : String) :
    r.followed.alias? name = if r.isBuiltin name then none else r.alias? name := by
  have hlookup := lookup_filter r.aliases (fun key => !r.isBuiltin key) name
  cases hside : r.isBuiltin name <;> simpa [alias?, followed, hside] using hlookup

/-- Names are run as if the aliases that are not followed were not there. -/
lemma argv?_followed (r : Registry β) (name : String) (args : List String) :
    r.followed.argv? name args = r.argv? name args := by
  have hside : r.followed.isBuiltin name = r.isBuiltin name := rfl
  unfold argv? argv expand
  rw [hside, alias?_followed]
  cases r.isBuiltin name <;> rfl

lemma followed_eq_self_iff : r.followed = r ↔ ∀ e ∈ r.aliases, r.isBuiltin e.1 = false := by
  obtain ⟨builtins, aliases, descriptions⟩ := r
  simp [followed, isBuiltin, builtin?, List.filter_eq_self]

/-! ## Descriptions -/

lemma describe_of_alias?_none (h : r.alias? name = none) :
    r.describe name = (r.descriptions.lookup name).getD "" := by
  simp only [describe, h]

lemma describe_of_isDescribed (h : r.IsDescribed name) :
    r.describe name = (r.descriptions.lookup name).getD "" := by
  unfold IsDescribed at h
  unfold describe
  cases r.alias? name <;> simp [h]

lemma describe_of_alias (halias : r.alias? name = some target) (h : ¬ r.IsDescribed name) :
    r.describe name = "alias for " ++ target := by
  unfold IsDescribed at h
  simp [describe, halias, not_not.1 h]

lemma describe_withoutAlias (r : Registry β) (name : String) :
    (r.withoutAlias name).describe name = (r.descriptions.lookup name).getD "" :=
  describe_of_alias?_none (alias?_withoutAlias r name)

/-- Taking the alias of a name away shows in its description only if it has no other. -/
lemma describe_eq_withoutAlias_iff :
    r.describe name = (r.withoutAlias name).describe name ↔
      r.alias? name = none ∨ r.IsDescribed name := by
  rw [describe_withoutAlias]
  constructor
  · intro h
    by_contra hneither
    obtain ⟨halias, hdescribed⟩ := not_or.1 hneither
    obtain ⟨target, htarget⟩ := Option.ne_none_iff_exists'.1 halias
    rw [describe_of_alias htarget hdescribed, not_not.1 hdescribed] at h
    simp at h
  · rintro (halias | hdescribed)
    · exact describe_of_alias?_none halias
    · exact describe_of_isDescribed hdescribed

/-- Names that are no builtins are described alike where other aliases are not there. -/
lemma describe_followed (hside : r.isBuiltin name = false) :
    r.followed.describe name = r.describe name := by
  simp only [describe, alias?_followed, hside]
  rfl

lemma describe_followed_of_isBuiltin (hside : r.isBuiltin name = true) :
    r.followed.describe name = (r.descriptions.lookup name).getD "" := by
  refine describe_of_alias?_none ?_
  rw [alias?_followed, if_pos hside]

lemma mem_sortedNames {α : Type} {t : Table α} :
    name ∈ sortedNames t ↔ ∃ a, (name, a) ∈ t := by
  simp [sortedNames, List.mem_mergeSort]

lemma isBuiltin_of_mem (h : name ∈ r.builtinNames) : r.isBuiltin name = true := by
  obtain ⟨b, hmem⟩ := mem_sortedNames.1 h
  rw [isBuiltin, builtin?, Option.isSome_iff_ne_none, ne_eq, List.lookup_eq_none_iff]
  intro hnone
  simpa using hnone _ hmem

/-- The aliases of a registry are those that are followed and those that have a builtin's name. -/
lemma aliasNames_perm (r : Registry β) :
    (r.followed.aliasNames ++ (r.aliases.map Prod.fst).filter r.isBuiltin).Perm r.aliasNames := by
  have hfollowed : r.followed.aliases.map Prod.fst =
      (r.aliases.map Prod.fst).filter fun name => !r.isBuiltin name := by
    simp [followed, List.filter_map, Function.comp_def]
  have hnames : r.followed.aliasNames.Perm
      ((r.aliases.map Prod.fst).filter fun name => !r.isBuiltin name) :=
    hfollowed ▸ List.mergeSort_perm _ _
  have hsplit := List.perm_append_comm.trans
    (List.filter_append_perm r.isBuiltin (r.aliases.map Prod.fst))
  exact ((hnames.append_right _).trans hsplit).trans (List.mergeSort_perm _ _).symm

end Registry

namespace Builtin
variable {β : Type} {r : Registry β} {name : String} {lines : List String}

/-- How many characters lines take in a text, each with the line feed behind it. -/
def roomOf (lines : List String) : Nat := (lines.map fun line => line.length + 1).sum

lemma roomOf_append (lines more : List String) :
    roomOf (lines ++ more) = roomOf lines + roomOf more := by
  simp [roomOf]

lemma length_intercalate (h : lines ≠ []) :
    (String.intercalate "\n" lines).length + 1 = roomOf lines := by
  induction lines with
  | nil => exact absurd rfl h
  | cons line rest ih =>
    by_cases hrest : rest = []
    · simp [hrest, roomOf]
    · have hroom : roomOf (line :: rest) = line.length + 1 + roomOf rest := by simp [roomOf]
      have hfeed : "\n".length = 1 := rfl
      rw [String.intercalate_cons_of_ne_nil hrest, String.length_append, String.length_append,
        hfeed, hroom, ← ih hrest]
      omega

lemma roomOf_pos (h : lines ≠ []) : 0 < roomOf lines := by
  rw [← length_intercalate h]
  exact Nat.succ_pos _

def aliasLine (r : Registry β) (name : String) : String := "  " ++ name ++ " - " ++ r.describe name

def helpLines (r : Registry β) : List String :=
  ["Builtins:"] ++ r.builtinNames.map (helpLine r) ++ ["Aliases:"] ++
    r.aliasNames.map (aliasLine r) ++ ["Anything else is run as an external program."]

lemma helpText_eq (r : Registry β) : helpText r = String.intercalate "\n" (helpLines r) := rfl

/-- A builtin takes no less room when it is said to be an alias. -/
lemma length_helpLine_followed (hside : r.isBuiltin name = true) :
    (helpLine r.followed name).length ≤ (helpLine r name).length := by
  have hfollowed := Registry.describe_followed_of_isBuiltin hside
  by_cases hdescribed : r.IsDescribed name
  · rw [helpLine, helpLine, hfollowed, Registry.describe_of_isDescribed hdescribed]
  · have hshort : helpLine r.followed name = "  " ++ name := by
      simp [helpLine, hfollowed, not_not.1 hdescribed]
    rw [hshort, helpLine]
    split
    · exact Nat.le_refl _
    · simp only [String.length_append]
      omega

lemma roomOf_builtins (r : Registry β) :
    roomOf (r.followed.builtinNames.map (helpLine r.followed)) ≤
      roomOf (r.builtinNames.map (helpLine r)) := by
  simp only [roomOf, List.map_map]
  exact List.sum_le_sum fun name hname =>
    Nat.succ_le_succ (length_helpLine_followed (Registry.isBuiltin_of_mem hname))

/-- The aliases that are not followed take up room of their own. -/
lemma roomOf_aliases (r : Registry β) :
    roomOf (r.aliasNames.map (aliasLine r)) =
      roomOf (r.followed.aliasNames.map (aliasLine r.followed)) +
        roomOf (((r.aliases.map Prod.fst).filter r.isBuiltin).map (aliasLine r)) := by
  have hsame : r.followed.aliasNames.map (aliasLine r.followed) =
      r.followed.aliasNames.map (aliasLine r) := by
    refine List.map_congr_left fun name hname => ?_
    obtain ⟨target, hmem⟩ := Registry.mem_sortedNames.1 hname
    have hside : r.isBuiltin name = false := by simpa using (List.mem_filter.1 hmem).2
    rw [aliasLine, aliasLine, Registry.describe_followed hside]
  rw [hsame, ← roomOf_append, ← List.map_append]
  exact (((r.aliasNames_perm.map (aliasLine r)).map _).sum_nat).symm

/-- The help text is that of the aliases that are followed only if these are all. -/
lemma helpText_eq_followed_iff :
    helpText r = helpText r.followed ↔ ∀ e ∈ r.aliases, r.isBuiltin e.1 = false := by
  constructor
  · intro h e he
    by_contra hside
    -- Lines may hold line feeds, so texts are told apart by their room and not line by line.
    have hroom : roomOf (helpLines r) = roomOf (helpLines r.followed) := by
      rw [← length_intercalate (by simp [helpLines]), ← length_intercalate (by simp [helpLines]),
        ← helpText_eq, ← helpText_eq, h]
    have hmem : e.1 ∈ (r.aliases.map Prod.fst).filter r.isBuiltin :=
      List.mem_filter.2 ⟨List.mem_map_of_mem he, by simpa using hside⟩
    have hmore : 0 < roomOf (((r.aliases.map Prod.fst).filter r.isBuiltin).map (aliasLine r)) :=
      roomOf_pos (by simpa using List.ne_nil_of_mem hmem)
    have hbuiltins := roomOf_builtins r
    simp only [helpLines, roomOf_append, roomOf_aliases r] at hroom
    omega
  · intro h
    rw [Registry.followed_eq_self_iff.2 h]

lemma isDescribed_of_isBuiltin {aliases : Table String}
    (hside : (registry aliases).isBuiltin name = true) : (registry aliases).IsDescribed name := by
  obtain ⟨b, hb⟩ := Option.isSome_iff_exists.1 hside
  have hdescriptions : (registry aliases).descriptions = (registry []).descriptions := rfl
  have hall : ∀ e ∈ [("exit", leave), ("clear", clear), ("help", help), ("history", history),
      ("cd", changeFolder), ("cf", changeFolder)],
      ((registry []).descriptions.lookup e.1).getD "" ≠ "" := by decide
  rw [Registry.IsDescribed, hdescriptions]
  exact hall _ (mem_of_builtin? hb)

end Builtin

/-- A builtin is described as it is without its alias, unless it has an alias and no description of
its own. Then it is said to be an alias, though it is never run as one. A name that is run for an
alias and has no description is said to stand for just the words that it is run with. The help text
names no alias but those that are followed exactly if no builtin has an alias of its name. In a
shell with the usual builtins every builtin has a description. -/
theorem descriptions_follow_lookup {β : Type} (r : Registry β) :
    (∀ name, r.isBuiltin name = true →
      (r.describe name = (r.withoutAlias name).describe name ↔
        r.alias? name = none ∨ r.IsDescribed name) ∧
      ∀ target, r.alias? name = some target → ¬ r.IsDescribed name →
        r.describe name = "alias for " ++ target ∧ ∀ args, r.argv? name args = none) ∧
    (∀ name target, r.isBuiltin name = false → r.alias? name = some target →
      ¬ r.IsDescribed name →
        ∃ text, r.describe name = "alias for " ++ text ∧ r.argv? name [] = some (words text)) ∧
    (∀ name args, r.followed.argv? name args = r.argv? name args) ∧
    (Builtin.helpText r = Builtin.helpText r.followed ↔
      ∀ e ∈ r.aliases, r.isBuiltin e.1 = false) ∧
    ∀ aliases name, (Builtin.registry aliases).isBuiltin name = true →
      (Builtin.registry aliases).describe name =
        ((Builtin.registry aliases).withoutAlias name).describe name := by
  refine ⟨fun name hside => ⟨Registry.describe_eq_withoutAlias_iff, fun target halias hnone => ?_⟩,
    fun name target hside halias hnone => ?_, r.argv?_followed, Builtin.helpText_eq_followed_iff,
    fun aliases name hside => ?_⟩
  · refine ⟨Registry.describe_of_alias halias hnone, fun args => ?_⟩
    rw [Registry.argv?, if_pos hside]
  · refine ⟨target, Registry.describe_of_alias halias hnone, ?_⟩
    simp [Registry.argv?, hside, Registry.argv, Registry.expand, halias]
  · exact Registry.describe_eq_withoutAlias_iff.2 (.inr (Builtin.isDescribed_of_isBuiltin hside))

/-- A builtin under the name of an alias, beside an alias with a first argument. -/
theorem descriptions_follow_lookup_over_alias :
    let r : Registry Unit := ⟨[("list", ())], [("list", "ls"), ("removef", "rm -r")], []⟩
    r.isBuiltin "list" = true ∧ r.describe "list" = "alias for ls" ∧
      r.describe "list" ≠ (r.withoutAlias "list").describe "list" ∧
      (∃ text, r.describe "removef" = "alias for " ++ text ∧
        r.argv? "removef" [] = some (words text)) ∧
      Builtin.helpText r ≠ Builtin.helpText r.followed := by
  intro r
  obtain ⟨hbuiltins, haliases, -, hhelp, -⟩ := descriptions_follow_lookup r
  have hside : r.isBuiltin "list" = true := by decide
  have hnone (name : String) : ¬ r.IsDescribed name := by simp [Registry.IsDescribed, r]
  obtain ⟨hsame, hcalled⟩ := hbuiltins "list" hside
  refine ⟨hside, (hcalled "ls" rfl (hnone _)).1, fun h => ?_,
    haliases "removef" "rm -r" (by decide) rfl (hnone _), fun h => ?_⟩
  · obtain halias | hdescribed := hsame.1 h
    · cases halias
    · exact hnone _ hdescribed
  · cases (hhelp.1 h ("list", "ls") (by simp [r])).symm.trans hside

/-- The description of a builtin can be that of an alias of its name. -/
theorem description_hides_builtin :
    ¬ ∀ (r : Registry Unit) (name : String), r.isBuiltin name = true →
      r.describe name = (r.withoutAlias name).describe name := by
  intro h
  have hsame := h ⟨[("list", ())], [("list", "ls")], []⟩ "list" (by decide)
  revert hsame
  decide

end CommandShell
