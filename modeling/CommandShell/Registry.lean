import CommandShell.Text.Blank

/-!
# Names of commands

A registry holds the builtins, the aliases and the descriptions that a shell knows. A builtin goes
before an alias of the same name; any other name stands for a program, and an alias for a program
and its first arguments. Aliases are expanded once.
-/
namespace CommandShell
open Text

abbrev Table (α : Type) := List (String × α)

/-- The registry of a shell whose builtins are of type `β`. -/
structure Registry (β : Type) where
  builtins : Table β
  aliases : Table String
  descriptions : Table String

namespace Registry
variable {β γ : Type}

def builtin? (r : Registry β) (name : String) : Option β := r.builtins.lookup name

def isBuiltin (r : Registry β) (name : String) : Bool := (r.builtin? name).isSome

def alias? (r : Registry β) (name : String) : Option String := r.aliases.lookup name

/-- The program and the first arguments that a name stands for. -/
def expand (r : Registry β) (name : String) : List String :=
  match r.alias? name with
  | none => [name]
  | some target => words target

/-- The words with which a name that is no builtin is run. -/
def argv (r : Registry β) (name : String) (args : List String) : List String :=
  r.expand name ++ args

/-- The words with which a name is run; builtins are never run as programs. -/
def argv? (r : Registry β) (name : String) (args : List String) : Option (List String) :=
  if r.isBuiltin name then none else some (r.argv name args)

/-- The description of a name. An alias that has none is described by what it stands for. -/
def describe (r : Registry β) (name : String) : String :=
  let described := (r.descriptions.lookup name).getD ""
  match r.alias? name with
  | none => described
  | some target => if described = "" then "alias for " ++ target else described

def sortedNames {α : Type} (t : Table α) : List String :=
  (t.map Prod.fst).mergeSort (fun a b => a ≤ b)

def builtinNames (r : Registry β) : List String := sortedNames r.builtins

def aliasNames (r : Registry β) : List String := sortedNames r.aliases

/-- The same registry with other builtins under the same names. -/
def map (f : String → β → γ) (r : Registry β) : Registry γ :=
  { builtins := r.builtins.map fun e => (e.1, f e.1 e.2)
    aliases := r.aliases
    descriptions := r.descriptions }

theorem builtin?_map (f : String → β → γ) (r : Registry β) (name : String) :
    (r.map f).builtin? name = (r.builtin? name).map (f name) := by
  unfold builtin? map
  induction r.builtins with
  | nil => rfl
  | cons e rest ih =>
    obtain ⟨key, b⟩ := e
    simp only [List.map_cons, List.lookup_cons]
    by_cases h : name = key
    · subst h; simp
    · simp only [beq_eq_false_iff_ne.2 h]
      exact ih

end Registry

/-- Builtins as they are announced, one after the other. -/
structure Announcement (β : Type) where
  name : String
  builtin : β
  description : String

/-- The announced builtins in the order in which they came. -/
abbrev Catalog (β : Type) := List (Announcement β)

namespace Catalog
variable {β : Type}

/-- Announces a builtin, and hands it back. -/
def announce (c : Catalog β) (name : String) (builtin : β) (description : String) :
    Catalog β × β :=
  (c ++ [⟨name, builtin, description⟩], builtin)

/-- Puts a name into a table; a name that is there keeps its place and gets the new value. -/
def put {α : Type} (t : Table α) (name : String) (value : α) : Table α :=
  if t.any (·.1 = name) then t.map fun e => if e.1 = name then (name, value) else e
  else t ++ [(name, value)]

/-- The registry of the announced builtins. An empty description is none. -/
def freeze (c : Catalog β) (aliases : Table String) : Registry β :=
  { builtins := c.foldl (fun t a => put t a.name a.builtin) []
    aliases
    descriptions := c.foldl
      (fun t a => if a.description = "" then t else put t a.name a.description) [] }

end Catalog
end CommandShell
