import OrgAccess.Event

/-!
# Declaring rules

A role declares its rules by adding them to a builder, one after the other, and while it does so it
may do other things besides: it is a computation in a monad. A table lists roles with what declares
their rules. To compile an ability is to run the first declaration of the user's role on an empty
builder, and to freeze what is in the builder then with whatever is to type raw records. How it went
is reported, and a role without an entry runs nothing. A `Registry` is a table of declarations that
do nothing besides, each given by the rules that it adds (`Registry.table`, `RoleTable.registry`).
-/

namespace OrgAccess

/-- Rules that are being declared, in order. -/
structure Builder where
  rules : List Rule

namespace Builder

/-- The builder without rules. -/
def empty : Builder := ⟨[]⟩

/-- The builder with one more rule, after the others. -/
def push (builder : Builder) (rule : Rule) : Builder :=
  ⟨builder.rules ++ [rule]⟩

/-- The builder with one more rule that grants some actions. -/
def can (builder : Builder) (actions : List Action) (type : SubjectType) : Builder :=
  builder.push (.can actions type)

/-- The builder with one more rule that denies some actions. -/
def cannot (builder : Builder) (actions : List Action) (type : SubjectType) : Builder :=
  builder.push (.cannot actions type)

/-- The builder with one more rule that grants some actions where a condition holds. -/
def canIf (builder : Builder) (actions : List Action) (type : SubjectType)
    (condition : Condition) : Builder :=
  builder.push (.canIf actions type condition)

/-- The builder with one more rule that denies some actions where a condition holds. -/
def cannotIf (builder : Builder) (actions : List Action) (type : SubjectType)
    (condition : Condition) : Builder :=
  builder.push (.cannotIf actions type condition)

/-- How many rules have been declared. -/
def length (builder : Builder) : Nat :=
  builder.rules.length

/-- Whether no rule has been declared. -/
def isEmpty (builder : Builder) : Bool :=
  builder.rules.isEmpty

end Builder

/-- The rules of a builder, frozen with what types raw records. -/
structure Compiled (ρ : Type) where
  rules : List Rule
  resolver : ρ

/-- The rules of a builder with a resolver. -/
def Builder.build {ρ : Type} (builder : Builder) (resolver : ρ) : Compiled ρ :=
  ⟨builder.rules, resolver⟩

/-- The ability that types raw records by a discriminant. -/
def Compiled.ability (compiled : Compiled Discriminant) : Ability :=
  ⟨compiled.rules, compiled.resolver⟩

/-- What declares the rules of a role for a user. -/
abbrev Declaration (m : Type → Type) := Principal → Builder → m Builder

/-- A table of roles and what declares their rules. -/
structure RoleTable (m : Type → Type) where
  entries : List (Role × Declaration m)

namespace RoleTable

variable {m : Type → Type} {ρ : Type}

/-- The roles of the entries, in order. -/
def roles (table : RoleTable m) : List Role :=
  table.entries.map Prod.fst

/-- What the first entry of a role has to declare its rules. -/
def declarationFor (table : RoleTable m) (role : Role) : Except Fault (Declaration m) :=
  match table.entries.find? fun entry => entry.1 = role with
  | some entry => .ok entry.2
  | none => .error (.configuration (.unknownRole role.name))

/-- Compiles the ability of a user and reports how it went. -/
def compile [Monad m] (table : RoleTable m) (report : Event → m Unit) (user : Principal)
    (resolver : ρ) : m (Except Fault (Compiled ρ)) :=
  match table.declarationFor user.role with
  | .error fault => do
      report (.noPermissions user.id user.role)
      pure (.error fault)
  | .ok declare => do
      let builder ← declare user .empty
      let compiled := builder.build resolver
      report (.abilityCompiled user.id user.role compiled.rules.length)
      pure (.ok compiled)

end RoleTable

/-! ## Declarations that do nothing besides -/

/-- The rules that a declaration adds to an empty builder. -/
def Declaration.permissions (declare : Declaration Id) : Permissions := fun user =>
  (declare user .empty).run.rules

/-- The declaration that adds the rules one after the other. -/
def Permissions.declaration {m : Type → Type} [Monad m] (permissions : Permissions) :
    Declaration m := fun user builder =>
  pure ((permissions user).foldl Builder.push builder)

/-- The registry of the rules that the declarations of a table add. -/
def RoleTable.registry (table : RoleTable Id) : Registry :=
  ⟨table.entries.map fun entry => (entry.1, entry.2.permissions)⟩

/-- The table of declarations that add the rules of a registry. -/
def Registry.table {m : Type → Type} [Monad m] (registry : Registry) : RoleTable m :=
  ⟨registry.entries.map fun entry => (entry.1, entry.2.declaration)⟩

end OrgAccess
