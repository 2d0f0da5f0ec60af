import Mathlib.Data.List.Basic
import OrgAccess.Policy.Declaration

/-!
# Compiling an ability

The ability of a user is compiled from the first entry of the user's role and from nothing else in
the table: `RoleTable.compile_of_isFirst` and `RoleTable.compile_of_missing` say what is done,
whatever the declarations do besides adding rules. What is run is seen by noting it
(`RoleTable.watch`): each entry notes its place when its declaration is run, and the events that are
reported are noted in between. `first_entry_compiled` says what is noted, and that a registry
compiles the same ability with the same report.
-/

namespace OrgAccess

variable {m : Type → Type} {ρ : Type}

/-! ## What declarations add -/

/-- Rules that are added one after the other stand in that order after those before them. -/
theorem Builder.foldl_push (builder : Builder) (rules : List Rule) :
    rules.foldl push builder = ⟨builder.rules ++ rules⟩ := by
  induction rules generalizing builder with
  | nil => rw [List.foldl_nil, List.append_nil]
  | cons rule rest ih =>
      rw [List.foldl_cons, ih, push, List.append_assoc, List.singleton_append]

/-- The declaration of given rules adds these. -/
theorem Permissions.permissions_declaration (permissions : Permissions) :
    (permissions.declaration : Declaration Id).permissions = permissions := by
  funext user
  show ((permissions user).foldl Builder.push .empty).rules = permissions user
  rw [Builder.foldl_push]
  rfl

/-- Every registry is that of a table. -/
theorem Registry.registry_table (registry : Registry) : registry.table.registry = registry := by
  obtain ⟨entries⟩ := registry
  simp only [table, RoleTable.registry, List.map_map, Function.comp_def,
    Permissions.permissions_declaration, List.map_id']

/-! ## The first entry of a role -/

namespace Role

variable {α : Type} {entries : List (Role × α)} {role : Role}

/-- No entry is found for a role that has none. -/
theorem find?_eq_none_iff :
    (entries.find? fun entry => entry.1 = role) = none ↔ role ∉ entries.map Prod.fst := by
  simp only [List.find?_eq_none, List.mem_map, not_exists, not_and, decide_eq_true_eq]

/-- The entry that is found for a role has none of the role before it. -/
theorem find?_eq_some_iff {value : α} :
    (entries.find? fun entry => entry.1 = role) = some (role, value) ↔
      ∃ before after, entries = before ++ (role, value) :: after ∧
        role ∉ before.map Prod.fst := by
  simp only [List.find?_eq_some_iff_append, ← find?_eq_none_iff, List.find?_eq_none,
    decide_true, true_and, Bool.not_eq_true', decide_eq_false_iff_not, decide_eq_true_eq]

end Role

namespace RoleTable

/-- A declaration is the first for a role: its entry stands at a place with none of the role before
it, and with any after it. -/
def IsFirst (table : RoleTable m) (role : Role) (place : Nat) (declare : Declaration m) : Prop :=
  ∃ before after, table.entries = before ++ (role, declare) :: after ∧
    role ∉ before.map Prod.fst ∧ before.length = place

section

variable {table : RoleTable m} {role : Role}

/-- The declaration that is found for a role is the first. -/
theorem declarationFor_eq_ok_iff {declare : Declaration m} :
    table.declarationFor role = .ok declare ↔ ∃ place, table.IsFirst role place declare := by
  have hfirst : (table.entries.find? fun entry => entry.1 = role) = some (role, declare) ↔
      ∃ place, table.IsFirst role place declare := by
    rw [Role.find?_eq_some_iff]
    constructor
    · rintro ⟨before, after, hentries, hbefore⟩
      exact ⟨_, before, after, hentries, hbefore, rfl⟩
    · rintro ⟨_, before, after, hentries, hbefore, -⟩
      exact ⟨before, after, hentries, hbefore⟩
  rw [← hfirst, declarationFor]
  cases hfind : table.entries.find? fun entry => entry.1 = role with
  | none => exact iff_of_false nofun nofun
  | some entry =>
      obtain ⟨found, other⟩ := entry
      obtain rfl : found = role := by simpa using List.find?_some hfind
      simp

/-- A role has no declaration exactly when it has no entry. -/
theorem declarationFor_eq_error_iff {fault : Fault} :
    table.declarationFor role = .error fault ↔
      role ∉ table.roles ∧ fault = .configuration (.unknownRole role.name) := by
  rw [roles, ← Role.find?_eq_none_iff, declarationFor]
  cases table.entries.find? fun entry => entry.1 = role <;> simp [eq_comm]

/-- A role that has an entry has a first. -/
theorem exists_isFirst_of_mem (hrole : role ∈ table.roles) :
    ∃ place declare, table.IsFirst role place declare := by
  cases hfound : table.declarationFor role with
  | ok declare =>
      obtain ⟨place, hfirst⟩ := declarationFor_eq_ok_iff.1 hfound
      exact ⟨place, declare, hfirst⟩
  | error fault => exact absurd hrole (declarationFor_eq_error_iff.1 hfound).1

/-- A role with a first entry is one of the roles of the table. -/
theorem IsFirst.mem_roles {place : Nat} {declare : Declaration m}
    (hfirst : table.IsFirst role place declare) : role ∈ table.roles := by
  obtain ⟨before, after, hentries, -⟩ := hfirst
  rw [roles, hentries]
  simp

end

/-! ## Compiling -/

section

variable [Monad m] {table : RoleTable m} {user : Principal} {place : Nat}
  {declare : Declaration m}

/-- The first declaration of the user's role is run on an empty builder, and nothing else of the
table is run. -/
theorem compile_of_isFirst (hfirst : table.IsFirst user.role place declare)
    (report : Event → m Unit) (resolver : ρ) :
    table.compile report user resolver = (do
      let builder ← declare user .empty
      report (.abilityCompiled user.id user.role builder.rules.length)
      pure (.ok ⟨builder.rules, resolver⟩)) := by
  rw [compile, declarationFor_eq_ok_iff.2 ⟨place, hfirst⟩]
  rfl

/-- Without an entry of the user's role nothing of the table is run. -/
theorem compile_of_missing (hmissing : user.role ∉ table.roles) (report : Event → m Unit)
    (resolver : ρ) :
    table.compile report user resolver = (do
      report (.noPermissions user.id user.role)
      pure (.error (.configuration (.unknownRole user.role.name)))) := by
  rw [compile, declarationFor_eq_error_iff.2 ⟨hmissing, rfl⟩]

end

end RoleTable

/-! ## What is seen of compiling -/

/-- What is noted while an ability is compiled: that the declaration of an entry is run, or that an
event is reported. -/
inductive Note where
  | ran (place : Nat)
  | reported (event : Event)

/-- Takes a note. -/
def Note.take [Monad m] (note : Note) : StateT (List Note) m Unit :=
  modify (· ++ [note])

/-- The declaration of an entry, which notes the place of the entry when it is run. -/
def Declaration.noting [Monad m] (declare : Declaration m) (place : Nat) :
    Declaration (StateT (List Note) m) := fun user builder => do
  Note.take (.ran place)
  StateT.lift (declare user builder)

namespace RoleTable

section

variable [Monad m]

/-- Entries that note their places, counted from a given one. -/
def notingFrom : Nat → List (Role × Declaration m) →
    List (Role × Declaration (StateT (List Note) m))
  | _, [] => []
  | place, (role, declare) :: rest => (role, declare.noting place) :: notingFrom (place + 1) rest

/-- The table whose entries note their places. -/
def noting (table : RoleTable m) : RoleTable (StateT (List Note) m) :=
  ⟨notingFrom 0 table.entries⟩

/-- Compiles the ability of a user, and tells what was run and what was reported on the way. -/
def watch (table : RoleTable m) (user : Principal) (resolver : ρ) :
    m (Except Fault (Compiled ρ) × List Note) :=
  (table.noting.compile (fun event => Note.take (.reported event)) user resolver).run []

/-- Noting which declaration runs leaves the roles of the entries as they are. -/
theorem map_fst_notingFrom (place : Nat) (entries : List (Role × Declaration m)) :
    (notingFrom place entries).map Prod.fst = entries.map Prod.fst := by
  induction entries generalizing place with
  | nil => rfl
  | cons entry rest ih => rw [notingFrom, List.map_cons, List.map_cons, ih]

/-- Noting which declaration runs adds no entry and drops none. -/
theorem length_notingFrom (place : Nat) (entries : List (Role × Declaration m)) :
    (notingFrom place entries).length = entries.length := by
  have hlength := congrArg List.length (map_fst_notingFrom place entries)
  rwa [List.length_map, List.length_map] at hlength

/-- The entries after others are noted from the place after those. -/
theorem notingFrom_append (place : Nat) (before after : List (Role × Declaration m)) :
    notingFrom place (before ++ after) =
      notingFrom place before ++ notingFrom (place + before.length) after := by
  induction before generalizing place with
  | nil => rfl
  | cons entry rest ih =>
      rw [List.cons_append, notingFrom, notingFrom, ih, List.cons_append, List.length_cons,
        Nat.add_assoc, Nat.add_comm 1]

/-- A table that notes which declaration runs has the roles of the plain one. -/
theorem roles_noting (table : RoleTable m) : table.noting.roles = table.roles :=
  map_fst_notingFrom 0 table.entries

/-- The first entry of a role remains the first, and notes its place. -/
theorem IsFirst.noting {table : RoleTable m} {role : Role} {place : Nat} {declare : Declaration m}
    (hfirst : table.IsFirst role place declare) :
    table.noting.IsFirst role place (declare.noting place) := by
  obtain ⟨before, after, hentries, hbefore, rfl⟩ := hfirst
  refine ⟨notingFrom 0 before, notingFrom (before.length + 1) after, ?_, ?_,
    length_notingFrom 0 before⟩
  · rw [RoleTable.noting, hentries, notingFrom_append, Nat.zero_add, notingFrom]
  · rwa [map_fst_notingFrom]

end

section

variable [Monad m] [LawfulMonad m] {table : RoleTable m} {user : Principal} {place : Nat}
  {declare : Declaration m}

/-- The first declaration is run, once, and then the ability is reported. -/
theorem watch_of_isFirst (hfirst : table.IsFirst user.role place declare) (resolver : ρ) :
    table.watch user resolver = (do
      let builder ← declare user .empty
      pure (.ok ⟨builder.rules, resolver⟩,
        [.ran place, .reported (.abilityCompiled user.id user.role builder.rules.length)])) := by
  rw [watch, compile_of_isFirst hfirst.noting]
  simp [Declaration.noting, Note.take]

/-- No declaration is run, and the missing entry is reported. -/
theorem watch_of_missing (hmissing : user.role ∉ table.roles) (resolver : ρ) :
    table.watch user resolver =
      pure (.error (.configuration (.unknownRole user.role.name)),
        [.reported (.noPermissions user.id user.role)]) := by
  rw [← roles_noting] at hmissing
  rw [watch, compile_of_missing hmissing]
  simp [Note.take]

/-- Taking notes changes nothing of what is compiled. -/
theorem map_fst_watch (table : RoleTable m) (user : Principal) (resolver : ρ) :
    Prod.fst <$> table.watch user resolver =
      table.compile (fun _ => pure ()) user resolver := by
  cases hfound : table.declarationFor user.role with
  | ok declare =>
      obtain ⟨place, hfirst⟩ := declarationFor_eq_ok_iff.1 hfound
      rw [watch_of_isFirst hfirst, compile_of_isFirst hfirst]
      simp
  | error fault =>
      obtain ⟨hmissing, -⟩ := declarationFor_eq_error_iff.1 hfound
      rw [watch_of_missing hmissing, compile_of_missing hmissing]
      simp

end

/-! ## What a registry compiles -/

section

variable {table : RoleTable Id} {user : Principal} {discriminant : Discriminant} {place : Nat}
  {declare : Declaration Id}

/-- The registry of a table lists the roles of the table. -/
theorem roles_registry (table : RoleTable Id) : table.registry.roles = table.roles :=
  List.map_map

/-- What a registry finds for a role are the permissions of what its table finds. -/
theorem permissionsFor_registry (table : RoleTable Id) (role : Role) :
    table.registry.permissionsFor role =
      (table.declarationFor role).map Declaration.permissions := by
  rw [Registry.permissionsFor, registry, List.find?_map, declarationFor]
  simp only [Function.comp_def]
  cases table.entries.find? fun entry => entry.1 = role <;> rfl

/-- A registry compiles the rules that the first declaration of the user's role adds to an empty
builder. -/
theorem compileReported_of_isFirst (hfirst : table.IsFirst user.role place declare) :
    table.registry.compileReported user discriminant =
      (.ok ⟨declare.permissions user, discriminant⟩,
        .abilityCompiled user.id user.role (declare.permissions user).length) := by
  rw [Registry.compileReported, Registry.compile, permissionsFor_registry,
    declarationFor_eq_ok_iff.2 ⟨place, hfirst⟩]
  rfl

/-- A registry fails for a role that it does not list, and reports that it has no permissions. -/
theorem compileReported_of_missing (hmissing : user.role ∉ table.roles) :
    table.registry.compileReported user discriminant =
      (.error (.configuration (.unknownRole user.role.name)),
        .noPermissions user.id user.role) := by
  rw [Registry.compileReported, Registry.compile, permissionsFor_registry,
    declarationFor_eq_error_iff.2 ⟨hmissing, rfl⟩]
  rfl

/-- An ability is compiled exactly for the roles that have an entry. -/
theorem exists_compile_iff :
    (∃ ability, table.registry.compile user discriminant = .ok ability) ↔
      user.role ∈ table.registry.roles := by
  rw [Registry.compile, permissionsFor_registry, roles_registry]
  cases hfound : table.declarationFor user.role with
  | ok declare =>
      obtain ⟨place, hfirst⟩ := declarationFor_eq_ok_iff.1 hfound
      exact iff_of_true ⟨_, rfl⟩ hfirst.mem_roles
  | error fault =>
      obtain ⟨hmissing, -⟩ := declarationFor_eq_error_iff.1 hfound
      exact iff_of_false nofun hmissing

end

end RoleTable

/-- Compiling the table of a registry, in whatever monad, is to report once what the registry
reports and to answer what it answers. -/
theorem Registry.compile_table [Monad m] [LawfulMonad m] (registry : Registry)
    (report : Event → m Unit) (user : Principal) (discriminant : Discriminant) :
    Except.map Compiled.ability <$>
        (registry.table : RoleTable m).compile report user discriminant = (do
      report (registry.compileReported user discriminant).2
      pure (registry.compileReported user discriminant).1) := by
  have hdeclaration : (registry.table : RoleTable m).declarationFor user.role =
      (registry.permissionsFor user.role).map Permissions.declaration := by
    rw [RoleTable.declarationFor, table, List.find?_map, permissionsFor]
    simp only [Function.comp_def]
    cases registry.entries.find? fun entry => entry.1 = user.role <;> rfl
  rw [RoleTable.compile, hdeclaration, compileReported, compile]
  cases registry.permissionsFor user.role with
  | error fault => simp [Except.map]
  | ok permissions =>
      simp [Except.map, Permissions.declaration, Builder.foldl_push, Builder.build, Builder.empty,
        Compiled.ability]

/-- An ability is compiled from the first entry of the user's role, whatever the declarations of a
table do and whatever is to type raw records. Where the role has an entry, the declaration of the
first is run once, on an empty builder; the rules that are in the builder then are the ability, in
order, and their number is reported, once. Where the role has no entry, no declaration is run, that
is reported once, and the fault in the configuration names the role. A registry, which is that of a
table whose declarations do nothing but add rules, has an ability exactly for the roles that it
lists, with the same rules and the same report. -/
theorem first_entry_compiled :
    (∀ (m : Type → Type) [Monad m] [LawfulMonad m] (ρ : Type) (table : RoleTable m)
        (user : Principal) (resolver : ρ),
      Prod.fst <$> table.watch user resolver =
        table.compile (fun _ => pure ()) user resolver ∧
      (user.role ∈ table.roles → ∃ place declare, table.IsFirst user.role place declare) ∧
      (∀ place declare, table.IsFirst user.role place declare →
        table.watch user resolver = (do
          let builder ← declare user .empty
          pure (.ok ⟨builder.rules, resolver⟩,
            [.ran place,
              .reported (.abilityCompiled user.id user.role builder.rules.length)]))) ∧
      (user.role ∉ table.roles →
        table.watch user resolver =
          pure (.error (.configuration (.unknownRole user.role.name)),
            [.reported (.noPermissions user.id user.role)]))) ∧
    (∀ registry : Registry, registry.table.registry = registry) ∧
    (∀ (table : RoleTable Id) (user : Principal) (discriminant : Discriminant),
      ((∃ ability, table.registry.compile user discriminant = .ok ability) ↔
        user.role ∈ table.registry.roles) ∧
      (∀ place declare, table.IsFirst user.role place declare →
        table.registry.compileReported user discriminant =
          (.ok ⟨declare.permissions user, discriminant⟩,
            .abilityCompiled user.id user.role (declare.permissions user).length)) ∧
      (user.role ∉ table.registry.roles →
        table.registry.compileReported user discriminant =
          (.error (.configuration (.unknownRole user.role.name)),
            .noPermissions user.id user.role))) ∧
    ∀ (user : Principal) (count : Nat),
      let compiled := Event.abilityCompiled user.id user.role count
      compiled.message = "ability compiled" ∧ ("rules", count.repr) ∈ compiled.fields ∧
        (Event.noPermissions user.id user.role).message = "no permission function for role" := by
  refine ⟨?watched, Registry.registry_table, ?registered, ?worded⟩
  case watched =>
    intro m _ _ ρ table user resolver
    refine ⟨table.map_fst_watch user resolver, RoleTable.exists_isFirst_of_mem, ?_, ?_⟩
    · intro place declare hfirst
      exact RoleTable.watch_of_isFirst hfirst resolver
    · intro hmissing
      exact RoleTable.watch_of_missing hmissing resolver
  case registered =>
    intro table user discriminant
    refine ⟨RoleTable.exists_compile_iff, ?_, ?_⟩
    · intro place declare hfirst
      exact RoleTable.compileReported_of_isFirst hfirst
    · intro hmissing
      rw [RoleTable.roles_registry] at hmissing
      exact RoleTable.compileReported_of_missing hmissing
  case worded =>
    intro user count
    exact ⟨rfl, by simp [Event.fields], rfl⟩

/-- A member has two entries, and both the later one and the one of another role before them fail
when they are run: the ability is that of the earlier one. An admin has no entry, so that none of
them fails, but the compilation does. -/
theorem compiled_between_failures :
    let projects (m : Type → Type) [Monad m] : Declaration m := fun user builder =>
      pure ((builder.can [.get] (Kind.project)).canIf [.update] (Kind.project) (.ownedBy user.id))
    let fails : Declaration Option := fun _ _ => none
    let table : RoleTable Option :=
      ⟨[(.billing, fails), (.member, projects Option), (.member, fails)]⟩
    let quiet : RoleTable Id := ⟨[(.member, projects Id), (.member, fun _ => pure)]⟩
    let untyped : Json → Except Fault Subject := fun _ => .error (.typeMismatch .notConcrete)
    let member : Principal := ⟨"u1", .member⟩
    let admin : Principal := ⟨"u2", .admin⟩
    let rules : List Rule :=
      [.can [.get] (Kind.project), .canIf [.update] (Kind.project) (.ownedBy "u1")]
    table.watch member untyped =
        some (.ok ⟨rules, untyped⟩, [.ran 1, .reported (.abilityCompiled "u1" .member 2)]) ∧
      table.watch admin untyped =
        some (.error (.configuration (.unknownRole "ADMIN")),
          [.reported (.noPermissions "u2" .admin)]) ∧
      quiet.registry.compileReported member .default =
        (.ok ⟨rules, .default⟩, .abilityCompiled "u1" .member 2) ∧
      quiet.registry.compileReported admin .default =
        (.error (.configuration (.unknownRole "ADMIN")), .noPermissions "u2" .admin) := by
  intro projects fails table quiet untyped member admin rules
  obtain ⟨hwatch, -, hregistry, -⟩ := first_entry_compiled
  have hfirst : table.IsFirst .member 1 (projects Option) :=
    ⟨[(.billing, fails)], [(.member, fails)], rfl, by simp, rfl⟩
  have hquiet : quiet.IsFirst .member 0 (projects Id) :=
    ⟨[], [(.member, fun _ => pure)], rfl, by simp, rfl⟩
  have hadmin : admin.role ∉ table.roles := by simp [table, admin, RoleTable.roles]
  have hadminQuiet : admin.role ∉ quiet.registry.roles := by
    simp [quiet, admin, RoleTable.registry, Registry.roles]
  exact ⟨(hwatch Option _ table member untyped).2.2.1 1 _ hfirst,
    (hwatch Option _ table admin untyped).2.2.2 hadmin,
    (hregistry quiet member .default).2.1 0 _ hquiet,
    (hregistry quiet admin .default).2.2 hadminQuiet⟩

end OrgAccess
