import Mathlib
import OrgAccess.Policy.Fault
import OrgAccess.Proofs.Text.CaseMapping

/-!
# Names in any case

Which texts name an action, a subject type or a role. Text is read with the full Unicode case
mappings, but a text names an action or a subject type exactly when it is spelled like the name but
for the case of ASCII letters (`words_exact`). Roles are read by upper-casing, where the dotless i
becomes an `I`: besides the texts that are spelled like its name, those with a dotless i in the
place of an `i` name a role as well, and no others do (`role_named_iff`).
-/

namespace OrgAccess

/-- Two texts have the same characters but for the case of ASCII letters. -/
def SpelledAlike (a b : String) : Prop :=
  a.toList.map Char.toLower = b.toList.map Char.toLower

/-- Whether texts are spelled alike is seen by comparing their small letters. -/
instance (a b : String) : Decidable (SpelledAlike a b) :=
  inferInstanceAs (Decidable (_ = _))

/-- A text with every dotless i taken for an i. -/
def dotted (text : String) : String :=
  String.ofList (text.toList.map Text.dotted)

/-- A thing is found in a list of all things by a name that no two share. -/
theorem find?_named_eq_some_iff {α β : Type} [DecidableEq β] {things : List α} {name : α → β}
    (hall : ∀ thing, thing ∈ things) (hname : ∀ a b, name a = name b → a = b) (text : β)
    (thing : α) :
    (things.find? fun other => name other = text) = some thing ↔ name thing = text := by
  constructor
  · intro h
    simpa using List.find?_some h
  · rintro rfl
    cases hfind : things.find? fun other => name other = name thing with
    | none => simpa using List.find?_eq_none.1 hfind thing (hall thing)
    | some other => rw [hname other thing (by simpa using List.find?_some hfind)]

/-! ## Spelling -/

variable {text word : String}

/-- No letter is an underscore in its lower case. -/
theorem toLower_eq_underscore_iff {c : Char} : c.toLower = '_' ↔ c = '_' := by
  by_cases hcapital : c.isUpper
  · -- a capital becomes a small letter, and an underscore is no letter at all
    have hsmall : c.toLower.isLower := by
      simp [Char.isAlpha, hcapital]
    refine iff_of_false (fun h => ?_) (fun h => ?_)
    · exact absurd (h ▸ hsmall) (by decide)
    · exact absurd (h ▸ hcapital) (by decide)
  · rw [Char.toLower_eq_of_not_isUpper hcapital]

/-- Texts are alike in small letters exactly when they are in capitals. -/
theorem map_toUpper_eq_iff {as bs : List Char} :
    as.map Char.toUpper = bs.map Char.toUpper ↔ as.map Char.toLower = bs.map Char.toLower := by
  constructor
  · intro h
    simpa [Function.comp_def] using congrArg (List.map Char.toLower) h
  · intro h
    simpa [Function.comp_def] using congrArg (List.map Char.toUpper) h

/-- A text has the small letters of a word in ASCII without `k` as its lower case exactly when it is
spelled like the word. -/
theorem lowercase_eq_iff
    (hword : word.toList.all fun c => c.toLower.toNat < 128 && c.toLower != 'k') :
    Text.lowercase text = String.ofList (word.toList.map Char.toLower) ↔
      SpelledAlike text word := by
  rw [Text.lowercase, String.ofList_inj, Text.lowerChars_eq_iff (by simpa using hword)]
  rfl

/-- A text has a word in capitals of ASCII without `F` and `S` as its upper case exactly when it is
spelled like the word, a dotless i being taken for an i. -/
theorem uppercase_eq_iff (hcapitals : word.toList.map Char.toUpper = word.toList)
    (hword : word.toList.all fun c => c.toNat < 128 && c != 'F' && c != 'S') :
    Text.uppercase text = word ↔ SpelledAlike (dotted text) word := by
  have hupper : Text.upperChars text.toList = word.toList ↔ _ :=
    Text.upperChars_eq_iff (by simpa [and_assoc] using hword)
  rw [SpelledAlike, ← map_toUpper_eq_iff, hcapitals, dotted, String.toList_ofList, List.map_map,
    Text.uppercase, ← String.toList_inj, String.toList_ofList]
  exact hupper

/-- What is spelled like a word has its letters only. -/
theorem SpelledAlike.exists_toLower_eq (h : SpelledAlike text word) {c : Char}
    (hc : c ∈ text.toList) : ∃ d ∈ word.toList, c.toLower = d.toLower := by
  have hmem : c.toLower ∈ word.toList.map Char.toLower := h ▸ List.mem_map_of_mem hc
  obtain ⟨d, hd, hsame⟩ := List.mem_map.1 hmem
  exact ⟨d, hd, hsame.symm⟩

/-- A text without a dotless i is left alone. -/
theorem dotted_eq_self (h : 'ı' ∉ text.toList) : dotted text = text := by
  have hmap : text.toList.map Text.dotted = text.toList.map id := by
    refine List.map_congr_left fun c hc => if_neg ?_
    rintro rfl
    exact h hc
  rw [dotted, hmap, List.map_id, String.ofList_toList]

/-! ## The vocabulary -/

/-- A text names an action when it is spelled like the name of the action. -/
theorem Action.ofText?_eq_some_iff (text : String) (action : Action) :
    Action.ofText? text = some action ↔ SpelledAlike text action.name := by
  have hlower : action.name = String.ofList (action.name.toList.map Char.toLower) := by
    cases action <;> decide
  have hword : action.name.toList.all fun c => c.toLower.toNat < 128 && c.toLower != 'k' := by
    cases action <;> decide
  rw [ofText?, find?_named_eq_some_iff mem_all fun _ _ => name_injective, eq_comm, hlower,
    lowercase_eq_iff hword, ← hlower]

/-- No two subject types have one keyword. -/
theorem SubjectType.keyword_injective {a b : SubjectType} (h : a.keyword = b.keyword) : a = b := by
  revert h
  rcases a with (_ | _ | _ | _ | _) | _ <;> rcases b with (_ | _ | _ | _ | _) | _ <;>
    simp [SubjectType.keyword, Kind.keyword]

/-- A text names a subject type when it is spelled like the name of the type. -/
theorem SubjectType.ofText?_eq_some_iff (text : String) (type : SubjectType) :
    SubjectType.ofText? text = some type ↔ SpelledAlike text type.name := by
  have hlower : type.keyword = String.ofList (type.name.toList.map Char.toLower) := by
    rcases type with (_ | _ | _ | _ | _) | _ <;> decide
  have hword : type.name.toList.all fun c => c.toLower.toNat < 128 && c.toLower != 'k' := by
    rcases type with (_ | _ | _ | _ | _) | _ <;> decide
  rw [ofText?, find?_named_eq_some_iff mem_every fun _ _ => keyword_injective, eq_comm, hlower,
    lowercase_eq_iff hword]

/-- A text names a role when it is spelled like the name, a dotless i being taken for an i. -/
theorem Role.ofText?_eq_some_iff (text : String) (role : Role) :
    Role.ofText? text = some role ↔ SpelledAlike (dotted text) role.name := by
  have hcapitals : role.name.toList.map Char.toUpper = role.name.toList := by
    cases role <;> decide
  have hword : role.name.toList.all fun c => c.toNat < 128 && c != 'F' && c != 'S' := by
    cases role <;> decide
  rw [ofText?, find?_named_eq_some_iff mem_all fun _ _ => name_injective, eq_comm,
    uppercase_eq_iff hcapitals hword]

/-- The names of actions are made of letters of ASCII and of the underscore. -/
theorem Action.isAlpha_of_ofText? {text : String} {action : Action}
    (h : Action.ofText? text = some action) {c : Char} (hc : c ∈ text.toList) :
    c.isAlpha = true ∨ c = '_' := by
  have hname : action.name.toList.all fun d => d.isAlpha || d == '_' := by
    cases action <;> decide
  obtain ⟨d, hd, hsame⟩ := ((ofText?_eq_some_iff text action).1 h).exists_toLower_eq hc
  have hd' : d.isAlpha = true ∨ d = '_' := by simpa using List.all_eq_true.1 hname d hd
  rcases hd' with hletter | rfl
  · rw [← Char.isAlpha_toLower_eq_isAlpha, hsame, Char.isAlpha_toLower_eq_isAlpha]
    exact .inl hletter
  · exact .inr (toLower_eq_underscore_iff.1 hsame)

/-- Those of subject types of letters alone. -/
theorem SubjectType.isAlpha_of_ofText? {text : String} {type : SubjectType}
    (h : SubjectType.ofText? text = some type) {c : Char} (hc : c ∈ text.toList) :
    c.isAlpha = true := by
  have hname : type.name.toList.all Char.isAlpha := by
    rcases type with (_ | _ | _ | _ | _) | _ <;> decide
  obtain ⟨d, hd, hsame⟩ := ((ofText?_eq_some_iff text type).1 h).exists_toLower_eq hc
  rw [← Char.isAlpha_toLower_eq_isAlpha, hsame, Char.isAlpha_toLower_eq_isAlpha,
    List.all_eq_true.1 hname d hd]

/-- A text with a dotless i is not spelled like the name of a role. -/
theorem Role.not_spelledAlike_of_dotless {text : String} (h : 'ı' ∈ text.toList) (role : Role) :
    ¬ SpelledAlike text role.name := by
  intro halike
  have hmem : Char.toLower 'ı' ∈ role.name.toList.map Char.toLower :=
    halike ▸ List.mem_map_of_mem h
  revert hmem
  cases role <;> decide

/-- Reading an action or a subject type accepts the names of the vocabulary in any case of ASCII
letters and nothing else, though it lower-cases with all of Unicode. So no text with a blank, a
separator or any character above ASCII is accepted: each of its characters is a letter of ASCII,
or, in an action, an underscore. -/
theorem words_exact (text : String) :
    (∀ action, Action.ofText? text = some action ↔ SpelledAlike text action.name) ∧
    (∀ type, SubjectType.ofText? text = some type ↔ SpelledAlike text type.name) ∧
    (∀ c ∈ text.toList, c.isAlpha = false →
      SubjectType.ofText? text = none ∧ (c ≠ '_' → Action.ofText? text = none)) := by
  refine ⟨Action.ofText?_eq_some_iff text, SubjectType.ofText?_eq_some_iff text, ?_⟩
  intro c hc hother
  constructor
  · cases htype : SubjectType.ofText? text with
    | none => rfl
    | some type => exact absurd (SubjectType.isAlpha_of_ofText? htype hc) (by simp [hother])
  · intro hplain
    cases haction : Action.ofText? text with
    | none => rfl
    | some action =>
        have hletter := (Action.isAlpha_of_ofText? haction hc).resolve_right hplain
        exact absurd hletter (by simp [hother])

/-- The capital i with a dot becomes an `i`, with the dot after it, which is no letter of a name. -/
theorem dotted_invite_unnamed :
    Text.lowercase "İnvite" = "i\u0307nvite" ∧ SubjectType.ofText? "İnvite" = none ∧
      Action.ofText? "İnvite" = none := by
  obtain ⟨-, -, hreject⟩ := words_exact "İnvite"
  obtain ⟨htype, haction⟩ := hreject 'İ' (by decide) (by decide)
  exact ⟨by decide, htype, haction (by decide)⟩

/-- Reading a role accepts its name in any case of ASCII letters, and, since it upper-cases with all
of Unicode, the same with a dotless i in the place of an `i`. These look-alikes are all that it
accepts beyond the names, and any other text is refused with a fault that has the text as it is. -/
theorem role_named_iff (text : String) :
    (∀ role, Role.ofText? text = some role ↔ SpelledAlike (dotted text) role.name) ∧
    (∀ role, Role.ofText? text = some role ∧ ¬ SpelledAlike text role.name ↔
      'ı' ∈ text.toList ∧ SpelledAlike (dotted text) role.name) ∧
    (∀ fault, Role.ofText text = .error fault ↔
      fault = .unknownRole text ∧ ∀ role : Role, ¬ SpelledAlike (dotted text) role.name) := by
  refine ⟨Role.ofText?_eq_some_iff text, fun role => ?_, fun fault => ?_⟩
  · rw [Role.ofText?_eq_some_iff]
    constructor
    · rintro ⟨halike, hother⟩
      refine ⟨?_, halike⟩
      by_contra hplain
      rw [dotted_eq_self hplain] at halike
      exact hother halike
    · rintro ⟨hdotless, halike⟩
      exact ⟨halike, Role.not_spelledAlike_of_dotless hdotless role⟩
  · simp only [← Role.ofText?_eq_some_iff]
    unfold Role.ofText
    cases Role.ofText? text with
    | none => simp [eq_comm]
    | some role => simp

/-- A text with a dotless i is read as the role of an admin, though no case of ASCII letters makes
it the name. -/
theorem dotless_admin :
    Role.ofText? "admın" = some .admin ∧ ¬ SpelledAlike "admın" Role.admin.name := by
  decide

end OrgAccess
