import OrgAccess.Json.Codec
import OrgAccess.Proofs.Instant.Text

/-!
# Written records are read back

A record is written as an object with one member for each of its fields, and the fields are looked
for by name (`Document.fields?_members`), so every field is read from the member that was written
for it (`Document.required?_fieldsOf`, `Document.optional?_fieldsOf`). What remains for a record is
that the values of its fields are read back. `Codec.RoundTrips` is the whole claim about a type.
-/

namespace OrgAccess

open Json (Document Members)

namespace Json

namespace Members

variable {key : String}

/-- The members as documents. -/
def documents (members : Members) : List (String × Document) :=
  members.entries.map fun member => (member.1, .value member.2)

/-- There is one member under a key, if there is any. -/
theorem filter_documents (members : Members) :
    members.documents.filter (fun member => member.1 = key) =
      ((members.get? key).map fun value => (key, Document.value value)).toList := by
  obtain ⟨entries, hsorted⟩ := members
  simp only [documents, get?]
  induction entries with
  | nil => rfl
  | cons head rest ih =>
      obtain ⟨k, v⟩ := head
      obtain ⟨hhead, hrest⟩ := List.pairwise_cons.1 hsorted
      rw [List.map_cons, lookup]
      by_cases hk : k = key
      · subst hk
        rw [List.filter_cons_of_pos (by simp), ih hrest, lookup_eq_none_of_lt hhead]
        simp
      · rw [List.filter_cons_of_neg (by simp [hk]), ih hrest, if_neg hk]

/-- What a record with the named fields has of the members, as documents. -/
def fieldsOf (members : Members) (names : List String) : List (String × Document) :=
  members.documents.filter fun member => names.contains member.1

/-- A field is found if it has a member. -/
theorem lookup_fieldsOf (members : Members) {names : List String} {name : String}
    (hname : name ∈ names) :
    (members.fieldsOf names).lookup name = (members.get? name).map .value := by
  unfold fieldsOf documents get?
  induction members.entries with
  | nil => rfl
  | cons head rest ih =>
      obtain ⟨k, v⟩ := head
      rw [List.map_cons, lookup]
      by_cases hk : k = name
      · subst hk
        rw [List.filter_cons_of_pos (by simpa using hname)]
        simp
      · rw [if_neg hk, ← ih, List.filter_cons]
        split
        · rw [List.lookup_cons, beq_false_of_ne (Ne.symm hk)]
        · rfl

end Members

namespace Document

/-- The members of an object are read under their keys. -/
theorem keyedMembers?_members (members : Members) :
    (Document.value members.toJson).keyedMembers? = some members.documents := by
  simp only [keyedMembers?, Members.toJson, members?, Members.documents, Option.bind_eq_bind,
    Option.bind_some]
  induction members.entries with
  | nil => rfl
  | cons head rest ih => simp [ih]

/-- A string is read as its text. -/
theorem string?_value (text : String) : (Document.value (.string text)).string? = some text := rfl

/-- A record of the named fields is read from an object, whatever its other members are. -/
@[simp] theorem fields?_members (members : Members) (names : List String) (optional : Nat) :
    (Document.value members.toJson).fields? names optional = some (members.fieldsOf names) := by
  have hkeys : (members.entries.map Prod.fst).Nodup := by
    refine List.Pairwise.map _ ?_ members.sorted
    intro a b hlt heq
    exact String.lt_irrefl b.1 (heq ▸ hlt)
  have hnodup : ((members.fieldsOf names).map Prod.fst).Nodup := by
    have hmap : members.documents.map Prod.fst = members.entries.map Prod.fst := List.map_map
    rw [← hmap] at hkeys
    exact hkeys.sublist (List.filter_sublist.map Prod.fst)
  have hitems : (Document.value members.toJson).items? = none := rfl
  rw [fields?, hitems, keyedMembers?_members]
  exact if_pos hnodup

variable {α : Type} [Codec α] {members : Members} {names : List String} {name : String}

/-- A field that a record must have is read from its member. -/
@[simp] theorem required?_fieldsOf (hname : name ∈ names) :
    (required? (members.fieldsOf names) name : Option α) =
      (members.get? name).bind Codec.ofJson? := by
  rw [required?, members.lookup_fieldsOf hname]
  cases members.get? name <;> rfl

/-- A field that a record may do without is none if it has no member. -/
@[simp] theorem optional?_fieldsOf (hname : name ∈ names) :
    (optional? (members.fieldsOf names) name : Option (Option α)) =
      match members.get? name with
      | some json => Codec.ofJson? json
      | none => some none := by
  rw [optional?, members.lookup_fieldsOf hname]
  cases members.get? name <;> rfl

/-- The name of an element of a list spells the element if no other there has the name. -/
theorem named?_name {β : Type} {all : List β} {name : β → String} {a : β} (hmem : a ∈ all)
    (hname : ∀ b ∈ all, name b = name a → b = a) :
    named? all name (.value (.string (name a))) = some a := by
  show all.find? (fun b => name b = name a) = some a
  cases hfind : all.find? fun b => name b = name a with
  | none => exact absurd (decide_eq_true rfl) (List.find?_eq_none.1 hfind a hmem)
  | some b =>
      have hsame : name b = name a := by simpa using List.find?_some hfind
      rw [hname b (List.mem_of_find?_eq_some hfind) hsame]

/-- An instant that a record has is one that a timestamp can tell. -/
theorem isTimestamp_of_required? {fields : List (String × Document)} {instant : Instant}
    (h : required? fields name = some instant) : instant.IsTimestamp := by
  obtain ⟨document, -, hread⟩ := Option.bind_eq_some_iff.1 h
  obtain ⟨text, -, htext⟩ := Option.bind_eq_some_iff.1 hread
  exact Instant.isTimestamp_of_ofText? htext

end Document

end Json

namespace Codec

variable {α : Type} [Codec α]

/-- What a value is written as is read as the value. -/
def ReadsBack (value : α) : Prop :=
  ofJson? (toJson value) = some value

/-- What reads back is read from what is written of it. -/
@[simp] theorem ofJson?_toJson {value : α} (h : ReadsBack value) :
    ofJson? (toJson value) = some value := h

/-- Values that are read back have forms of their own. -/
theorem ReadsBack.eq_of_toJson_eq {a b : α} (ha : ReadsBack a) (hb : ReadsBack b)
    (h : toJson a = toJson b) : a = b :=
  Option.some.inj (ha.symm.trans ((congrArg ofJson? h).trans hb))

/-! ## Values of fields -/

/-- Every value is read as itself. -/
@[simp] theorem ofJson?_json (json : Json) : ofJson? json = some json := rfl

/-- A text is read from the string with that text. -/
@[simp] theorem ofJson?_string (text : String) : ofJson? (.string text) = some text := rfl

/-- Every text reads back. -/
@[simp] theorem readsBack_string (text : String) : ReadsBack text := rfl

/-- An identifier is read from the text of a string. -/
theorem ofJson?_uuid (json : Json) :
    (ofJson? json : Option Uuid) = (Document.value json).string?.bind Uuid.ofText? := rfl

/-- An instant is read from the text of a string. -/
theorem ofJson?_instant (json : Json) :
    (ofJson? json : Option Instant) = (Document.value json).string?.bind Instant.ofText? := rfl

/-- Every identifier reads back. -/
@[simp] theorem readsBack_uuid (id : Uuid) : ReadsBack id := by
  have hform : toJson id = .string id.text := rfl
  rw [ReadsBack, ofJson?_uuid, hform, Document.string?_value, Option.bind_some, Uuid.ofText?_text]

/-- An instant reads back if a timestamp can tell it. -/
@[simp] theorem readsBack_instant {instant : Instant} (h : instant.IsTimestamp) :
    ReadsBack instant := by
  have hform : toJson instant = .string instant.text := rfl
  rw [ReadsBack, ofJson?_instant, hform, Document.string?_value, Option.bind_some,
    Instant.ofText?_text h]

/-- What is there is read back if it is not taken for nothing. -/
theorem readsBack_option {value : Option α} (h : ∀ a, value = some a → ReadsBack a)
    (hnull : ∀ a, value = some a → (Document.value (toJson a)).isNull = false) :
    ReadsBack value := by
  cases value with
  | none => rfl
  | some a =>
      show (if (Document.value (toJson a)).isNull then some none
        else (ofJson? (toJson a)).map some) = _
      rw [hnull a rfl, h a rfl]
      rfl

/-- A text that may be missing reads back. -/
@[simp] theorem readsBack_option_string (text : Option String) : ReadsBack text :=
  readsBack_option (fun _ _ => rfl) fun _ _ => rfl

/-- A list is read back item by item. -/
theorem readsBack_list {values : List α} (h : ∀ a ∈ values, ReadsBack a) : ReadsBack values := by
  show ((values.map toJson).map Document.value).mapM ofDocument? = some values
  induction values with
  | nil => rfl
  | cons a rest ih =>
      have hfirst : ofDocument? (.value (toJson a)) = some a := h a List.mem_cons_self
      have hrest := ih fun b hb => h b (List.mem_cons_of_mem a hb)
      rw [List.map_cons, List.map_cons, List.mapM_cons, hfirst, hrest]
      rfl

/-- A list of values is read from the array with those items. -/
@[simp] theorem ofJson?_array (values : List Json) : ofJson? (.array values) = some values := by
  have hvalues : ReadsBack values := readsBack_list fun json _ => ofJson?_json json
  have hform : toJson values = .array values := congrArg Json.array (List.map_id values)
  rwa [ReadsBack, hform] at hvalues

/-! ## Types -/

/-- Writing and reading the values of a type agree. A value that is valid is read back, so valid
values have forms of their own; and a value that is read, from whatever form of it, is read back
from the one that it is written in. -/
structure RoundTrips (α : Type) [Codec α] (valid : α → Prop) : Prop where
  readsBack : ∀ value : α, valid value → ofJson? (toJson value) = some value
  injective : ∀ a b : α, valid a → valid b → toJson a = toJson b → a = b
  rereads : ∀ (document : Document) (value : α), ofDocument? document = some value →
    ofJson? (toJson value) = some value

/-- It is enough that valid values are read back and that no other values are read. -/
theorem RoundTrips.of {valid : α → Prop} (hreads : ∀ value, valid value → ReadsBack value)
    (hvalid : ∀ (document : Document) (value : α), ofDocument? document = some value →
      valid value) : RoundTrips α valid where
  readsBack := hreads
  injective a b ha hb := (hreads a ha).eq_of_toJson_eq (hreads b hb)
  rereads document value hread := hreads value (hvalid document value hread)

end Codec

end OrgAccess
