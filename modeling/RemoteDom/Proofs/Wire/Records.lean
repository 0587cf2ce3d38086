import Mathlib.Logic.Basic
import RemoteDom.Wire.Fields

/-! What the members of a record stand for, and the records that are read. A record is read member by member; each
member is found by its name in an object and by its place in an array. -/

namespace RemoteDom

namespace Json

theorem height_le_of_mem_items {item : Json} {items : List Json} (member : item ∈ items) :
    item.height ≤ Json.heightOfItems items := by
  induction member with
  | head => exact Nat.le_max_left _ _
  | tail _ _ ih => exact Nat.le_trans ih (Nat.le_max_right _ _)

theorem height_le_of_lookup {name : String} {value : Json} {members : List (String × Json)}
    (found : members.lookup name = some value) : value.height ≤ Json.heightOfMembers members := by
  induction members with
  | nil => cases found
  | cons first rest ih =>
      obtain ⟨other, held⟩ := first
      rw [List.lookup_cons] at found
      split at found
      · cases found
        exact Nat.le_max_left _ _
      · exact Nat.le_trans (ih found) (Nat.le_max_right _ _)

end Json

namespace Wire

variable {α β : Type}

/-- What a member stands for that may be missing. -/
inductive Defaulted (default : α) (written : α → Json → Prop) : α → Option Json → Prop
  | missing : Defaulted default written default none
  | given {value : α} {json : Json} (is : written value json) : Defaulted default written value (some json)

/-- What a member stands for that may be missing or null. -/
inductive Possible (written : α → Json → Prop) : Option α → Option Json → Prop
  | missing : Possible written none none
  | null : Possible written none (some .null)
  | given {value : α} {json : Json} (present : json ≠ .null) (is : written value json) :
      Possible written (some value) (some json)

/-- What an array stands for, item by item. -/
inductive Listed (written : α → Json → Prop) : List α → Json → Prop
  | nil : Listed written [] (.array [])
  | cons {value : α} {values : List α} {item : Json} {items : List Json} (is : written value item)
      (rest : Listed written values (.array items)) : Listed written (value :: values) (.array (item :: items))

inductive Text : String → Json → Prop
  | string (text : String) : Text text (.string text)

/-- An integer of sixty-four bits with sign. -/
inductive Integer : Int → Json → Prop
  | fits {number : Int} (lower : -9223372036854775808 ≤ number) (upper : number < 9223372036854775808) :
      Integer number (.integer number)

section Readers

variable {name : String} {default : α} {read : Json → Option α} {members : List (String × Json)} {items : List Json}
  {place : Nat} {result : β × Fields}

/-! Reading member by member. -/

private theorem nullable_eq_some_iff {json : Json} {value : Option α} :
    nullable read json = some value ↔ Possible (fun value json => read json = some value) value (some json) := by
  by_cases null : json = .null
  · subst null
    constructor
    · rintro ⟨⟩
      exact .null
    · intro possible
      cases possible with
      | null => rfl
      | given present => exact absurd rfl present
  · have given : nullable read json = (read json).map some := by
      cases json <;> first | rfl | exact absurd rfl null
    rw [given, Option.map_eq_some_iff]
    constructor
    · rintro ⟨value, readable, rfl⟩
      exact .given null readable
    · intro possible
      cases possible with
      | null => exact absurd rfl null
      | given present readable => exact ⟨_, readable, rfl⟩

private theorem defaulted_eq_some_iff {fields rest : Fields} {value : α} :
    defaulted name default read fields = some (value, rest) ↔
      Defaulted default (fun value json => read json = some value) value (fields.next name).1 ∧
        (fields.next name).2 = rest := by
  unfold defaulted
  rcases fields.next name with ⟨_ | json, behind⟩
  · constructor
    · rintro ⟨⟩
      exact ⟨.missing, rfl⟩
    · rintro ⟨⟨⟩, rfl⟩
      rfl
  · rw [Option.map_eq_some_iff]
    constructor
    · rintro ⟨value, readable, ⟨⟩⟩
      exact ⟨.given readable, rfl⟩
    · rintro ⟨is, rfl⟩
      cases is with
      | given readable => exact ⟨_, readable, rfl⟩

/-- Behind the end of an array there is nothing, not even null. -/
private theorem optional_eq_some_iff {fields rest : Fields} {value : Option α} :
    optional name read fields = some (value, rest) ↔
      (fields ≠ .listed [] ∧ Possible (fun value json => read json = some value) value (fields.next name).1) ∧
        (fields.next name).2 = rest := by
  have given {json : Json} {behind : Fields} :
      ((nullable read json).map fun value => (value, behind)) = some (value, rest) ↔
        Possible (fun value json => read json = some value) value (some json) ∧ behind = rest := by
    rw [Option.map_eq_some_iff, ← nullable_eq_some_iff]
    constructor
    · rintro ⟨value, readable, ⟨⟩⟩
      exact ⟨readable, rfl⟩
    · rintro ⟨readable, rfl⟩
      exact ⟨_, readable, rfl⟩
  match fields with
  | .listed [] => exact ⟨nofun, fun ⟨⟨short, _⟩, _⟩ => absurd rfl short⟩
  | .listed (item :: behind) =>
      rw [and_iff_right (a := Fields.listed (item :: behind) ≠ .listed []) nofun]
      exact given
  | .named members =>
      rw [and_iff_right (a := Fields.named members ≠ .listed []) nofun]
      simp only [optional, Fields.next]
      cases members.lookup name with
      | some json => exact given
      | none =>
          constructor
          · rintro ⟨⟩
            exact ⟨.missing, rfl⟩
          · rintro ⟨⟨⟩, rfl⟩
            rfl

private theorem next_drop :
    (Fields.listed (items.drop place)).next name = (items[place]?, .listed (items.drop (place + 1))) := by
  rw [← List.head?_drop, ← List.tail_drop]
  cases items.drop place <;> rfl

theorem bind_eq_some_iff {reader : FieldReader α} {next : α → FieldReader β} {fields behind : Fields}
    {taken : α → Prop} (reads : ∀ value rest, reader fields = some (value, rest) ↔ taken value ∧ behind = rest) :
    (reader >>= next) fields = some result ↔ ∃ value, taken value ∧ next value behind = some result := by
  show (reader fields).bind (fun taken => next taken.1 taken.2) = some result ↔ _
  rw [Option.bind_eq_some_iff]
  constructor
  · rintro ⟨⟨value, rest⟩, read, onward⟩
    obtain ⟨took, rfl⟩ := (reads value rest).mp read
    exact ⟨value, took, onward⟩
  · rintro ⟨value, took, onward⟩
    exact ⟨(value, behind), (reads value behind).mpr ⟨took, rfl⟩, onward⟩

section Defaulted

variable {next : α → FieldReader β}

theorem bind_defaulted_named :
    (defaulted name default read >>= next) (.named members) = some result ↔
      ∃ value, Defaulted default (fun value json => read json = some value) value (members.lookup name) ∧
        next value (.named members) = some result :=
  bind_eq_some_iff fun _ _ => defaulted_eq_some_iff

theorem bind_defaulted_listed :
    (defaulted name default read >>= next) (.listed (items.drop place)) = some result ↔
      ∃ value, Defaulted default (fun value json => read json = some value) value items[place]? ∧
        next value (.listed (items.drop (place + 1))) = some result :=
  bind_eq_some_iff fun _ _ => by rw [defaulted_eq_some_iff, next_drop]

end Defaulted

section Optional

variable {next : Option α → FieldReader β}

theorem bind_optional_named :
    (optional name read >>= next) (.named members) = some result ↔
      ∃ value, Possible (fun value json => read json = some value) value (members.lookup name) ∧
        next value (.named members) = some result := by
  refine bind_eq_some_iff fun _ _ => optional_eq_some_iff.trans (and_congr_left' ?_)
  exact and_iff_right nofun

theorem bind_optional_listed :
    (optional name read >>= next) (.listed (items.drop place)) = some result ↔
      ∃ value, (place < items.length ∧ Possible (fun value json => read json = some value) value items[place]?) ∧
        next value (.listed (items.drop (place + 1))) = some result := by
  refine bind_eq_some_iff fun _ _ => optional_eq_some_iff.trans ?_
  rw [next_drop]
  refine and_congr_left' (and_congr_left' ?_)
  rw [← not_iff_not, not_not, Nat.not_lt, ← List.drop_eq_nil_iff]
  exact ⟨fun same => Fields.listed.inj same, congrArg Fields.listed⟩

end Optional

theorem record_object_eq_some_iff {reader : FieldReader α} {value : α} :
    record reader (.object members) = some value ↔ ∃ rest, reader (.named members) = some (value, rest) := by
  show (reader (.named members)).map Prod.fst = some value ↔ _
  rw [Option.map_eq_some_iff]
  exact ⟨fun ⟨⟨_, rest⟩, read, same⟩ => ⟨rest, same ▸ read⟩, fun ⟨rest, read⟩ => ⟨_, read, rfl⟩⟩

theorem record_array_eq_some_iff {reader : FieldReader α} {value : α} :
    record reader (.array items) = some value ↔ reader (.listed items) = some (value, .listed []) := by
  simp only [record]
  constructor
  · intro read
    split at read
    · cases read
      assumption
    · cases read
  · intro read
    rw [read]

/-! What single values stand for. -/

theorem signed_eq_some_iff {number : Int} {json : Json} : signed json = some number ↔ Integer number json := by
  constructor
  · intro read
    unfold signed at read
    split at read
    · obtain ⟨⟨lower, upper⟩, ⟨⟩⟩ := Option.ite_none_right_eq_some.mp read
      exact .fits lower (by omega)
    · cases read
  · rintro ⟨lower, upper⟩
    exact if_pos ⟨lower, by omega⟩

theorem string_eq_some_iff {text : String} {json : Json} : string json = some text ↔ Text text json := by
  constructor
  · intro read
    unfold string at read
    split at read <;> cases read
    exact .string text
  · rintro ⟨⟩
    rfl

theorem list_eq_some_iff {values : List α} {json : Json} :
    list read json = some values ↔ Listed (fun value json => read json = some value) values json := by
  constructor
  · intro listed
    cases json with
    | array items =>
        induction items generalizing values with
        | nil =>
            cases listed
            exact .nil
        | cons item items ih =>
            have all : List.mapM read (item :: items) = some values := listed
            rw [List.mapM_cons] at all
            obtain ⟨value, readable, rest⟩ := Option.bind_eq_some_iff.mp all
            obtain ⟨others, further, ⟨⟩⟩ := Option.bind_eq_some_iff.mp rest
            exact .cons readable (ih further)
    | _ => cases listed
  · intro listed
    induction listed with
    | nil => rfl
    | @cons value values item items readable rest ih =>
        show List.mapM read (item :: items) = _
        rw [List.mapM_cons]
        exact Option.bind_eq_some_iff.mpr ⟨value, readable, Option.bind_eq_some_iff.mpr ⟨values, ih, rfl⟩⟩

end Readers

/-! What is known of the values is known of the members. -/

section Written

variable {default : α} {written other : α → Json → Prop} {given : Option Json} {json : Json}

theorem Defaulted.imp {value : α} (defaulted : Defaulted default written value given)
    (implies : ∀ value json, given = some json → written value json → other value json) :
    Defaulted default other value given := by
  cases defaulted with
  | missing => exact .missing
  | given is => exact .given (implies _ _ rfl is)

theorem Possible.imp {value : Option α} (possible : Possible written value given)
    (implies : ∀ value json, given = some json → written value json → other value json) :
    Possible other value given := by
  cases possible with
  | missing => exact .missing
  | null => exact .null
  | given present is => exact .given present (implies _ _ rfl is)

theorem Possible.map {rewritten : β → Json → Prop} {value : Option α} (possible : Possible written value given)
    {change : α → β} (changes : ∀ value json, written value json → rewritten (change value) json) :
    Possible rewritten (value.map change) given := by
  cases possible with
  | missing => exact .missing
  | null => exact .null
  | given present is => exact .given present (changes _ _ is)

theorem Listed.imp {values : List α} (listed : Listed written values json)
    (implies : ∀ value item, item.height < json.height → written value item → other value item) :
    Listed other values json := by
  induction listed with
  | nil => exact .nil
  | @cons value values item items is rest ih =>
      have first : item.height < (Json.array (item :: items)).height := Nat.lt_succ_of_le (Nat.le_max_left _ _)
      have others : (Json.array items).height ≤ (Json.array (item :: items)).height :=
        Nat.succ_le_succ (Nat.le_max_right _ _)
      refine .cons (implies value item first is) (ih fun value item low => ?_)
      exact implies value item (Nat.lt_of_lt_of_le low others)

theorem exists_defaulted_iff :
    (∃ value, Defaulted default written value given) ↔ ∀ json, given = some json → ∃ value, written value json := by
  constructor
  · rintro ⟨_, missing | is⟩ json ⟨⟩
    exact ⟨_, is⟩
  · intro all
    cases given with
    | none => exact ⟨default, .missing⟩
    | some json =>
        obtain ⟨value, is⟩ := all json rfl
        exact ⟨value, .given is⟩

theorem exists_possible_iff :
    (∃ value, Possible written value given) ↔
      ∀ json, given = some json → json ≠ .null → ∃ value, written value json := by
  constructor
  · rintro ⟨_, possible⟩ json rfl present
    cases possible with
    | null => exact absurd rfl present
    | given _ is => exact ⟨_, is⟩
  · intro all
    cases given with
    | none => exact ⟨none, .missing⟩
    | some json =>
        by_cases null : json = .null
        · exact ⟨none, null ▸ .null⟩
        · obtain ⟨value, is⟩ := all json rfl null
          exact ⟨some value, .given null is⟩

theorem exists_listed_iff :
    (∃ values, Listed written values json) ↔
      ∃ items, json = .array items ∧ ∀ item ∈ items, ∃ value, written value item := by
  constructor
  · rintro ⟨values, listed⟩
    induction listed with
    | nil => exact ⟨[], rfl, List.forall_mem_nil _⟩
    | cons is rest ih =>
        obtain ⟨items, ⟨⟩, all⟩ := ih
        exact ⟨_, rfl, List.forall_mem_cons.mpr ⟨⟨_, is⟩, all⟩⟩
  · rintro ⟨items, rfl, all⟩
    induction items with
    | nil => exact ⟨[], .nil⟩
    | cons item items ih =>
        obtain ⟨⟨value, is⟩, others⟩ := List.forall_mem_cons.mp all
        obtain ⟨values, rest⟩ := ih others
        exact ⟨value :: values, .cons is rest⟩

end Written

end Wire

end RemoteDom
