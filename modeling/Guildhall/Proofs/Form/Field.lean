import Guildhall.Form.Entity
import Guildhall.Proofs.Form.Scalar

/-!
The fields of a form that hold identifiers: what an entity writes for each of them is the decimal
text of the integer that was given, and is read back as that integer.
-/

namespace Guildhall.Form

open Calendar

/-! ## Outcomes of reading -/

namespace Checked

variable {α β : Type}

def Ensures (c : Checked α) (P : α → Prop) : Prop := ∀ x, c = .valid x → P x

theorem map_ok {f : α → β} {c : Checked α} {y : β} :
    c.map f = .valid y ↔ ∃ x, c = .valid x ∧ f x = y := by
  cases c <;> simp [map]

theorem seq_ok {f : Checked (α → β)} {c : Checked α} {y : β} :
    f.seq c = .valid y ↔ ∃ g x, f = .valid g ∧ c = .valid x ∧ g x = y := by
  cases f <;> cases c <;> simp [seq]

theorem under_ok {step : Step} {c : Checked α} {x : α} :
    c.under step = .valid x ↔ c = .valid x := by
  cases c <;> simp [under]

@[simp]
theorem ensures_map {f : α → β} {c : Checked α} {P : β → Prop} :
    (f <$> c).Ensures P ↔ c.Ensures fun x => P (f x) := by
  constructor
  · exact fun ensured x read => ensured _ (map_ok.mpr ⟨x, read, rfl⟩)
  · intro ensured y read
    obtain ⟨x, found, rfl⟩ := map_ok.mp read
    exact ensured x found

@[simp]
theorem ensures_seq {f : Checked (α → β)} {c : Checked α} {P : β → Prop} :
    (f <*> c).Ensures P ↔ f.Ensures fun g => c.Ensures fun x => P (g x) := by
  constructor
  · exact fun ensured g first x second => ensured _ (seq_ok.mpr ⟨g, x, first, second, rfl⟩)
  · intro ensured y read
    obtain ⟨g, x, first, second, rfl⟩ := seq_ok.mp read
    exact ensured g first x second

end Checked

section Outcomes

variable {α : Type} {fields : Fields} {name : String} {read : Json → Checked α} {default x : α}

theorem required_ok : required fields name read = .valid x ↔
    ∃ value, Json.field? fields name = some value ∧ read value = .valid x := by
  unfold required
  cases Json.field? fields name with
  | none => simp [Checked.fault, Checked.under]
  | some value => simp [Checked.under_ok]

theorem optional_ok : optional fields name read default = .valid x ↔
    (∃ value, Json.field? fields name = some value ∧ read value = .valid x) ∨
      (Json.field? fields name = none ∧ default = x) := by
  unfold optional
  cases Json.field? fields name <;> simp [Checked.under_ok]

theorem nullable_ok {value : Json} {shown : Option α} : nullable read value = .valid shown ↔
    (value = .null ∧ shown = none) ∨
      ∃ x, value ≠ .null ∧ shown = some x ∧ read value = .valid x := by
  cases value <;> simp [nullable, Checked.map_ok, eq_comm, and_comm]

theorem items_ok {index : Nat} {values : List Json} {xs : List α} :
    items read index values = .valid xs ↔
      List.Forall₂ (fun value x => read value = .valid x) values xs := by
  induction values generalizing index xs with
  | nil => simp [items, eq_comm]
  | cons value rest later =>
    simp only [items, Checked.seq_ok, Checked.map_ok, Checked.under_ok, later,
      List.forall₂_cons_left_iff]
    constructor
    · rintro ⟨_, tail, ⟨head, first, rfl⟩, others, rfl⟩
      exact ⟨head, tail, first, others, rfl⟩
    · rintro ⟨head, tail, first, others, rfl⟩
      exact ⟨_, tail, ⟨head, first, rfl⟩, others, rfl⟩

theorem listOf_ok {value : Json} {xs : List α} : listOf read value = .valid xs ↔
    ∃ values, value = .list values ∧
      List.Forall₂ (fun item x => read item = .valid x) values xs := by
  cases value <;> simp [listOf, Checked.fault, items_ok]

theorem nullable_ofOption {write : α → Json} {shown : Option α}
    (shows : ∀ x, write x ≠ .null) (again : ∀ x ∈ shown, read (write x) = .valid x) :
    nullable read (Json.ofOption write shown) = .valid shown := by
  cases shown with
  | none => rfl
  | some x => exact nullable_ok.mpr (.inr ⟨x, shows x, rfl, again x rfl⟩)

end Outcomes

/-! ## What a field holds -/

inductive Holding where
  | required
  /-- Permissions, none of them when the field is left out. -/
  | permissions
  /-- One identifier or none. -/
  | optional
  | list
  /-- Users, each with an identifier of its own. -/
  | users
  deriving DecidableEq, Repr

def Holding.parts : Holding → Json → List Json
  | .required, value | .permissions, value | .optional, value => [value]
  | .list, .list items => items
  | .users, .list items => items.filterMap (·.get? "id")
  | .list, _ | .users, _ => []

def Canonical (given written : Json) : Prop := ∃ n, Denotes given n ∧ written = .text (toString n)

def CanonicalUser (given written : Json) : Prop :=
  ∃ id text, given.get? "id" = some id ∧ written.get? "id" = some text ∧ Canonical id text

/-- What is written for the value of a field, or for its absence. -/
inductive Carries : Holding → Option Json → Json → Prop
  | required {given written : Json} :
    Canonical given written → Carries .required (some given) written
  | permissions {given written : Json} :
    Canonical given written → Carries .permissions (some given) written
  | noPermissions : Carries .permissions none (.text "0")
  | optional {given written : Json} :
    Canonical given written → Carries .optional (some given) written
  | null : Carries .optional (some .null) .null
  | absent : Carries .optional none .null
  | list {given written : List Json} :
    List.Forall₂ Canonical given written → Carries .list (some (.list given)) (.list written)
  | noList : Carries .list none (.list [])
  | users {given written : List Json} :
    List.Forall₂ CanonicalUser given written →
      Carries .users (some (.list given)) (.list written)
  | noUsers : Carries .users none (.list [])

def Sized (holding : Holding) (given : Option Json) : Prop :=
  ∀ value ∈ given, ∀ n, .whole n ∈ holding.parts value → Decimal.isWritable n = true

/-- What an entity holds of a field, as it is written: it is read back, and it carries what was
given. -/
structure Kept {α : Type} (holding : Holding) (given : Option Json) (read : Json → Checked α)
    (written : Json) (x : α) : Prop where
  again : read written = .valid x
  carried : Carries holding given written

/-- A list is read back if its items are, and is related to what was given as its items are. -/
theorem listOf_kept {α : Type} {read again : Json → Checked α} {write : α → Json} {shown : α → α}
    {related : Json → Json → Prop} {values : List Json} {xs : List α}
    (found : List.Forall₂ (fun value x => read value = .valid x) values xs)
    (each : ∀ value ∈ values, ∀ x, read value = .valid x →
      again (write x) = .valid (shown x) ∧ related value (write x)) :
    listOf again (.list (xs.map write)) = .valid (xs.map shown) ∧
      List.Forall₂ related values (xs.map write) := by
  have members := (List.forall₂_and_left values xs).mpr ⟨fun _ member => member, found⟩
  have pairs := members.imp fun value x given => each value given.1 x given.2
  constructor
  · refine listOf_ok.mpr ⟨_, rfl, ?_⟩
    clear members found each
    induction pairs with
    | nil => exact .nil
    | cons head _ later => exact .cons head.1 later
  · exact List.forall₂_map_right_iff.mpr (pairs.imp fun _ _ both => both.2)

/-- An identifier is read back from its text, which is that of the integer given. -/
theorem identifier_kept {value : Json} {n : Int} (read : identifier value = .valid n)
    (sized : ∀ m, .whole m = value → Decimal.isWritable m = true) :
    identifier (.ofId n) = .valid n ∧ Canonical value (.ofId n) :=
  ⟨identifier_ofId.mpr (identifier_writable read fun m same => sized m same.symm),
    n, identifier_denotes read, rfl⟩

section Again

/-! Values of the other kinds are written as they were read. -/

@[simp]
theorem text_again (shown : String) : text (.text shown) = .valid shown := rfl

@[simp]
theorem text?_again (shown : Option String) : nullable text (.ofText? shown) = .valid shown :=
  nullable_ofOption nofun fun _ _ => rfl

@[simp]
theorem integer_again (n : Int) : integer (.ofInt n) = .valid n := rfl

@[simp]
theorem flag_again (value : Bool) : flag (.flag value) = .valid value := rfl

@[simp]
theorem channelKind_again (kind : ChannelKind) : channelKind (.ofInt kind.code) = .valid kind := by
  cases kind <;> rfl

@[simp]
theorem directKind_again (kind : DirectKind) : directKind (.ofInt kind.code) = .valid kind := by
  cases kind <;> rfl

@[simp]
theorem entity_object {α : Type} (setting : Setting) (read : Fields → Checked α)
    (fields : Fields) : entity setting read (.object fields) = read fields := rfl

end Again

section Kept

variable {fields : Fields} {name : String}

theorem kept_required {id : Int} (read : required fields name identifier = .valid id)
    (sized : Sized .required (Json.field? fields name)) :
    Kept .required (Json.field? fields name) identifier (.ofId id) id := by
  obtain ⟨value, found, read⟩ := required_ok.mp read
  obtain ⟨again, canonical⟩ := identifier_kept read fun m same =>
    sized value found m (by simp [Holding.parts, same])
  exact ⟨again, found ▸ .required canonical⟩

theorem kept_permissions {bits : Int} (read : optional fields name identifier 0 = .valid bits)
    (sized : Sized .permissions (Json.field? fields name)) :
    Kept .permissions (Json.field? fields name) identifier (.ofId bits) bits := by
  cases optional_ok.mp read with
  | inl given =>
    obtain ⟨value, found, read⟩ := given
    obtain ⟨again, canonical⟩ := identifier_kept read fun m same =>
      sized value found m (by simp [Holding.parts, same])
    exact ⟨again, found ▸ .permissions canonical⟩
  | inr absent =>
    obtain ⟨missing, rfl⟩ := absent
    exact ⟨rfl, missing ▸ .noPermissions⟩

theorem ofId_ne_null (id : Int) : Json.ofId id ≠ .null := nofun

theorem kept_optional {id : Option Int}
    (read : optional fields name (nullable identifier) none = .valid id)
    (sized : Sized .optional (Json.field? fields name)) :
    Kept .optional (Json.field? fields name) (nullable identifier) (.ofId? id) id := by
  cases optional_ok.mp read with
  | inl given =>
    obtain ⟨value, found, read⟩ := given
    cases nullable_ok.mp read with
    | inl null =>
      obtain ⟨rfl, rfl⟩ := null
      exact ⟨rfl, found ▸ .null⟩
    | inr shown =>
      obtain ⟨n, -, rfl, stated⟩ := shown
      obtain ⟨again, canonical⟩ := identifier_kept stated fun m same =>
        sized value found m (by simp [Holding.parts, same])
      exact ⟨nullable_ofOption ofId_ne_null (by simpa using again), found ▸ .optional canonical⟩
  | inr absent =>
    obtain ⟨missing, rfl⟩ := absent
    exact ⟨rfl, missing ▸ .absent⟩

theorem kept_list {ids : List Int} (read : optional fields name (listOf identifier) [] = .valid ids)
    (sized : Sized .list (Json.field? fields name)) :
    Kept .list (Json.field? fields name) (listOf identifier) (.list (ids.map .ofId)) ids := by
  cases optional_ok.mp read with
  | inl given =>
    obtain ⟨value, found, read⟩ := given
    obtain ⟨items, rfl, each⟩ := listOf_ok.mp read
    obtain ⟨again, canonical⟩ := @listOf_kept _ _ identifier .ofId id Canonical _ _ each
      fun item member n stated => identifier_kept stated fun m same =>
        sized _ found m (by simpa [Holding.parts, same] using member)
    exact ⟨by simpa using again, found ▸ .list canonical⟩
  | inr absent =>
    obtain ⟨missing, rfl⟩ := absent
    exact ⟨rfl, missing ▸ .noList⟩

/-! Reading may change times as well; they are read back wherever the form comes from. -/

theorem time_again {source : Source} {now t : DateTime} (clock : now.Valid)
    (read : optional fields name (time source) now = .valid t) (other : Source) :
    time other (.ofTime t) = .valid t := by
  cases optional_ok.mp read with
  | inl given =>
    obtain ⟨value, -, read⟩ := given
    exact time_ofTime (time_valid read) other
  | inr absent =>
    obtain ⟨-, rfl⟩ := absent
    exact time_ofTime clock other

theorem ofTime_ne_null (t : DateTime) : Json.ofTime t ≠ .null := nofun

theorem time?_again {source : Source} {shown : Option DateTime}
    (read : optional fields name (nullable (time source)) none = .valid shown) (other : Source) :
    nullable (time other) (.ofTime? shown) = .valid shown := by
  apply nullable_ofOption ofTime_ne_null
  intro t stated
  cases optional_ok.mp read with
  | inl given =>
    obtain ⟨value, -, read⟩ := given
    cases nullable_ok.mp read with
    | inl null => cases null.2.symm.trans stated
    | inr shown =>
      obtain ⟨_, -, rfl, timed⟩ := shown
      cases stated
      exact time_ofTime (time_valid timed) other
  | inr absent => cases absent.2.trans stated

end Kept

end Guildhall.Form
