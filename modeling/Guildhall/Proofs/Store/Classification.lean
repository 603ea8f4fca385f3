import Guildhall.Proofs.Text.Capital
import Guildhall.Store.Classification

/-!
What an integrity fault is taken for. A code tells unique keys from all other faults wherever the
driver puts it, but only in the first of the two places does it tell references from the rest.
Without a code words decide, which are looked for in the name of the constraint too.
-/

namespace Guildhall

namespace DriverReport

def fault (report : DriverReport) : StoreError := DatabaseFault.classify (.integrity (some report))

def coded (code text : String) (name : Option String) : DriverReport :=
  ⟨text, some code, none, name⟩

def stated (code text : String) (name : Option String) : DriverReport :=
  ⟨text, none, some code, name⟩

def worded (text : String) : DriverReport := ⟨text, none, none, none⟩

section Codes

variable {code : String} (given : code ≠ "") (text : String) (name : Option String)

theorem present?_some {value : String} (nonempty : value ≠ "") :
    present? (some value) = some value := by
  unfold present?
  split
  · rename_i same
    exact absurd (Option.some.inj same) nonempty
  · rfl

include given

theorem isUnique_coded : (coded code text name).isUnique = decide (code = uniqueCode) := by
  simp only [isUnique, coded, present?_some given, Option.some_or]

theorem isUnique_stated : (stated code text name).isUnique = decide (code = uniqueCode) := by
  simp only [isUnique, stated, present?_some given]
  rfl

theorem fault_coded : (coded code text name).fault =
    if code = uniqueCode then
      .conflict (coded code text name).detail (coded code text name).constraint?
    else if code ∈ referenceCodes then .invalidReference (coded code text name).detail
    else .other text := by
  have first : present? (coded code text name).code = some code := present?_some given
  simp only [fault, DatabaseFault.classify, Option.getD_some, isUnique_coded given, first,
    List.contains_iff_mem, decide_eq_true_eq]
  rfl

theorem fault_stated : (stated code text name).fault =
    if code = uniqueCode then
      .conflict (coded code text name).detail (coded code text name).constraint?
    else .invalidReference (coded code text name).detail := by
  simp only [fault, DatabaseFault.classify, Option.getD_some, isUnique_stated given,
    decide_eq_true_eq]
  rfl

end Codes

section Words

def uniqueWords : List String := ["UNIQUE CONSTRAINT", "PRIMARY KEY", "DUPLICATE"]

/-- The name has a word of a fault of unique keys in it, in small or capital letters. -/
def Misleading (name : String) : Prop :=
  ∃ word ∈ uniqueWords, word.toList <:+: (Text.capitals name).toList

instance (name : String) : Decidable (Misleading name) :=
  inferInstanceAs (Decidable (∃ word ∈ uniqueWords, _))

def trimmed (name : String) : String := String.ofList (Text.strip Text.isBlank name.toList)

inductive Kind where
  | unique
  | notNull
  | check
  deriving DecidableEq

def Kind.text : Kind → String
  | unique => "UNIQUE"
  | notNull => "NOT NULL"
  | check => "CHECK"

def Kind.wording (kind : Kind) (name : String) : String :=
  kind.text ++ " constraint failed: " ++ name

theorem isUnique_worded (text : String) :
    (worded text).isUnique = true ↔ Misleading text := by
  have wordless :
      (worded text).isUnique = uniqueWords.any (Text.contains (Text.capitals text)) := by
    simp only [isUnique, worded, uniqueWords, List.any_cons, List.any_nil, Bool.or_false,
      Bool.or_assoc]
    rfl
  rw [wordless, List.any_eq_true]
  simp only [Text.contains_iff, Misleading]

variable (name : String)

theorem misleading_unique : Misleading (Kind.unique.wording name) := by
  refine ⟨"UNIQUE CONSTRAINT", List.mem_cons_self, ?_⟩
  rw [Kind.wording, Text.toList_capitals_append]
  have front : "UNIQUE CONSTRAINT".toList <:+:
      (Text.capitals (Kind.unique.text ++ " constraint failed: ")).toList := by decide
  exact List.infix_append_of_infix_left front

theorem words_parted : ∀ word ∈ uniqueWords, ':' ∉ word.toList ∧ word.toList.head? ≠ some ' ' := by
  decide

/-- The colon in a wording parts the kind from the name, and no word has one. -/
theorem misleading_wording {kind : Kind} (plain : kind ≠ .unique) :
    Misleading (kind.wording name) ↔ Misleading name := by
  have front : (Text.capitals (kind.text ++ " constraint failed: ")).toList =
      (kind.text ++ " CONSTRAINT FAILED").toList ++ [':', ' '] := by
    cases kind <;> decide
  have harmless : ∀ word ∈ uniqueWords,
      ¬word.toList <:+: (kind.text ++ " CONSTRAINT FAILED").toList := by
    cases kind with
    | unique => exact absurd rfl plain
    | notNull => decide
    | check => decide
  refine exists_congr fun word => and_congr_right fun listed => ?_
  obtain ⟨colon, blank⟩ := words_parted word listed
  rw [Kind.wording, Text.toList_capitals_append, front, List.append_assoc, List.cons_append,
    List.cons_append, List.nil_append, Text.infix_parted colon, Text.infix_cons_of_head blank]
  exact or_iff_right (harmless word listed)

theorem constraint_wording (kind : Kind) :
    (worded (kind.wording name)).constraint? = some (trimmed name) := by
  have behind : afterFirst failedMark.toList (kind.wording name).toList =
      some (' ' :: name.toList) := by
    simp only [Kind.wording, String.toList_append]
    cases kind <;> rfl
  have text : (worded (kind.wording name)).constraint? =
      (afterFirst failedMark.toList (kind.wording name).toList).map
        fun rest => String.ofList (Text.strip Text.isBlank rest) := rfl
  rw [text, behind]
  rfl

def Kind.shown (kind : Kind) (name : String) : String :=
  if trimmed name = "" then kind.wording name else trimmed name

theorem detail_wording (kind : Kind) : (worded (kind.wording name)).detail = kind.shown name := by
  rw [detail, constraint_wording, Kind.shown]
  split
  · rename_i blank
    rw [blank]
    rfl
  · rename_i given
    rw [present?_some given, Option.getD_some]

theorem fault_worded (text : String) : (worded text).fault =
    if Misleading text then .conflict (worded text).detail (worded text).constraint?
    else .invalidReference (worded text).detail := by
  have codeless : present? (worded text).code = none := rfl
  simp only [fault, DatabaseFault.classify, Option.getD_some, isUnique_worded, codeless]

theorem fault_wording (kind : Kind) : (worded (kind.wording name)).fault =
    if kind = .unique ∨ Misleading name then .conflict (kind.shown name) (some (trimmed name))
    else .invalidReference (kind.shown name) := by
  rw [fault_worded, detail_wording, constraint_wording]
  by_cases unique : kind = .unique
  · rw [unique, if_pos (misleading_unique name), if_pos (Or.inl rfl)]
  · simp only [misleading_wording name unique, unique, false_or]

end Words

end DriverReport

open DriverReport

/-- A code that the driver gives in the first place decides alone, whatever the text says. In the
second place it decides in the same way exactly if it is one of the four that are known: any other
code counts as a fault of a reference there. -/
theorem stated_alike_iff {code : String} (given : code ≠ "") (text : String)
    (name : Option String) :
    let first := coded code text name
    let second := stated code text name
    ((∃ detail constraint, first.fault = .conflict detail constraint) ↔ code = uniqueCode) ∧
    ((∃ detail, first.fault = .invalidReference detail) ↔ code ∈ referenceCodes) ∧
    (first.fault = .other text ↔ code ≠ uniqueCode ∧ code ∉ referenceCodes) ∧
    (second.fault = first.fault ↔ code = uniqueCode ∨ code ∈ referenceCodes) ∧
    (code ≠ uniqueCode → second.fault = .invalidReference first.detail) := by
  intro first second
  have apart : uniqueCode ∉ referenceCodes := by decide
  simp only [first, second, fault_coded given, fault_stated given]
  by_cases unique : code = uniqueCode
  · subst unique
    simp [apart]
  · by_cases known : code ∈ referenceCodes <;> simp [unique, known]

theorem missing_row_alike :
    "23503" ≠ "" ∧ (coded "23503" "duplicate row" (some "members_guild_id_fkey")).fault =
      .invalidReference "members_guild_id_fkey" ∧
    (stated "23503" "duplicate row" (some "members_guild_id_fkey")).fault =
      (coded "23503" "duplicate row" (some "members_guild_id_fkey")).fault := by
  have given : "23503" ≠ "" := by decide
  obtain ⟨-, -, -, alike, -⟩ :=
    stated_alike_iff given "duplicate row" (some "members_guild_id_fkey")
  exact ⟨given, by decide, alike.mpr (Or.inr (by decide))⟩

/-- Of rows that exclude each other the driver reports neither a key nor a reference, and what is
made of it depends on the place of the code. -/
theorem exclusion_apart :
    (coded "23P01" "rows overlap" none).fault = .other "rows overlap" ∧
    (stated "23P01" "rows overlap" none).fault = .invalidReference "rows overlap" := by
  decide

/-- Without a code a fault of a unique key is always taken for one, and a fault of a reference
never. A missing or refused value is taken for what it is exactly if the name of its constraint has
no word of a unique key in it. -/
theorem wording_decides (name : String) :
    (worded (Kind.unique.wording name)).fault =
      .conflict (Kind.unique.shown name) (some (trimmed name)) ∧
    (∀ kind ≠ Kind.unique, (worded (kind.wording name)).fault =
      if Misleading name then .conflict (kind.shown name) (some (trimmed name))
      else .invalidReference (kind.shown name)) ∧
    (worded "FOREIGN KEY constraint failed").fault =
      .invalidReference "FOREIGN KEY constraint failed" := by
  refine ⟨?_, fun kind plain => ?_, by decide⟩
  · rw [fault_wording, if_pos (Or.inl rfl)]
  · simp only [fault_wording, plain, false_or]

theorem wordings_told_apart :
    (worded (Kind.unique.wording "users.username ")).fault =
      .conflict "users.username" (some "users.username") ∧
    Kind.check ≠ .unique ∧ ¬Misleading "positive_uses" ∧
    (worded (Kind.check.wording "positive_uses")).fault = .invalidReference "positive_uses" := by
  have harmless : ¬Misleading "positive_uses" := by decide
  obtain ⟨taken, -, -⟩ := wording_decides "users.username "
  obtain ⟨-, others, -⟩ := wording_decides "positive_uses"
  refine ⟨taken.trans (by decide), by decide, harmless, ?_⟩
  rw [others .check (by decide), if_neg harmless]
  decide

/-- A value that is required is missing, in a column with a harmless name and with a misleading
one. -/
theorem missing_value_mistaken :
    (worded "NOT NULL constraint failed: users.username").fault =
      .invalidReference "users.username" ∧
    (worded "NOT NULL constraint failed: users.duplicate_of").fault =
      .conflict "users.duplicate_of" (some "users.duplicate_of") := by
  decide

end Guildhall
