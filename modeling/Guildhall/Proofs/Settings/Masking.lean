import Guildhall.Settings.Reader
import Mathlib.Data.List.Basic

/-!
Which of its sources the settings depend on. A key that the environment gives is not read from the
file, whatever the file says there; an empty variable counts as none; and of the files that are
looked for only the first that exists is read.
-/

namespace Guildhall.Settings

open Yaml (Value)

def isGiven (env : Environment) (key : SettingKey) : Bool :=
  (env key.name).any fun text => text ≠ ""

/-- The field of a map is for the key, whose name may be written in any case of its letters. -/
def isFor (key : SettingKey) (field : Value × Value) : Bool :=
  field.1.isWritable && Text.capitals field.1.bare = key.name

def isMasked (env : Environment) (field : Value × Value) : Bool :=
  SettingKey.all.any fun key => isGiven env key && isFor key field

/-- The fields of the map that a document is. An empty document has none, and a value of another
kind is no map. -/
def fieldsOf (document : Value) : Option (List (Value × Value)) :=
  if document.isEmpty then some []
  else
    match document with
    | .map fields => some fields
    | _ => none

/-- What a document says beside the fields that are masked. -/
def unmasked (env : Environment) (document : Value) : Option (List (Value × Value)) :=
  (fieldsOf document).map (List.filter fun field => !isMasked env field)

section Scalars

def sameScalar : Value → Value → Bool
  | .text said, .text other => said = other
  | .real x, .real y => x = y
  | _, _ => false

def sameScalars : List (Value × Value) → List (Value × Value) → Bool
  | [], [] => true
  | field :: rest, other :: others =>
    sameScalar field.1 other.1 && sameScalar field.2 other.2 && sameScalars rest others
  | _, _ => false

def readsScalars (text : String) (fields : List (Value × Value)) : Bool :=
  match Yaml.readDocument text with
  | .ok (.map found) => sameScalars found fields
  | _ => false

theorem eq_of_sameScalar {value other : Value} (same : sameScalar value other = true) :
    value = other := by
  unfold sameScalar at same
  split at same
  · rw [of_decide_eq_true same]
  · rw [of_decide_eq_true same]
  · cases same

theorem eq_of_sameScalars {fields others : List (Value × Value)}
    (same : sameScalars fields others = true) : fields = others := by
  induction fields generalizing others with
  | nil =>
      cases others with
      | nil => rfl
      | cons _ _ => cases same
  | cons field rest ih =>
      cases others with
      | nil => cases same
      | cons other others =>
          simp only [sameScalars, Bool.and_eq_true] at same
          obtain ⟨⟨key, value⟩, later⟩ := same
          rw [ih later, Prod.ext (eq_of_sameScalar key) (eq_of_sameScalar value)]

theorem reads_of_scalars {text : String} {fields : List (Value × Value)}
    (test : readsScalars text fields = true) : Yaml.readDocument text = .ok (.map fields) := by
  unfold readsScalars at test
  split at test
  · rename_i found read
    rw [read, eq_of_sameScalars test]
  · cases test

end Scalars

section Environment

variable {env : Environment} {name : String}

theorem given?_eq (env : Environment) (name : String) :
    given? env name = (env name).filter fun text => text ≠ "" := by
  unfold given?
  cases env name with
  | none => rfl
  | some text =>
      by_cases empty : text = ""
      · subst empty
        rfl
      · simp [Option.filter, empty]

theorem given?_some {key : SettingKey} (given : isGiven env key = true) :
    ∃ text, given? env key.name = some text := by
  rw [isGiven, Option.any_eq_true] at given
  obtain ⟨text, found, filled⟩ := given
  exact ⟨text, by rw [given?_eq, found, Option.filter_some, if_pos filled]⟩

theorem given?_none {key : SettingKey} (missing : isGiven env key = false) :
    given? env key.name = none := by
  rw [given?_eq, Option.filter_eq_none_iff]
  intro text found
  simpa [isGiven, found] using missing

theorem candidates_none (env : Environment) : candidates env none =
    (((env fileVariable).filter fun asked => asked ≠ "").map plainPath).toList ++ usualFiles := by
  have usual : usualFiles.map plainPath = usualFiles := by decide +kernel
  simp only [candidates, given?_eq, List.map_append, usual, Option.toList_map]

theorem load_congr {other : Environment} (same : given? env = given? other)
    (read : DocumentReader) (files : Files) (path : Option String) :
    loadBy read env files path = loadBy read other files path := by
  have places : candidates env path = candidates other path := by
    simp only [candidates, same]
  have values : chosen? env = chosen? other := by
    funext entries key
    simp only [chosen?, same]
  rw [loadBy, loadBy, places, values]

end Environment

section Fields

variable {fields : List (Value × Value)}

def entry (field : Value × Value) : String × Value := (Text.capitals field.1.bare, field.2)

theorem mapM_entryOf (fields : List (Value × Value)) : fields.mapM entryOf =
    if fields.all fun field => field.1.isWritable then .ok (fields.map entry)
    else .error .unwritable := by
  induction fields with
  | nil => rfl
  | cons field rest ih =>
      rw [List.mapM_cons, ih, entryOf, List.all_cons]
      cases field.1.isWritable <;> cases rest.all fun field => field.1.isWritable <;> rfl

theorem entry?_own (entries : Entries) (name : String) :
    entry? entries name = entry? (entries.filter fun entry => entry.1 = name) name := by
  unfold entry?
  rw [← List.filter_reverse, List.find?_filter]
  simp only [decide_eq_true_eq, and_self]

theorem filter_entry (writable : fields.all (fun field => field.1.isWritable) = true)
    (key : SettingKey) :
    (fields.map entry).filter (fun entry => entry.1 = key.name) =
      (fields.filter (isFor key)).map entry := by
  rw [List.filter_map]
  refine congrArg _ (List.filter_congr fun field member => ?_)
  change decide (Text.capitals field.1.bare = key.name) = isFor key field
  rw [isFor, List.all_eq_true.mp writable field member, Bool.true_and]

end Fields

section Files

variable {env : Environment} {fields others : List (Value × Value)} {document : Value}

theorem entriesOf_fields (found : fieldsOf document = some fields) (place : String) :
    entriesOf place document = fields.mapM entryOf := by
  unfold fieldsOf at found
  unfold entriesOf
  cases empty : document.isEmpty with
  | true =>
      rw [empty, if_pos rfl] at found
      obtain rfl := Option.some.inj found
      rfl
  | false =>
      rw [empty, if_neg Bool.false_ne_true] at found
      rw [if_neg Bool.false_ne_true]
      cases document with
      | map all =>
          obtain rfl := Option.some.inj found
          rfl
      | _ => cases found

theorem entriesOf_none (missing : fieldsOf document = none) (place : String) :
    entriesOf place document = .error (.notMap place) := by
  unfold fieldsOf at missing
  unfold entriesOf
  cases empty : document.isEmpty with
  | true =>
      rw [empty, if_pos rfl] at missing
      cases missing
  | false =>
      rw [if_neg Bool.false_ne_true]
      cases document with
      | map all =>
          rw [empty, if_neg Bool.false_ne_true] at missing
          cases missing
      | _ => rfl

theorem isMasked_of_isFor {key : SettingKey} {field : Value × Value}
    (own : isFor key field = true) : isMasked env field = isGiven env key := by
  have among : key ∈ SettingKey.all := by cases key <;> decide
  cases given : isGiven env key with
  | true => exact List.any_eq_true.mpr ⟨key, among, by rw [given, own]; rfl⟩
  | false =>
      refine List.any_eq_false.mpr fun other _ masked => ?_
      simp only [isFor, Bool.and_eq_true, decide_eq_true_eq] at own masked
      have same : key.name = other.name := own.2.symm.trans masked.2.2
      rw [isGiven, same] at given
      exact Bool.false_ne_true (given.symm.trans masked.1)

theorem filter_unmasked {key : SettingKey} (ungiven : isGiven env key = false)
    (fields : List (Value × Value)) :
    (fields.filter fun field => !isMasked env field).filter (isFor key) =
      fields.filter (isFor key) := by
  rw [List.filter_filter]
  refine List.filter_congr fun field _ => ?_
  cases own : isFor key field with
  | false => rfl
  | true => rw [isMasked_of_isFor own, ungiven]; rfl

/-- What is chosen for a key depends on the fields that are not masked. -/
theorem chosen?_unmasked (same : fields.filter (fun field => !isMasked env field) =
      others.filter fun field => !isMasked env field)
    (writable : fields.all (fun field => field.1.isWritable) = true)
    (otherWritable : others.all (fun field => field.1.isWritable) = true) :
    chosen? env (fields.map entry) = chosen? env (others.map entry) := by
  funext key
  by_cases given : isGiven env key = true
  · obtain ⟨text, found⟩ := given?_some given
    rw [chosen?, chosen?, found]
  · have ungiven := Bool.of_not_eq_true given
    have own : fields.filter (isFor key) = others.filter (isFor key) := by
      rw [← filter_unmasked ungiven fields, same, filter_unmasked ungiven]
    simp only [chosen?, given?_none ungiven]
    rw [entry?_own, filter_entry writable, own, ← filter_entry otherWritable, ← entry?_own]

/-- The keys of masked fields are texts that can be written, so that none of them is at fault. -/
theorem writable_unmasked (env : Environment) (fields : List (Value × Value)) :
    (fields.filter fun field => !isMasked env field).all (fun field => field.1.isWritable) =
      fields.all fun field => field.1.isWritable := by
  have masked_writable : ∀ field : Value × Value, isMasked env field = true →
      field.1.isWritable = true := by
    intro field masked
    obtain ⟨key, -, both⟩ := List.any_eq_true.mp masked
    simp only [isFor, Bool.and_eq_true] at both
    exact both.2.1
  rw [List.all_filter]
  congr 1
  funext field
  cases masked : isMasked env field with
  | false => simp
  | true => simp [masked_writable field masked]

def ofDocument (env : Environment) (place : String) (document : Value) :
    Except SettingFault Settings :=
  entriesOf place document >>= fun entries => ofChosen (chosen? env entries)

theorem ofDocument_fields (found : fieldsOf document = some fields) (place : String) :
    ofDocument env place document = if fields.all fun field => field.1.isWritable then
      ofChosen (chosen? env (fields.map entry)) else .error .unwritable := by
  rw [ofDocument, entriesOf_fields found, mapM_entryOf]
  cases fields.all fun field => field.1.isWritable <;> rfl

theorem ofDocument_unmasked {other : Value} (same : unmasked env document = unmasked env other)
    (place : String) : ofDocument env place document = ofDocument env place other := by
  unfold unmasked at same
  cases found : fieldsOf document with
  | none =>
      rw [found] at same
      rw [ofDocument, ofDocument, entriesOf_none found,
        entriesOf_none (Option.map_eq_none_iff.mp same.symm)]
  | some fields =>
      rw [found] at same
      obtain ⟨others, also, filtered⟩ := Option.map_eq_some_iff.mp same.symm
      have writable := writable_unmasked env fields
      rw [← filtered, writable_unmasked] at writable
      rw [ofDocument_fields found, ofDocument_fields also, ← writable]
      cases all : others.all fun field => field.1.isWritable with
      | false => rfl
      | true => rw [chosen?_unmasked filtered.symm (by rw [← writable, all]) all]

section Source

variable {read : DocumentReader} {files : Files} {path : Option String} {place text : String}

theorem fileEntries_source {paths : List String}
    (source : source? files paths = .ok (some (place, text))) :
    fileEntries read files paths = entriesIn read place text := by
  rw [fileEntries, source]
  rfl

theorem load_document (source : source? files (candidates env path) = .ok (some (place, text)))
    (opened : read text = .ok document) :
    loadBy read env files path = ofDocument env place document := by
  rw [loadBy, fileEntries_source source, entriesIn, opened]
  rfl

theorem load_unread {fault : Yaml.Fault}
    (source : source? files (candidates env path) = .ok (some (place, text)))
    (unread : read text = .error fault) :
    loadBy read env files path = .error (.document fault) := by
  rw [loadBy, fileEntries_source source, entriesIn, unread]
  rfl

end Source

theorem source?_first {files others : Files} {front rest : List String}
    (skipped : ∀ place ∈ front, files place = .absent ∧ others place = .absent)
    (first : ∀ place ∈ rest.head?, files place ≠ .absent ∧ others place = files place) :
    source? files (front ++ rest) = source? others (front ++ rest) := by
  induction front with
  | nil =>
      cases rest with
      | nil => rfl
      | cons place rest =>
          obtain ⟨present, same⟩ := first place rfl
          rw [List.nil_append, source?, source?, same]
          cases found : files place with
          | absent => exact absurd found present
          | refused reason => rfl
          | file text => rfl
  | cons place front ih =>
      obtain ⟨missing, more⟩ := List.forall_mem_cons.mp skipped
      rw [List.cons_append, source?, source?, missing.1, missing.2]
      exact ih more

end Files

/-- What the settings, or the fault in their place, depend on. A text that cannot be read is a fault
also where all that is wrong with it is masked. -/
theorem load_depends_on_unmasked (read : DocumentReader) (env : Environment) (files others : Files)
    (path : Option String) :
    (∀ place text other,
      source? files (candidates env path) = .ok (some (place, text)) →
      source? others (candidates env path) = .ok (some (place, other)) →
      (read text).map (unmasked env) = (read other).map (unmasked env) →
      loadBy read env files path = loadBy read env others path) ∧
    (∀ place text fault, source? files (candidates env path) = .ok (some (place, text)) →
      read text = .error fault → loadBy read env files path = .error (.document fault)) ∧
    (∀ emptied : String → Bool,
      loadBy read (fun name => if emptied name then some "" else env name) files path =
        loadBy read (fun name => if emptied name then none else env name) files path) ∧
    candidates env path = (match path with
      | some asked => [plainPath asked]
      | none => (((env "RETROCAST_CONFIG").filter fun asked => asked ≠ "").map plainPath).toList ++
        ["retrocast.yaml", "/etc/retrocast/config.yaml"]) ∧
    (∀ front rest, candidates env path = front ++ rest →
      (∀ place ∈ front, files place = .absent ∧ others place = .absent) →
      (∀ place ∈ rest.head?, files place ≠ .absent ∧ others place = files place) →
      loadBy read env files path = loadBy read env others path) := by
  refine ⟨?_, fun place text fault source unread => ?_, fun emptied => ?_, ?_, ?_⟩
  · intro place text other source otherSource same
    -- Faults have no fields to be masked, so two faults must be the same.
    cases opened : read text with
    | error fault =>
        cases also : read other with
        | error other =>
            rw [opened, also] at same
            rw [load_unread source opened, load_unread otherSource also, Except.error.inj same]
        | ok document =>
            rw [opened, also] at same
            cases same
    | ok document =>
        cases also : read other with
        | error other =>
            rw [opened, also] at same
            cases same
        | ok otherDocument =>
            rw [opened, also] at same
            rw [load_document source opened, load_document otherSource also]
            exact ofDocument_unmasked (Except.ok.inj same) place
  · exact load_unread source unread
  · refine load_congr (funext fun name => ?_) read files path
    rw [given?_eq, given?_eq]
    cases emptied name <;> rfl
  · cases path with
    | some asked => rfl
    | none => exact candidates_none env
  · intro front rest split skipped first
    rw [loadBy, loadBy, fileEntries, fileEntries, split, source?_first skipped first]

theorem infinite_pool_unseen :
    let env : Environment := fun name =>
      if name = "DATABASE_URL" then some "sqlite://"
      else if name = "DB_POOL_SIZE" then some "7"
      else if name = "RETROCAST_CONFIG" then some "./absent.yaml"
      else none
    let text := "Db_Pool_Size: .inf\nlog_level: debug\n"
    let plain := "log_level: debug\n"
    let files : Files := fun place => if place = "retrocast.yaml" then .file text else .absent
    let others : Files := fun place => if place = "retrocast.yaml" then .file plain else .absent
    let more : Files := fun place =>
      if place = "/etc/retrocast/config.yaml" then .file "- 1" else files place
    (source? files (candidates env none) = .ok (some ("retrocast.yaml", text)) ∧
      source? others (candidates env none) = .ok (some ("retrocast.yaml", plain)) ∧
      (Yaml.readDocument text).map (unmasked env) = (Yaml.readDocument plain).map (unmasked env) ∧
      load env files none = load env others none) ∧
    (candidates env none =
        ["absent.yaml"] ++ ["retrocast.yaml", "/etc/retrocast/config.yaml"] ∧
      (∀ place ∈ ["absent.yaml"], files place = .absent ∧ more place = .absent) ∧
      files "retrocast.yaml" ≠ .absent ∧ more "retrocast.yaml" = files "retrocast.yaml" ∧
      load env files none = load env more none) := by
  intro env text plain files others more
  let level : Value × Value := (.text "log_level", .text "debug")
  let size : Value × Value := (.text "Db_Pool_Size", .real (.infinite false))
  have source : source? files (candidates env none) = .ok (some ("retrocast.yaml", text)) := by
    decide +kernel
  have otherSource :
      source? others (candidates env none) = .ok (some ("retrocast.yaml", plain)) := by
    decide +kernel
  have same : (Yaml.readDocument text).map (unmasked env) =
      (Yaml.readDocument plain).map (unmasked env) := by
    have read : Yaml.readDocument text = .ok (.map [size, level]) :=
      reads_of_scalars (by decide +kernel)
    have otherRead : Yaml.readDocument plain = .ok (.map [level]) :=
      reads_of_scalars (by decide +kernel)
    have masked : isMasked env size = true := by decide +kernel
    have filtered : [size, level].filter (fun field => !isMasked env field) =
        [level].filter fun field => !isMasked env field := by
      rw [List.filter_cons_of_neg (by rw [masked]; decide)]
    rw [read, otherRead]
    exact congrArg (fun fields => Except.ok (some fields)) filtered
  have split : candidates env none =
      ["absent.yaml"] ++ ["retrocast.yaml", "/etc/retrocast/config.yaml"] := by decide +kernel
  have skipped : ∀ place ∈ ["absent.yaml"], files place = .absent ∧ more place = .absent := by
    decide +kernel
  have first :
      files "retrocast.yaml" ≠ .absent ∧ more "retrocast.yaml" = files "retrocast.yaml" := by
    decide +kernel
  refine ⟨⟨source, otherSource, same, ?_⟩, split, skipped, first.1, first.2, ?_⟩
  · exact (load_depends_on_unmasked Yaml.readDocument env files others none).1 _ _ _ source
      otherSource same
  · refine (load_depends_on_unmasked Yaml.readDocument env files more none).2.2.2.2 _ _ split
      skipped ?_
    intro place head
    obtain rfl := Option.some.inj head
    exact first

theorem masked_date_seen :
    let env : Environment := fun name =>
      if name = "DATABASE_URL" then some "sqlite://"
      else if name = "DB_POOL_SIZE" then some "7"
      else none
    let size (text : String) : Files := fun place =>
      if place = "retrocast.yaml" then .file ("DB_POOL_SIZE: " ++ text) else .absent
    isGiven env .poolSize = true ∧
      load env (size "2026-02-28") none = .ok { Settings.ofUrl "sqlite://" with poolSize := 7 } ∧
      load env (size "2026-02-30") none = .error (.document (.text (.calendar .day))) ∧
      load env (size "2026-02-30") none ≠ load env (size "2026-02-28") none := by
  decide +kernel

end Guildhall.Settings
