import RecordStore.Proofs.Error.Outcome
import RecordStore.Proofs.Settings.Mapping
import RecordStore.Script.Packages
import RecordStore.Settings.Load

/-!
# How loading settings ends

Whatever the packages do, loading ends with settings, with an error of the configuration, or with something else that was
raised. The last is the case exactly when an `Obstruction` is met: the environment file cannot be loaded, the configuration
file is not UTF-8 or ends its reader, a key is no text, or validation ends otherwise than by a report.
-/

namespace RecordStore.Settings
open Mapping

/-! ### Keys -/

variable {κ α : Type}

theorem named?_eq_none_iff (values : Mapping κ α) : named? values = none ↔ ¬values.Named := by
  unfold named? Named keys
  induction values.entries with
  | nil => simp
  | cons entry rest ih =>
    obtain ⟨key, value⟩ := entry
    rw [List.mapM_cons, List.map_cons, List.forall_mem_cons]
    dsimp only
    cases key.name? with
    | none => exact iff_of_true rfl fun both => Bool.false_ne_true both.1
    | some name =>
      rw [and_iff_right (show (some name).isSome from rfl), ← ih]
      generalize (rest.mapM _ : Option (List (Text × α))) = others
      cases others with
      | none => exact iff_of_true rfl rfl
      | some named => exact iff_of_false nofun nofun

variable [DecidableEq κ] {packages : Packages κ α} {sources : Sources κ α}

theorem named_withVariables (environment : Environment) (values : Mapping κ α) :
    (withVariables packages environment values).Named ↔ values.Named := by
  unfold withVariables
  generalize settingVariables = settings
  induction settings generalizing values with
  | nil => rfl
  | cons entry rest ih =>
    obtain ⟨setting, name⟩ := entry
    rw [List.foldl_cons, ih]
    dsimp only
    split
    · exact named_set_name
    · rfl

/-- The values of a file with those of variables and of the caller written over them. -/
def combined (packages : Packages κ α) (known : Environment) (values overrides : Mapping κ α) : Mapping κ α :=
  (withVariables packages known values).update overrides

theorem named_combined {known : Environment} {values overrides : Mapping κ α} :
    (combined packages known values overrides).Named ↔ values.Named ∧ overrides.Named := by
  rw [combined, named_update, named_withVariables]

/-! ### Refusals -/

/-- A refusal that is told as an error of the configuration. -/
def Refusal.IsOfConfiguration (refusal : Refusal) : Prop :=
  ∃ error, refusal.failure = .ofError error ∧ error.code = .configuration

theorem Refusal.raised_or_configuration (refusal : Refusal) :
    (∃ failure, refusal = .raised failure) ∨ refusal.IsOfConfiguration := by
  cases refusal with
  | raised failure => exact .inl ⟨failure, rfl⟩
  | _ => exact .inr ⟨_, rfl, rfl⟩

theorem Refusal.not_configuration_misuse (misuse : Misuse) : ¬(Refusal.raised (.ofMisuse misuse)).IsOfConfiguration := by
  rintro ⟨error, same, -⟩
  cases same

theorem adapterSection_not_raised {path : Text} {object : α} {failure : Failure} :
    adapterSection packages path object ≠ .error (.raised failure) := by
  unfold adapterSection
  repeat' split
  all_goals nofun

/-! ### What is met on the way -/

/-- What in a file ends loading otherwise than as an error of the configuration. -/
inductive Unreadable (packages : Packages κ α) (file : ConfigFile) : Failure → Prop
  | bytes {data : List UInt8} (content : file.content = some data) (undecodable : textOfBytes? data = none)
    (reached : packages.refusedEarly? data = none) : Unreadable packages file (.ofMisuse .notUtf8)
  | reader {data : List UInt8} {text : String} {failure : Failure} (content : file.content = some data)
    (decoded : textOfBytes? data = some text) (fails : packages.readText text = .error (.raised failure)) :
    Unreadable packages file failure

/-- What ends loading otherwise than as an error of the configuration. -/
inductive Obstruction (packages : Packages κ α) (sources : Sources κ α) : Failure → Prop
  | environment {failure : Failure} (unset : knownVariables packages sources = .error failure) :
    Obstruction packages sources failure
  | file {known : Environment} {file : ConfigFile} {failure : Failure} (found : knownVariables packages sources = .ok known)
    (given : sources.file = some file) (unreadable : Unreadable packages file failure) :
    Obstruction packages sources failure
  | key {known : Environment} {values : Option (Mapping κ α)} (found : knownVariables packages sources = .ok known)
    (read : sources.file.mapM (fileValues packages) = .ok values)
    (unnamed : ¬(values.getD .empty).Named ∨ ¬sources.overrides.Named) :
    Obstruction packages sources (.ofMisuse (.notText "key"))
  | validation {known : Environment} {values : Option (Mapping κ α)} {named : List (Text × α)} {failure : Failure}
    (found : knownVariables packages sources = .ok known) (read : sources.file.mapM (fileValues packages) = .ok values)
    (filled : (combined packages known (values.getD .empty) sources.overrides).isEmpty = false)
    (names : named? (combined packages known (values.getD .empty) sources.overrides) = some named)
    (fails : packages.validate named = .error (.raised failure)) : Obstruction packages sources failure

theorem fileValues_raised_iff {file : ConfigFile} {failure : Failure} :
    fileValues packages file = .error (.raised failure) ↔ Unreadable packages file failure := by
  constructor
  · intro refused
    unfold fileValues at refused
    split at refused
    · cases refused
    · rename_i data content
      cases came : fileObject packages file.path data with
      | ok object =>
        rw [came] at refused
        exact absurd refused adapterSection_not_raised
      | error refusal =>
        rw [came] at refused
        cases refused
        unfold fileObject at came
        split at came
        · rename_i text decoded
          split at came
          · cases came
          · cases came
          · rename_i own fails
            cases came
            exact .reader content decoded fails
        · rename_i undecodable
          split at came
          · cases came
          · rename_i reached
            cases came
            exact .bytes content undecodable reached
  · intro unreadable
    unfold fileValues fileObject
    cases unreadable with
    | bytes content undecodable reached =>
      rw [content]
      simp only [undecodable, reached]
      rfl
    | reader content decoded fails =>
      rw [content]
      simp only [decoded, fails]
      rfl

theorem mapM_fileValues_raised_iff {failure : Failure} :
    sources.file.mapM (fileValues packages) = .error (.raised failure) ↔
      ∃ file, sources.file = some file ∧ Unreadable packages file failure := by
  cases sources.file with
  | none => exact iff_of_false nofun nofun
  | some file =>
    have one : (some file).mapM (fileValues packages) = (fileValues packages file).map some := by
      rw [Option.mapM_some]
      rfl
    rw [one]
    constructor
    · intro refused
      refine ⟨file, rfl, fileValues_raised_iff.1 ?_⟩
      cases came : fileValues packages file with
      | ok values =>
        rw [came] at refused
        cases refused
      | error refusal =>
        rw [came] at refused
        rw [show refusal = .raised failure from Except.error.inj refused]
    · rintro ⟨own, ⟨⟩, unreadable⟩
      rw [fileValues_raised_iff.2 unreadable]
      rfl

omit [DecidableEq κ] in
theorem ofMapping_raised_iff {values : Mapping κ α} {failure : Failure} :
    ofMapping packages values = .error (.raised failure) ↔
      (¬values.Named ∧ failure = .ofMisuse (.notText "key")) ∨
        values.isEmpty = false ∧ ∃ named, named? values = some named ∧ packages.validate named = .error (.raised failure) := by
  unfold ofMapping
  cases empty : values.isEmpty with
  | true =>
    have named : values.Named := by
      unfold Named keys
      rw [List.isEmpty_iff.1 empty]
      nofun
    rw [if_pos rfl]
    exact iff_of_false nofun fun either => either.elim (fun own => own.1 named) nofun
  | false =>
    rw [if_neg Bool.false_ne_true, ← named?_eq_none_iff]
    cases names : named? values with
    | none => simp [eq_comm]
    | some named =>
      dsimp only
      cases came : packages.validate named with
      | ok settings => simp [came]
      | error fault => cases fault <;> simp [came]

theorem load_raised_iff {failure : Failure} :
    (load packages sources).1 = .error (.raised failure) ↔ Obstruction packages sources failure := by
  unfold load
  cases found : knownVariables packages sources with
  | error own =>
    constructor
    · rintro ⟨⟩
      exact .environment found
    · intro obstruction
      cases obstruction with
      | environment unset =>
        cases found.symm.trans unset
        rfl
      | file known => cases found.symm.trans known
      | key known => cases found.symm.trans known
      | validation known => cases found.symm.trans known
  | ok known =>
    dsimp only
    cases read : sources.file.mapM (fileValues packages) with
    | error refusal =>
      constructor
      · rintro ⟨⟩
        obtain ⟨file, given, unreadable⟩ := mapM_fileValues_raised_iff.1 read
        exact .file found given unreadable
      · intro obstruction
        cases obstruction with
        | environment unset => cases found.symm.trans unset
        | file _ given unreadable =>
          cases read.symm.trans (mapM_fileValues_raised_iff.2 ⟨_, given, unreadable⟩)
          rfl
        | key _ values => cases read.symm.trans values
        | validation _ values => cases read.symm.trans values
    | ok values =>
      refine ofMapping_raised_iff.trans ?_
      rw [← combined, named_combined, Classical.not_and_iff_not_or_not]
      constructor
      · rintro (⟨unnamed, rfl⟩ | ⟨filled, named, names, fails⟩)
        · exact .key found read unnamed
        · exact .validation found read filled names fails
      · intro obstruction
        cases obstruction with
        | environment unset => cases found.symm.trans unset
        | file _ given unreadable => cases read.symm.trans (mapM_fileValues_raised_iff.2 ⟨_, given, unreadable⟩)
        | key _ again unnamed =>
          cases read.symm.trans again
          exact .inl ⟨unnamed, rfl⟩
        | validation own again filled names fails =>
          cases found.symm.trans own
          cases read.symm.trans again
          exact .inr ⟨filled, _, names, fails⟩

/-- Loading raises what an obstruction is and nothing else beside errors of the configuration. -/
theorem load_ends (packages : Packages κ α) (sources : Sources κ α) :
    (∀ failure, (load packages sources).1 = .error (.raised failure) ↔ Obstruction packages sources failure) ∧
    ((¬∃ failure, Obstruction packages sources failure) → (∃ settings, (load packages sources).1 = .ok settings) ∨
      ∃ refusal, (load packages sources).1 = .error refusal ∧ refusal.IsOfConfiguration) := by
  refine ⟨fun failure => load_raised_iff, fun unobstructed => ?_⟩
  cases ended : (load packages sources).1 with
  | ok settings => exact .inl ⟨settings, rfl⟩
  | error refusal =>
    rcases refusal.raised_or_configuration with ⟨failure, rfl⟩ | told
    · exact absurd ⟨failure, load_raised_iff.1 ended⟩ unobstructed
    · exact .inr ⟨refusal, rfl, told⟩

/-- Sources with nothing but a file. -/
def fromFile (content : List UInt8) : Sources String Value :=
  { file := some ⟨"adapter.yml", some content⟩, overrides := .empty }

theorem ok_of_toOption {ε β : Type} {result : Except ε β} {b : β} (given : result.toOption = some b) : result = .ok b := by
  cases result with
  | ok c => exact congrArg Except.ok (Option.some.inj given)
  | error e => cases given

theorem section_loads :
    let packages := Script.packages none none
    let fine := fromFile "adapter:\n  url: u\n".toUTF8.toList
    let obstructed := fromFile "url: u\n\xff".toUTF8.toList.dropLast
    ((¬∃ failure, Obstruction packages fine failure) ∧
      ∃ settings, (load packages fine).1 = .ok settings ∧ settings.url = some "u") ∧
    Obstruction packages obstructed (.ofMisuse .notUtf8) ∧
      (load packages obstructed).1 = .error (.raised (.ofMisuse .notUtf8)) := by
  intro packages fine obstructed
  have url : (load packages fine).1.toOption.bind Settings.url = some "u" := by decide +kernel
  obtain ⟨settings, loaded, given⟩ := Option.bind_eq_some_iff.1 url
  have own : (load packages fine).1 = .ok settings := ok_of_toOption loaded
  have unobstructed : ¬∃ failure, Obstruction packages fine failure := fun ⟨failure, obstruction⟩ => by
    cases own.symm.trans (((load_ends packages fine).1 failure).2 obstruction)
  have undecodable : Obstruction packages obstructed (.ofMisuse .notUtf8) :=
    .file rfl rfl (.bytes rfl (by decide +kernel) rfl)
  refine ⟨⟨unobstructed, ?_⟩, undecodable, ((load_ends packages obstructed).1 _).2 undecodable⟩
  rcases (load_ends packages fine).2 unobstructed with ⟨other, ends⟩ | ⟨refusal, refused, -⟩
  · cases own.symm.trans ends
    exact ⟨settings, ends, given⟩
  · cases own.symm.trans refused

/-- A byte that is no UTF-8, and a key that is a number: neither ends as an error of the configuration. -/
theorem files_end_as_misuses :
    let packages := Script.packages none none
    (load packages (fromFile [0xff])).1 = .error (.raised (.ofMisuse .notUtf8)) ∧
    (load packages (fromFile "1: a\n".toUTF8.toList)).1 = .error (.raised (.ofMisuse (.notText "key"))) ∧
    ∀ misuse, ¬(Refusal.raised (.ofMisuse misuse)).IsOfConfiguration := by
  intro packages
  refine ⟨load_raised_iff.2 (.file rfl rfl (.bytes rfl (by decide +kernel) rfl)), ?_, Refusal.not_configuration_misuse⟩
  generalize sample : fromFile "1: a\n".toUTF8.toList = sources
  have filed : (sources.file.mapM (fileValues packages)).toOption.any
      fun values => (values.getD .empty).keys.any fun key => key.name?.isNone := by
    subst sample
    decide +kernel
  obtain ⟨values, read, unnamed⟩ := (Option.any_eq_true _ _).1 filed
  have numbered : ¬(values.getD .empty).Named := by
    obtain ⟨key, member, missing⟩ := List.any_eq_true.1 unnamed
    intro named
    have given := named key member
    rw [Option.isNone_iff_eq_none.1 missing] at given
    cases given
  have known : knownVariables packages sources = .ok [] := by
    subst sample
    rfl
  exact load_raised_iff.2 (.key known (ok_of_toOption read) (.inl numbered))

end RecordStore.Settings
