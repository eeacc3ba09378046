import RecordStore.Proofs.Value.Access
import RecordStore.Store.Diagnosis

/-!
# What a failure of the driver is raised as

A failure that the driver reports is raised as a store error that carries the first state code found on it, and that code
alone decides whether a column is missing.
-/

namespace RecordStore

/-- The first text that is not empty among marks in their order. -/
def firstCode : List (Option Value) → Option Text
  | [] => none
  | some (.text code) :: rest => if code = "" then firstCode rest else some code
  | _ :: rest => firstCode rest

theorem firstCode_cons (mark : Option Value) (rest : List (Option Value)) :
    firstCode (mark :: rest) = (Failure.codeOf? mark).or (firstCode rest) := by
  cases mark with
  | none => rfl
  | some v =>
    cases v with
    | text code =>
      show (if code = "" then firstCode rest else some code) = ((some code).filter (!·.isEmpty)).or (firstCode rest)
      by_cases empty : code = ""
      · subst empty
        rfl
      · have filled : code.isEmpty = false := Bool.eq_false_iff.2 fun none => empty (Text.isEmpty_iff.1 none)
        rw [if_neg empty, Option.filter_some_pos (by rw [filled]; rfl)]
        rfl
    | _ => rfl

namespace Failure

/-- The state code that a failure is marked with; that of a store error is its own. -/
def sqlstateMark (failure : Failure) : Option Value :=
  match failure.error?.bind AdapterError.sqlstate? with
  | some code => some (.text code)
  | none => failure.marks.sqlstate

/-- Where a state code is looked for: on the failure, then on the one that it wraps, then on the one that this came from. -/
def codeMarks (failure : Failure) : List (Option Value) :=
  [failure.sqlstateMark, failure.marks.pgcode] ++
    match failure.wrapped with
    | none => []
    | some wrapped => [wrapped.sqlstateMark, wrapped.marks.pgcode] ++
      match wrapped.cause with
      | none => []
      | some cause => [cause.sqlstateMark, cause.marks.pgcode]

theorem ownSqlstate?_eq (failure : Failure) :
    failure.ownSqlstate? = (codeOf? failure.sqlstateMark).or (codeOf? failure.marks.pgcode) := rfl

theorem firstCode_own (failure : Failure) (rest : List (Option Value)) :
    firstCode (failure.sqlstateMark :: failure.marks.pgcode :: rest) = failure.ownSqlstate?.or (firstCode rest) := by
  rw [firstCode_cons, firstCode_cons, ownSqlstate?_eq, Option.or_assoc]

theorem codeMarks_eq (failure : Failure) :
    failure.codeMarks = failure.codeCarriers.flatMap fun carrier => [carrier.sqlstateMark, carrier.marks.pgcode] := by
  unfold codeMarks codeCarriers
  cases failure.wrapped with
  | none => rfl
  | some wrapped => cases cause : wrapped.cause <;> simp [cause]

theorem sqlstate?_eq_firstCode (failure : Failure) : failure.sqlstate? = firstCode failure.codeMarks := by
  rw [codeMarks_eq, sqlstate?]
  induction failure.codeCarriers with
  | nil => rfl
  | cons carrier rest ih =>
    rw [List.findSome?_cons, List.flatMap_cons, List.cons_append, List.cons_append, List.nil_append, firstCode_own, ← ih]
    cases carrier.ownSqlstate? <;> rfl

/-! ### What is raised -/

/-- A failure as a driver reports it: none of the adapter's own errors, with no detail, a text or a list of texts. -/
structure IsReported (failure : Failure) : Prop where
  foreign : failure.error? = none
  detail : ∀ detail ∈ failure.marks.detail, (∃ line, detail = .text line) ∨ ∃ lines : List Text, detail = .list (lines.map .text)

/-- The store error that a reported failure is raised as: it has come from the failure and carries its first state code,
which alone says whether a column is missing; only without a code it can be about the connection. -/
structure IsRaisedAs (failure raised : Failure) : Prop where
  cause : raised.cause = some failure
  error : ∃ error, raised.storeError? = some error ∧ error.sqlstate? = firstCode failure.codeMarks ∧
    (error.code = .undefinedColumn ↔ firstCode failure.codeMarks = some "42703") ∧
    (error.code = .connectionFailed → firstCode failure.codeMarks = none)

theorem joinedLines_texts (lines : List Text) (position : Nat) :
    joinedLines position (lines.map .text) = .ok lines := by
  induction lines generalizing position with
  | nil => rfl
  | cons line rest ih =>
    rw [List.map_cons, joinedLines, ih]
    rfl

theorem IsReported.report {failure : Failure} (reported : failure.IsReported) : ∃ text, failure.report = .ok text := by
  unfold Failure.report
  cases kept : failure.marks.detail.filter Value.holds with
  | none => exact ⟨_, rfl⟩
  | some detail =>
    have present : detail ∈ failure.marks.detail := (Option.filter_eq_some_iff.1 kept).1
    obtain ⟨line, rfl⟩ | ⟨lines, rfl⟩ := reported.detail detail present
    · exact ⟨_, rfl⟩
    · dsimp only
      rw [joinedLines_texts]
      exact ⟨_, rfl⟩

theorem codeFor_undefinedColumn (failure : Failure) (sqlstate : Option Text) (report : Text) :
    failure.codeFor sqlstate report = .undefinedColumn ↔ sqlstate = some "42703" := by
  unfold codeFor undefinedColumn
  by_cases missing : sqlstate = some "42703"
  · simp [missing]
  · rw [if_neg missing]
    refine ⟨fun same => absurd same ?_, fun same => absurd same missing⟩
    repeat' split
    all_goals decide

theorem codeFor_connectionFailed {failure : Failure} {sqlstate : Option Text} {report : Text}
    (code : failure.codeFor sqlstate report = .connectionFailed) : sqlstate = none := by
  unfold codeFor at code
  repeat' split at code
  all_goals simp_all

theorem IsReported.raisedAs {failure : Failure} (reported : failure.IsReported) (sql operation : String) :
    failure.IsRaisedAs (failure.raisedAs sql operation) := by
  obtain ⟨text, reports⟩ := reported.report
  have diagnosed : failure.diagnosed sql operation = .ok (.ofError (.store (failure.codeFor failure.sqlstate? text)
      [("error_message", .text text), ("sql", .text sql), ("operation", .text operation)] failure.sqlstate?)) := by
    unfold Failure.diagnosed
    rw [reported.foreign, reports]
    rfl
  unfold Failure.raisedAs
  rw [diagnosed]
  refine ⟨rfl, _, rfl, ?_, ?_, ?_⟩
  · exact failure.sqlstate?_eq_firstCode
  · rw [← failure.sqlstate?_eq_firstCode]
    exact codeFor_undefinedColumn _ _ _
  · intro code
    rw [← failure.sqlstate?_eq_firstCode]
    exact codeFor_connectionFailed code

/-! ### Any detail -/

/-- Whether a report can be made of what a driver wrote onto a failure: no detail or one that says nothing, a list of texts,
or another value that can be written. -/
def IsReportable (failure : Failure) : Prop :=
  ∀ detail ∈ failure.marks.detail, detail.holds →
    (∃ lines : List Text, detail = .list (lines.map .text)) ∨ (∀ items, detail ≠ .list items) ∧ detail.isWritable

theorem joinedLines_ok_iff {position : Nat} {items : List Value} {lines : List Text} :
    joinedLines position items = .ok lines ↔ items = lines.map .text := by
  refine ⟨fun joined => ?_, fun same => same ▸ joinedLines_texts lines position⟩
  induction items generalizing position lines with
  | nil =>
    cases joined
    rfl
  | cons item rest ih =>
    cases item with
    | text s =>
      obtain ⟨others, more, rfl⟩ := map_ok joined
      rw [List.map_cons, ih more]
    | _ => cases joined

theorem report_ok_iff (failure : Failure) : (∃ text, failure.report = .ok text) ↔ failure.IsReportable := by
  unfold report IsReportable
  cases own : failure.marks.detail with
  | none => simp
  | some detail =>
    cases holds : detail.holds with
    | false => simp [Option.filter, holds]
    | true =>
      rw [Option.filter_some_pos holds]
      constructor
      · rintro ⟨text, reports⟩ _ ⟨⟩ _
        cases detail with
        | list items =>
          obtain ⟨lines, joined, _⟩ := map_ok reports
          exact .inl ⟨lines, congrArg Value.list (joinedLines_ok_iff.1 joined)⟩
        | _ => exact .inr ⟨fun _ same => (by cases same), Value.writable_of_shownText reports⟩
      · intro reportable
        obtain ⟨lines, rfl⟩ | ⟨noList, writable⟩ := reportable detail rfl holds
        · exact ⟨_, by simp only [joinedLines_texts]; rfl⟩
        · cases detail with
          | list items => exact absurd rfl (noList items)
          | _ => exact ⟨_, Value.shownText_of_writable writable⟩

/-- How a failure surfaces: one of the adapter's own errors as itself, another one that a report can be made of as a store
error that has come from it. -/
structure SurfacesAs (failure raised : Failure) : Prop where
  error_iff : raised.error?.isSome ↔ failure.error?.isSome ∨ failure.IsReportable
  own : failure.error?.isSome → raised = failure.withCause failure
  reported : failure.error? = none → failure.IsReportable → raised.cause = some failure ∧ raised.storeError?.isSome

theorem error?_withCause (failure cause : Failure) : (failure.withCause cause).error? = failure.error? := by
  cases failure
  rfl

theorem raisedAs_own {failure : Failure} (own : failure.error?.isSome) (sql operation : String) :
    failure.raisedAs sql operation = failure.withCause failure := by
  obtain ⟨error, same⟩ := Option.isSome_iff_exists.1 own
  unfold raisedAs diagnosed
  rw [same]

theorem surfacesAs_raisedAs (failure : Failure) (sql operation : String) :
    failure.SurfacesAs (failure.raisedAs sql operation) := by
  cases own : failure.error? with
  | some error =>
    have isOwn : failure.error?.isSome := by rw [own]; rfl
    rw [raisedAs_own isOwn]
    refine ⟨?_, fun _ => rfl, fun none => by simp [own] at none⟩
    exact ⟨fun _ => .inl isOwn, fun _ => by rw [error?_withCause, own]; rfl⟩
  | none =>
    have notOwn : ¬failure.error?.isSome := by simp [own]
    unfold raisedAs diagnosed
    rw [own]
    cases reports : failure.report with
    | ok text =>
      have reportable := failure.report_ok_iff.1 ⟨text, reports⟩
      exact ⟨⟨fun _ => .inr reportable, fun _ => rfl⟩, fun isOwn => absurd isOwn notOwn, fun _ _ => ⟨rfl, rfl⟩⟩
    | error misuse =>
      have unreportable : ¬failure.IsReportable := fun reportable => by
        obtain ⟨text, ok⟩ := failure.report_ok_iff.2 reportable
        cases reports.symm.trans ok
      refine ⟨⟨nofun, ?_⟩, fun isOwn => absurd isOwn notOwn, fun _ reportable => absurd reportable unreportable⟩
      rintro (isOwn | reportable)
      · exact absurd isOwn notOwn
      · exact absurd reportable unreportable

end Failure
end RecordStore
