import RecordStore.Proofs.Adapter.Connecting
import RecordStore.Proofs.Adapter.Update
import RecordStore.Proofs.Schema.Reader
import RecordStore.Proofs.Store.Scripts

/-!
# Making room for the records of every type

An adapter makes room for the records of all its types at a time. Under every schedule of the statements for them the
database ends up the same, with a column for each declared field and all columns that it had; and doing it all again, under
any other schedule, changes nothing.
-/

namespace RecordStore.Adapter

open RecordStore.Task RecordStore.Schema

variable {adapter : Adapter} {party : Party} {channel : Channel} {state : AdapterState} {key : Kind} {assigned : Bool}
  {type : RecordType} {statements : List Schema.Statement} {db : Database}
  {outside : Outside StoreCall StoreCall.Answer} {history : List (Event StoreCall StoreCall.Answer)}

/-! ### A database outside -/

/-- The statement that makes room for which an event tells that it went well. -/
def performed? : Event StoreCall StoreCall.Answer → Option Schema.Statement
  | .answered _ (.execute _ sql _ _) answer =>
    if Except.isOk (answer : Outcome StatementResult) then Schema.Statement.read? sql else none
  | _ => none

def performed (history : List (Event StoreCall StoreCall.Answer)) : List Schema.Statement := history.filterMap performed?

/-- A database after all that has happened. -/
def databaseAfter (db : Database) (history : List (Event StoreCall StoreCall.Answer)) : Database :=
  db.performAll (performed history)

/-- An outside with a database where every statement that makes room goes well if it can be performed. -/
def Serves (db : Database) (outside : Outside StoreCall StoreCall.Answer) : Prop :=
  ∀ {history place channel sql params operation statement}, Schema.Statement.read? sql = some statement →
    (databaseAfter db history).Allows statement →
      ∃ result, outside history place (.execute channel sql params operation) = (.ok result : Outcome StatementResult)

/-- Before a column is added to a table, a statement that creates the table has gone well. -/
def CreatesFirst (history : List (Event StoreCall StoreCall.Answer)) : Prop :=
  ∀ {before later place channel sql params operation table column},
    history = before ++ .issued place (.execute channel sql params operation) :: later →
      Schema.Statement.read? sql = some (.addColumn table column) →
        ∃ key columns, .createTable table key columns ∈ performed before

/-! ### The script of a type -/

def statementCall (channel : Channel) (statement : Schema.Statement) : StoreCall :=
  .execute channel statement.sql [] "create table"

def WentWell : (c : StoreCall) → c.Answer → Prop
  | .execute .., answer => ∃ result, answer = (.ok result : Outcome StatementResult)
  | _, _ => False

theorem asksEach_statement (connected : state.channel? party = some channel) (statement : Schema.Statement) :
    AsksEach state WentWell (.ok (ForInStep.yield PUnit.unit)) [statementCall channel statement] (do
      let channel ← executor party
      discard (execute channel statement.sql [] "create table")
      return ForInStep.yield PUnit.unit : Run (ForInStep PUnit)).run := by
  rw [bind_run]
  refine (endsAtOnce_executor connected).bind_asksEach ⟨_, fun _ _ => rfl, ?_⟩
  rintro answer ⟨result, rfl⟩
  exact fun _ _ => rfl

theorem asksEach_statements (connected : state.channel? party = some channel) (statements : List Schema.Statement) :
    AsksEach state WentWell (.ok PUnit.unit) (statements.map (statementCall channel))
      (forIn statements PUnit.unit fun statement _ => do
        let channel ← executor party
        discard (execute channel statement.sql [] "create table")
        return ForInStep.yield PUnit.unit : Run PUnit).run := by
  induction statements with
  | nil => exact fun _ _ => rfl
  | cons statement rest ih =>
    rw [List.forIn_cons, bind_run]
    exact (asksEach_statement connected statement).bind ih

theorem asksEach_ensureType (connected : state.channel? party = some channel)
    (made : Schema.statements type key assigned = .ok statements) :
    AsksEach state WentWell (.ok ()) (statements.map (statementCall channel)) (ensureType party key assigned type).run := by
  have built : EndsAtOnce state (ofMisuse (.ok statements)).run (.ok statements) := fun _ _ => rfl
  have logged : AsksEach state WentWell (.ok ()) []
      (Adapter.log .debug ("Table " ++ type.name.text ++ " created/verified")).run := fun _ _ => rfl
  unfold ensureType
  rw [made, bind_run, ← List.append_nil (statements.map _)]
  refine built.bind_asksEach ?_
  dsimp only
  rw [bind_run]
  exact (asksEach_statements connected statements).bind logged

/-! ### Statements that went well -/

def spoken? : StoreCall → Option Schema.Statement
  | .execute _ sql _ _ => Schema.Statement.read? sql
  | _ => none

theorem performed_carried {place : Place} {calls : List StoreCall} {events : List (Event StoreCall StoreCall.Answer)}
    (carried : CarriedOut WentWell place calls events) : performed events = calls.filterMap spoken? := by
  induction carried with
  | nothing => rfl
  | @next calls events c answer before well ih =>
    have last : performed [.issued place c, .answered place c answer] = [c].filterMap spoken? := by
      cases c with
      | execute =>
        obtain ⟨result, rfl⟩ := well
        rfl
      | _ => exact well.elim
    rw [List.filterMap_append, ← ih, ← last]
    exact List.filterMap_append

/-- The script of a type has come as far as its statements have gone well. -/
theorem performed_script (plain : ∀ statement ∈ statements, statement.Plain) {place : Place}
    {events : List (Event StoreCall StoreCall.Answer)}
    (carried : CarriedOut WentWell place (statements.map (statementCall channel)) events) : performed events = statements := by
  have each : ∀ statement ∈ statements, (spoken? ∘ statementCall channel) statement = some statement :=
    fun statement member => Schema.Statement.read?_sql (plain statement member)
  rw [performed_carried carried, List.filterMap_map, List.filterMap_congr each, List.filterMap_some]

theorem performed_before (plain : ∀ statement ∈ statements, statement.Plain) {place : Place} {done left : List StoreCall}
    {c : StoreCall} {events : List (Event StoreCall StoreCall.Answer)}
    (split : statements.map (statementCall channel) = done ++ c :: left) (carried : CarriedOut WentWell place done events) :
    ∃ statement after, statements = performed events ++ statement :: after ∧ c = statementCall channel statement := by
  obtain ⟨first, rest, rfl, rfl, others⟩ := List.map_eq_append_iff.1 split
  obtain ⟨statement, after, rfl, rfl, -⟩ := List.map_eq_cons_iff.1 others
  have own := performed_script (fun statement member => plain statement (List.mem_append_left _ member)) carried
  exact ⟨statement, after, by rw [own], rfl⟩

theorem performed_eventsAt (place : Place) (history : List (Event StoreCall StoreCall.Answer)) :
    (performed (eventsAt place history)).Sublist (performed history) :=
  List.filter_sublist.filterMap performed?

theorem answersWell (serves : Serves db outside) (made : Schema.statements type key assigned = .ok statements) (i : Nat) :
    AnswersWell outside WentWell [i] (statements.map (statementCall channel)) := by
  intro history own done c left whole carried here
  have plain := statements_plain made
  obtain ⟨statement, after, split, rfl⟩ := performed_before plain whole carried
  have member : statement ∈ statements := by simp [split]
  have allowed : (databaseAfter db history).Allows statement := by
    -- What does not create the table itself comes after a creation that went well.
    rcases created_before made split with ⟨key, columns, rfl⟩ | ⟨key, columns, created⟩
    · trivial
    · have happened : .createTable type.name key columns ∈ performed history := by
        refine (performed_eventsAt [i] history).subset ?_
        rw [here, performed, List.filterMap_append]
        exact List.mem_append_left _ created
      refine Database.allows_of_isSome ?_
      rw [table_of_statements made statement member]
      exact Database.isSome_performAll happened
  exact serves (Schema.Statement.read?_sql (plain statement member)) allowed

/-! ### All types at a time -/

section Together

variable {n : Nat} {scripts : Fin n → List Schema.Statement} {names : Fin n → String}

theorem performed_at (places : ∀ event ∈ history, ∃ i : Fin n, event.place = [i.val])
    (own : ∀ i : Fin n, performed (eventsAt [i.val] history) = scripts i) {event : Event StoreCall StoreCall.Answer}
    (member : event ∈ history) {statement : Schema.Statement} (done : performed? event = some statement) :
    ∃ i : Fin n, event.place = [i.val] ∧ statement ∈ scripts i := by
  obtain ⟨i, here⟩ := places event member
  refine ⟨i, here, ?_⟩
  rw [← own i]
  exact List.mem_filterMap.2 ⟨event, List.mem_filter.2 ⟨member, by simpa using here⟩, done⟩

/-- Of all statements that went well, those about a table went well at the place of its type. -/
theorem performed_about (places : ∀ event ∈ history, ∃ i : Fin n, event.place = [i.val])
    (own : ∀ i : Fin n, performed (eventsAt [i.val] history) = scripts i) (distinct : Function.Injective names)
    (tables : ∀ i, ∀ statement ∈ scripts i, statement.table.text = names i) (i : Fin n) :
    (performed history).filter (·.table.text = names i) = scripts i := by
  rw [← own i, performed, performed, eventsAt, List.filter_filterMap, List.filterMap_filter]
  refine List.filterMap_congr fun event member => ?_
  -- Each event can be told by its place or by the table of its statement, for no two types share a table.
  cases done : performed? event with
  | none => simp
  | some statement =>
    obtain ⟨j, here, among⟩ := performed_at places own member done
    have same : statement.table.text = names i ↔ event.place = [i.val] := by
      rw [tables j statement among, here, distinct.eq_iff, List.singleton_inj, Fin.val_inj]
    simp only [Option.filter_some, decide_eq_true_eq, same]

end Together

/-- The kind of keys that room is made for: the given one, or that of the settings. -/
def keyKindFor (adapter : Adapter) : Option Kind → Except AdapterError Kind
  | some key => .ok key
  | none => adapter.settings.keyKind

theorem ensureSchema_starts {asked : Option Kind} (chosen : adapter.keyKindFor asked = .ok key) :
    ∃ (tasks : Fin adapter.types.length → Job (Outcome Unit)) (next : Outcome (List Unit) → Job (Outcome Unit)),
      (adapter.ensureSchema party asked).run.advance [] state [] =
        ⟨state, [], .joining adapter.types.length (fun i => .ready (tasks i)) none next⟩ ∧
      (∀ i, tasks i = (ensureType party key adapter.settings.generator.isNone (adapter.types.get i).2).run) ∧
      ∀ outcome, next outcome = .done (outcome.map fun _ => ()) := by
  generalize made : (adapter.types.map fun entry =>
    ensureType party key adapter.settings.generator.isNone entry.2).map ExceptT.run = jobs
  have length : jobs.length = adapter.types.length := by rw [← made, List.length_map, List.length_map]
  have starts : ∃ next, (adapter.ensureSchema party asked).run.advance [] state [] =
      ⟨state, [], .joining jobs.length (fun i => .ready (jobs.get i)) none next⟩ ∧
        ∀ outcome, next outcome = .done (outcome.map fun _ => ()) := by
    subst made
    cases asked with
    | some asked =>
      cases chosen
      refine ⟨_, rfl, fun outcome => ?_⟩
      cases outcome <;> rfl
    | none =>
      change adapter.settings.keyKind = .ok key at chosen
      unfold ensureSchema
      dsimp only
      rw [chosen]
      refine ⟨_, rfl, fun outcome => ?_⟩
      cases outcome <;> rfl
  obtain ⟨next, starts, ends⟩ := starts
  rw [Running.joining_cast length] at starts
  refine ⟨_, next, starts, fun i => ?_, ends⟩
  subst made
  simp

/-- How many turns it takes at most: two for each statement, one more for each type and one before and one after them. -/
def roomTurns (adapter : Adapter) : Nat := (adapter.types.map fun entry => 2 * entry.2.fields.length + 3).sum + 2

theorem length_statements (made : Schema.statements type key assigned = .ok statements) :
    statements.length = type.fields.length + 1 := by
  obtain ⟨keyText, columns, -, listed, rfl⟩ := statements_made made
  rw [List.length_cons, List.length_map, length_mapM listed]

theorem creates_first {n : Nat} {types : Fin n → RecordType} {scripts : Fin n → List Schema.Statement}
    (made : ∀ i, Schema.statements (types i) key assigned = .ok (scripts i))
    (places : ∀ event ∈ history, ∃ i : Fin n, event.place = [i.val])
    (carried : ∀ i : Fin n, CarriedOut WentWell [i.val] ((scripts i).map (statementCall channel)) (eventsAt [i.val] history)) :
    CreatesFirst history := by
  intro before later place target sql params operation table column whole reads
  obtain ⟨i, here⟩ := places (.issued place (.execute target sql params operation)) (by simp [whole])
  obtain rfl : place = [i.val] := here
  -- The call splits what happens at its place as it splits the script.
  have own : eventsAt [i.val] history =
      eventsAt [i.val] before ++ .issued [i.val] (.execute target sql params operation) :: eventsAt [i.val] later := by
    rw [whole, eventsAt, List.filter_append, List.filter_cons_of_pos (by simp [Event.place])]
    rfl
  have plain := statements_plain (made i)
  have each := carried i
  rw [own] at each
  obtain ⟨done, left, split, carried⟩ := each.split
  obtain ⟨statement, after, order, same⟩ := performed_before plain split carried
  have member : statement ∈ scripts i := by simp [order]
  have same : statement = .addColumn table column := by
    have spoken := Schema.Statement.read?_sql (plain statement member)
    cases same
    exact Option.some.inj (spoken.symm.trans reads)
  subst same
  rcases created_before (made i) order with ⟨_, _, other⟩ | ⟨key, columns, created⟩
  · cases other
  · obtain rfl : table = (types i).name := table_of_statements (made i) _ member
    exact ⟨key, columns, (performed_eventsAt _ _).subset created⟩

theorem names_injective (distinct : ((adapter.types.map (·.2)).map (·.name.text)).Nodup) :
    Function.Injective fun i : Fin adapter.types.length => (adapter.types.get i).2.name.text := by
  intro i j same
  have inside (k : Fin adapter.types.length) : k.val < ((adapter.types.map (·.2)).map (·.name.text)).length := by simp
  exact Fin.ext ((@List.getElem_inj _ i.val j.val _ (inside i) (inside j) distinct).1 (by simpa using same))

theorem databaseAfter_together {all : List (List Schema.Statement)}
    {scripts : Fin adapter.types.length → List Schema.Statement}
    (distinct : ((adapter.types.map (·.2)).map (·.name.text)).Nodup)
    (made : (adapter.types.map (·.2)).mapM (Schema.statements · key assigned) = .ok all)
    (built : ∀ i, Schema.statements (adapter.types.get i).2 key assigned = .ok (scripts i))
    (places : ∀ event ∈ history, ∃ i : Fin adapter.types.length, event.place = [i.val])
    (own : ∀ i : Fin adapter.types.length, performed (eventsAt [i.val] history) = scripts i) :
    databaseAfter db history = db.performAll all.flatten := by
  have tables (i : Fin adapter.types.length) : ∀ statement ∈ scripts i,
      statement.table.text = (adapter.types.get i).2.name.text :=
    fun statement member => congrArg Identifier.text (table_of_statements (built i) statement member)
  refine Database.ext (funext fun name => ?_)
  rw [databaseAfter, Database.table?_performAll, Database.table?_performAll]
  congr 1
  by_cases among : name ∈ (adapter.types.map (·.2)).map (·.name.text)
  · obtain ⟨type, member, rfl⟩ := List.mem_map.1 among
    obtain ⟨entry, listed, rfl⟩ := List.mem_map.1 member
    obtain ⟨i, rfl⟩ := List.get_of_mem listed
    exact (performed_about places own (names_injective distinct) tables i).trans
      (filter_own distinct made member (built i)).symm
  · rw [filter_others made among, List.filter_eq_nil_iff]
    intro statement member
    obtain ⟨event, happened, done⟩ := List.mem_filterMap.1 member
    obtain ⟨i, -, inside⟩ := performed_at places own happened done
    rw [tables i statement inside, decide_eq_true_iff]
    rintro rfl
    exact among (List.mem_map_of_mem (List.mem_map_of_mem (List.get_mem ..)))

/-- Under every schedule of the statements for all types the database ends up as if they were performed one type after the
other. -/
theorem ensureSchema_ends {asked : Option Kind} {all : List (List Schema.Statement)} (serves : Serves db outside)
    (connected : state.channel? party = some channel) (chosen : adapter.keyKindFor asked = .ok key)
    (distinct : ((adapter.types.map (·.2)).map (·.name.text)).Nodup)
    (made : (adapter.types.map (·.2)).mapM (Schema.statements · key adapter.settings.generator.isNone) = .ok all) :
    Moment.Ends outside (.start state (adapter.ensureSchema party asked).run) adapter.roomTurns fun result history =>
      result = .ok () ∧ CreatesFirst history ∧ databaseAfter db history = db.performAll all.flatten := by
  obtain ⟨tasks, next, starts, own, ends⟩ := @ensureSchema_starts adapter party state key asked chosen
  have each (i : Fin adapter.types.length) : ∃ script,
      Schema.statements (adapter.types.get i).2 key adapter.settings.generator.isNone = .ok script := by
    obtain ⟨script, -, built⟩ := (mapM_ok_iff.1 made).2 i.val (adapter.types.get i).2 (by simp)
    exact ⟨script, built⟩
  choose scripts built using each
  have asks (i : Fin adapter.types.length) :
      AsksEach state WentWell (.ok ()) ((scripts i).map (statementCall channel)) (tasks i) := by
    rw [own i]
    exact asksEach_ensureType connected (built i)
  refine (ends_joined_scripts starts asks (fun i => answersWell serves (built i) i.val) ends).mono (le_of_eq ?_) ?_
  · have turns (i : Fin adapter.types.length) : 2 * ((scripts i).map (statementCall channel)).length + 1 =
        2 * (adapter.types[i.val]).2.fields.length + 3 := by
      rw [List.length_map, length_statements (built i)]
      rfl
    simp only [turns]
    rw [Fin.sum_univ_fun_getElem adapter.types fun entry => 2 * entry.2.fields.length + 3]
    rfl
  · rintro result history ⟨rfl, carried, places⟩
    have own (i : Fin adapter.types.length) : performed (eventsAt [i.val] history) = scripts i :=
      performed_script (statements_plain (built i)) (carried i)
    exact ⟨rfl, creates_first built places carried, databaseAfter_together distinct made built places own⟩

/-- Making room leads to one and the same database under every schedule: no column is added to a table before the table is
there, every declared field has its column, what was there stays, and what is new is as the fields tell. From there on,
making room again changes nothing, under any schedule. -/
theorem ensureSchema_converges {asked : Option Kind} (db : Database) (chosen : adapter.keyKindFor asked = .ok key)
    (allowed : key ∈ Kind.keyKinds) (distinct : ((adapter.types.map (·.2)).map (·.name.text)).Nodup) :
    ∃ after : Database,
      Prepared (adapter.types.map (·.2)) key adapter.settings.generator.isNone db after ∧
      ∀ {party state channel}, state.channel? party = some channel →
        (∀ outside, Serves db outside →
          Moment.Ends outside (.start state (adapter.ensureSchema party asked).run) adapter.roomTurns fun result history =>
            result = .ok () ∧ CreatesFirst history ∧ databaseAfter db history = after) ∧
        ∀ outside, Serves after outside →
          Moment.Ends outside (.start state (adapter.ensureSchema party asked).run) adapter.roomTurns fun result history =>
            result = .ok () ∧ databaseAfter after history = after := by
  obtain ⟨all, made⟩ : ∃ all,
      (adapter.types.map (·.2)).mapM (Schema.statements · key adapter.settings.generator.isNone) = .ok all :=
    mapM_total fun type _ => Schema.statements_total allowed _ type
  refine ⟨db.performAll all.flatten, prepared_performAll distinct made, fun connected => ⟨fun outside serves => ?_, ?_⟩⟩
  · exact ensureSchema_ends serves connected chosen distinct made
  · intro outside serves
    refine (ensureSchema_ends serves connected chosen distinct made).mono le_rfl ?_
    rintro result history ⟨ended, -, done⟩
    exact ⟨ended, done.trans (performAll_again distinct made)⟩

/-! ### A store with a table -/

instance (db : Database) : DecidablePred db.Allows
  | .createTable .. => .isTrue trivial
  | .addColumn .. => inferInstanceAs (Decidable (_ = true))

/-- A store that keeps a database. It fails to add a column to a table that is not there. -/
def keeping (db : Database) : Outside StoreCall StoreCall.Answer
  | history, _, .execute _ sql _ _ => match Schema.Statement.read? sql with
    | some statement =>
      if (databaseAfter db history).Allows statement then (.ok {} : Outcome StatementResult)
      else (.error (.ofError (.store .execution [] (some "42P01"))) : Outcome StatementResult)
    | none => (.ok {} : Outcome StatementResult)
  | _, _, .open .. => (.ok () : Outcome Unit)
  | _, _, .begin => (.ok 0 : Outcome Nat)
  | _, _, .commit _ => (.ok () : Outcome Unit)
  | _, _, .rollback _ => (.ok () : Outcome Unit)
  | _, _, .dispose => (.ok () : Outcome Unit)

theorem serves_keeping (db : Database) : Serves db (keeping db) := by
  intro history place channel sql params operation statement reads allowed
  refine ⟨{}, ?_⟩
  rw [keeping, reads]
  exact if_pos allowed

/-- A database with a table of articles, whose headings are short. -/
def shortHeadings : Database where
  table?
    | "article" => some ⟨fun name => if name = "heading" then some "varchar(80)" else none⟩
    | _ => none

/-- Room is made for drafts and articles: the headings stay short, the labels are added, and drafts get a new table. -/
theorem shortHeadings_prepared : ∃ after : Database,
    (after.table? "article").bind (·.type? "heading") = some "varchar(80)" ∧
    (after.table? "article").bind (·.type? "labels") = some "text[]" ∧
    (after.table? "draft").bind (·.type? "slug") = some "text" ∧
    Moment.Ends (keeping shortHeadings) (.start { connected := true } (draftsAdapter.ensureSchema .plain (some .text)).run) 12
      fun result history => result = .ok () ∧ CreatesFirst history ∧ databaseAfter shortHeadings history = after := by
  obtain ⟨after, prepared, runs⟩ :=
    @ensureSchema_converges draftsAdapter .text (some .text) shortHeadings rfl (by decide) (by decide)
  obtain ⟨articles, there, room⟩ := prepared.room Query.articleSample (by simp [draftsAdapter])
  obtain ⟨drafts, made, fresh⟩ := prepared.room draftSample (by simp [draftsAdapter])
  refine ⟨after, ?_, ?_, ?_, (@runs .plain { connected := true } .pool rfl).1 _ (serves_keeping shortHeadings)⟩
  · change (after.table? Query.articleSample.name.text).bind _ = _
    rw [there]
    exact room.kept "heading" _ rfl
  · change (after.table? Query.articleSample.name.text).bind _ = _
    rw [there]
    obtain ⟨text, has⟩ := Option.isSome_iff_exists.1
      (room.declared (⟨"labels", by decide⟩, { kind := .text, isArray := true }) (by simp [Query.articleSample]))
    rcases room.added "labels" text rfl has with ⟨entry, member, named, typed⟩ | ⟨absent, -⟩
    · simp only [Query.articleSample, List.mem_cons, List.not_mem_nil, or_false] at member
      rcases member with rfl | rfl
      · exact absurd named (by decide)
      · cases typed
        exact has
    · cases absent
  · change (after.table? draftSample.name.text).bind _ = _
    rw [made]
    obtain ⟨text, keyed, has⟩ := fresh.keyed rfl
    cases keyed
    exact has

end RecordStore.Adapter
