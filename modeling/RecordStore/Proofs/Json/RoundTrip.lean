import RecordStore.Proofs.Json.Scan

/-!
# Written JSON text is read back

The tokens of a value build the value on whatever frames are open, as long as the nesting allows as many
frames as the value is deep; where it does not, they are refused as too deep. `read_written` puts this on
top of `scan_write`.
-/

namespace RecordStore.Json

variable {nesting : Option Nat}

theorem fits_of_le {a b : Nat} (h : nesting.all (a ≤ ·) = true) (le : b ≤ a) : nesting.all (b ≤ ·) = true := by
  cases nesting with
  | none => rfl
  | some limit =>
    simp only [Option.all_some, decide_eq_true_eq] at h ⊢
    exact Nat.le_trans le h

namespace ValueState

theorem run_cons {state next : ValueState} {t : Token} (ts : List Token) (step : state.step? t = some next)
    (fits : nesting.all (next.frames.length ≤ ·) = true) :
    (t :: ts).foldlM (stepWithin nesting) state = ts.foldlM (stepWithin nesting) next := by
  rw [List.foldlM_cons, stepWithin, step]
  dsimp only
  rw [if_pos fits]
  rfl

theorem run_append {state next : ValueState} {first : List Token} (rest : List Token)
    (h : first.foldlM (stepWithin nesting) state = .ok next) :
    (first ++ rest).foldlM (stepWithin nesting) state = rest.foldlM (stepWithin nesting) next := by
  rw [List.foldlM_append, h]
  rfl

theorem add?_frames {frames : List Frame} {v : Value} {state : ValueState} (h : add? frames v = some state) :
    state.frames.length = frames.length := by
  unfold add? at h
  split at h <;> cases h <;> rfl

/-- What may come next where a value may start. -/
def StartsValue (expected : Expected) : Prop := expected = .value ∨ expected = .valueOrClose

section Steps
variable {frames : List Frame} {expected : Expected} {done : List Value} {entries : List (Value × Value)}

theorem run_scalar {v : Value} {state : ValueState} (starts : StartsValue expected)
    (added : add? frames v = some state) (fits : nesting.all (frames.length ≤ ·) = true) :
    [Token.scalar v].foldlM (stepWithin nesting) ⟨frames, expected, none⟩ = .ok state := by
  have step : step? ⟨frames, expected, none⟩ (.scalar v) = some state := by
    rcases starts with rfl | rfl <;> exact added
  rw [run_cons [] step (by rw [add?_frames added]; exact fits)]
  rfl

theorem step_open {t : Token} {state : ValueState} (starts : StartsValue expected) (isOpen : t ≠ .closeList)
    (started : startValue? frames t = some state) : step? ⟨frames, expected, none⟩ t = some state := by
  rcases starts with rfl | rfl
  · exact started
  · cases t with
    | closeList => contradiction
    | _ => exact started

theorem run_key {key : Text} (rest : List Token) (fits : nesting.all (frames.length + 1 ≤ ·) = true) :
    (Token.comma :: .scalar (.text key) :: .colon :: rest).foldlM (stepWithin nesting)
        ⟨.map entries :: frames, .separator, none⟩ =
      rest.foldlM (stepWithin nesting) ⟨.entry entries key :: frames, .value, none⟩ := by
  have comma : step? ⟨.map entries :: frames, .separator, none⟩ .comma =
      some ⟨.map entries :: frames, .key, none⟩ := rfl
  have named : step? ⟨.map entries :: frames, .key, none⟩ (.scalar (.text key)) =
      some ⟨.map entries :: frames, .colon key, none⟩ := rfl
  have colon : step? ⟨.map entries :: frames, .colon key, none⟩ .colon =
      some ⟨.entry entries key :: frames, .value, none⟩ := rfl
  rw [run_cons _ comma fits, run_cons _ named fits, run_cons _ colon fits]

theorem run_firstKey {key : Text} (rest : List Token) (fits : nesting.all (frames.length + 1 ≤ ·) = true) :
    (Token.scalar (.text key) :: .colon :: rest).foldlM (stepWithin nesting)
        ⟨.map entries :: frames, .keyOrClose, none⟩ =
      rest.foldlM (stepWithin nesting) ⟨.entry entries key :: frames, .value, none⟩ := by
  have named : step? ⟨.map entries :: frames, .keyOrClose, none⟩ (.scalar (.text key)) =
      some ⟨.map entries :: frames, .colon key, none⟩ := rfl
  have colon : step? ⟨.map entries :: frames, .colon key, none⟩ .colon =
      some ⟨.entry entries key :: frames, .value, none⟩ := rfl
  rw [run_cons _ named fits, run_cons _ colon fits]

theorem run_closeList {state : ValueState} (added : add? frames (.list done.reverse) = some state)
    (expects : expected = .separator ∨ expected = .valueOrClose)
    (fits : nesting.all (frames.length ≤ ·) = true) :
    [Token.closeList].foldlM (stepWithin nesting) ⟨.list done :: frames, expected, none⟩ = .ok state := by
  have step : step? ⟨.list done :: frames, expected, none⟩ .closeList = some state := by
    rcases expects with rfl | rfl <;> exact added
  rw [run_cons [] step (by rw [add?_frames added]; exact fits)]
  rfl

theorem run_closeMap {state : ValueState} (added : add? frames (.map entries) = some state)
    (expects : expected = .separator ∨ expected = .keyOrClose)
    (fits : nesting.all (frames.length ≤ ·) = true) :
    [Token.closeMap].foldlM (stepWithin nesting) ⟨.map entries :: frames, expected, none⟩ = .ok state := by
  have step : step? ⟨.map entries :: frames, expected, none⟩ .closeMap = some state := by
    rcases expects with rfl | rfl <;> exact added
  rw [run_cons [] step (by rw [add?_frames added]; exact fits)]
  rfl

end Steps

/-- The entries written over those that are done. -/
def putNormal (done entries : List (Value × Value)) : List (Value × Value) :=
  (normalEntries entries).foldl (fun done (k, v) => Value.put k v done) done

mutual

/-- The tokens of a value hand its normal form to the frames that are open. -/
theorem run_tokens (v : Value) (frames : List Frame) {expected : Expected} {state : ValueState}
    (starts : StartsValue expected) (added : add? frames (normal v) = some state)
    (fits : nesting.all (frames.length + depth v ≤ ·) = true) :
    (tokens v).foldlM (stepWithin nesting) ⟨frames, expected, none⟩ = .ok state := by
  cases v with
  | list items =>
    rw [depth] at fits
    have opened : step? ⟨frames, expected, none⟩ .openList = some ⟨.list [] :: frames, .valueOrClose, none⟩ :=
      step_open starts (by simp) rfl
    rw [tokens, run_cons _ opened (fits_of_le fits (by simp))]
    exact run_items items added (fits_of_le fits (by omega))
  | tuple items =>
    rw [depth] at fits
    have opened : step? ⟨frames, expected, none⟩ .openList = some ⟨.list [] :: frames, .valueOrClose, none⟩ :=
      step_open starts (by simp) rfl
    rw [tokens, run_cons _ opened (fits_of_le fits (by simp))]
    exact run_items items added (fits_of_le fits (by omega))
  | map entries =>
    rw [depth] at fits
    have opened : step? ⟨frames, expected, none⟩ .openMap = some ⟨.map [] :: frames, .keyOrClose, none⟩ :=
      step_open starts (by simp) rfl
    rw [tokens, run_cons _ opened (fits_of_le fits (by simp))]
    exact run_entries entries added (fits_of_le fits (by omega))
  | _ => exact run_scalar starts added (fits_of_le fits (Nat.le_add_right ..))

theorem run_items (items : List Value) {frames : List Frame} {state : ValueState}
    (added : add? frames (.list (normalItems items)) = some state)
    (fits : nesting.all (frames.length + 1 + itemDepth items ≤ ·) = true) :
    (itemTokens items ++ [Token.closeList]).foldlM (stepWithin nesting) ⟨.list [] :: frames, .valueOrClose, none⟩ =
      .ok state := by
  cases items with
  | nil => exact run_closeList added (.inr rfl) (fits_of_le fits (by omega))
  | cons v rest =>
    rw [itemDepth] at fits
    have first := run_tokens v (.list [] :: frames) (.inr rfl) rfl
      (fits_of_le fits (by rw [List.length_cons]; omega))
    rw [itemTokens, List.append_assoc, run_append _ first]
    exact run_moreItems rest [normal v] added (fits_of_le fits (by omega))

theorem run_moreItems (items : List Value) (done : List Value) {frames : List Frame} {state : ValueState}
    (added : add? frames (.list (done.reverse ++ normalItems items)) = some state)
    (fits : nesting.all (frames.length + 1 + itemDepth items ≤ ·) = true) :
    (moreItemTokens items ++ [Token.closeList]).foldlM (stepWithin nesting) ⟨.list done :: frames, .separator, none⟩ =
      .ok state := by
  cases items with
  | nil =>
    rw [normalItems, List.append_nil] at added
    exact run_closeList added (.inl rfl) (fits_of_le fits (by omega))
  | cons v rest =>
    rw [itemDepth] at fits
    have comma : step? ⟨.list done :: frames, .separator, none⟩ .comma = some ⟨.list done :: frames, .value, none⟩ :=
      rfl
    have next := run_tokens v (.list done :: frames) (.inl rfl) rfl
      (fits_of_le fits (by rw [List.length_cons]; omega))
    rw [moreItemTokens, List.cons_append, run_cons _ comma (fits_of_le fits (by simp)), List.append_assoc,
      run_append _ next]
    refine run_moreItems rest (normal v :: done) ?_ (fits_of_le fits (by omega))
    rwa [List.reverse_cons, List.append_assoc]

theorem run_entries (entries : List (Value × Value)) {frames : List Frame} {state : ValueState}
    (added : add? frames (.map (putNormal [] entries)) = some state)
    (fits : nesting.all (frames.length + 1 + entryDepth entries ≤ ·) = true) :
    (entryTokens entries ++ [Token.closeMap]).foldlM (stepWithin nesting) ⟨.map [] :: frames, .keyOrClose, none⟩ =
      .ok state := by
  cases entries with
  | nil => exact run_closeMap added (.inr rfl) (fits_of_le fits (by omega))
  | cons e rest =>
    obtain ⟨k, v⟩ := e
    rw [entryDepth] at fits
    have first := run_tokens v (.entry [] (keyName k).joined :: frames) (.inl rfl) rfl
      (fits_of_le fits (by rw [List.length_cons]; omega))
    rw [entryTokens, List.cons_append, List.cons_append, run_firstKey _ (fits_of_le fits (by omega)),
      List.append_assoc, run_append _ first]
    exact run_moreEntries rest _ added (fits_of_le fits (by omega))

theorem run_moreEntries (entries done : List (Value × Value)) {frames : List Frame} {state : ValueState}
    (added : add? frames (.map (putNormal done entries)) = some state)
    (fits : nesting.all (frames.length + 1 + entryDepth entries ≤ ·) = true) :
    (moreEntryTokens entries ++ [Token.closeMap]).foldlM (stepWithin nesting) ⟨.map done :: frames, .separator, none⟩ =
      .ok state := by
  cases entries with
  | nil => exact run_closeMap added (.inl rfl) (fits_of_le fits (by omega))
  | cons e rest =>
    obtain ⟨k, v⟩ := e
    rw [entryDepth] at fits
    have next := run_tokens v (.entry done (keyName k).joined :: frames) (.inl rfl) rfl
      (fits_of_le fits (by rw [List.length_cons]; omega))
    rw [moreEntryTokens, List.cons_append, List.cons_append, List.cons_append,
      run_key _ (fits_of_le fits (by omega)), List.append_assoc, run_append _ next]
    exact run_moreEntries rest _ added (fits_of_le fits (by omega))

end

/-! ### Values that are too deep -/

section Deep
variable {limit : Nat}

theorem run_deep {state next : ValueState} {t : Token} (ts : List Token) (step : state.step? t = some next)
    (deep : limit < next.frames.length) :
    (t :: ts).foldlM (stepWithin (some limit)) state = .error .tooDeep := by
  have outside : (some limit).all (fun limit => decide (next.frames.length ≤ limit)) = false := by
    simpa using deep
  rw [List.foldlM_cons, stepWithin, step]
  dsimp only
  rw [if_neg (by rw [outside]; simp)]
  rfl

theorem run_opened {state next : ValueState} {t : Token} {ts : List Token} (step : state.step? t = some next)
    (inner : next.frames.length ≤ limit → ts.foldlM (stepWithin (some limit)) next = .error .tooDeep) :
    (t :: ts).foldlM (stepWithin (some limit)) state = .error .tooDeep := by
  by_cases fits : next.frames.length ≤ limit
  · rw [run_cons ts step (by simpa using fits)]
    exact inner fits
  · exact run_deep ts step (Nat.lt_of_not_le fits)

mutual

/-- The tokens of a value are refused where the value nests deeper than the frames that are left. -/
theorem deep_tokens (v : Value) (frames : List Frame) {expected : Expected} (starts : StartsValue expected)
    (rest : List Token) (fits : frames.length ≤ limit) (deep : limit < frames.length + depth v) :
    (tokens v ++ rest).foldlM (stepWithin (some limit)) ⟨frames, expected, none⟩ = .error .tooDeep := by
  cases v with
  | list items =>
    rw [tokens, List.cons_append, List.append_assoc]
    refine run_opened (step_open starts (by simp) rfl) fun room => ?_
    exact deep_items items _ room (by rw [depth] at deep; omega)
  | tuple items =>
    rw [tokens, List.cons_append, List.append_assoc]
    refine run_opened (step_open starts (by simp) rfl) fun room => ?_
    exact deep_items items _ room (by rw [depth] at deep; omega)
  | map entries =>
    rw [tokens, List.cons_append, List.append_assoc]
    refine run_opened (step_open starts (by simp) rfl) fun room => ?_
    exact deep_entries entries _ room (by rw [depth] at deep; omega)
  | _ =>
    rw [depth] at deep
    · exact absurd deep (Nat.not_lt.2 fits)
    all_goals simp

theorem deep_items (items : List Value) {frames : List Frame} (rest : List Token) (fits : frames.length + 1 ≤ limit)
    (deep : limit < frames.length + 1 + itemDepth items) :
    (itemTokens items ++ rest).foldlM (stepWithin (some limit)) ⟨.list [] :: frames, .valueOrClose, none⟩ =
      .error .tooDeep := by
  cases items with
  | nil =>
    rw [itemDepth] at deep
    omega
  | cons v others =>
    rw [itemDepth] at deep
    rw [itemTokens, List.append_assoc]
    by_cases first : limit < frames.length + 1 + depth v
    · exact deep_tokens v (.list [] :: frames) (.inr rfl) _ fits first
    · have done := @run_tokens (some limit) v (.list [] :: frames) _ _ (.inr rfl) rfl
        (by simpa using Nat.le_of_not_lt first)
      rw [run_append _ done]
      exact deep_moreItems others [normal v] rest fits (by omega)

theorem deep_moreItems (items done : List Value) {frames : List Frame} (rest : List Token)
    (fits : frames.length + 1 ≤ limit) (deep : limit < frames.length + 1 + itemDepth items) :
    (moreItemTokens items ++ rest).foldlM (stepWithin (some limit)) ⟨.list done :: frames, .separator, none⟩ =
      .error .tooDeep := by
  cases items with
  | nil =>
    rw [itemDepth] at deep
    omega
  | cons v others =>
    rw [itemDepth] at deep
    have comma : step? ⟨.list done :: frames, .separator, none⟩ .comma = some ⟨.list done :: frames, .value, none⟩ :=
      rfl
    rw [moreItemTokens, List.cons_append, run_cons _ comma (by simpa using fits), List.append_assoc]
    by_cases first : limit < frames.length + 1 + depth v
    · exact deep_tokens v (.list done :: frames) (.inl rfl) _ fits first
    · have next := @run_tokens (some limit) v (.list done :: frames) _ _ (.inl rfl) rfl
        (by simpa using Nat.le_of_not_lt first)
      rw [run_append _ next]
      exact deep_moreItems others (normal v :: done) rest fits (by omega)

theorem deep_entries (entries : List (Value × Value)) {frames : List Frame} (rest : List Token)
    (fits : frames.length + 1 ≤ limit) (deep : limit < frames.length + 1 + entryDepth entries) :
    (entryTokens entries ++ rest).foldlM (stepWithin (some limit)) ⟨.map [] :: frames, .keyOrClose, none⟩ =
      .error .tooDeep := by
  cases entries with
  | nil =>
    rw [entryDepth] at deep
    omega
  | cons e others =>
    obtain ⟨k, v⟩ := e
    rw [entryDepth] at deep
    rw [entryTokens, List.cons_append, List.cons_append, run_firstKey _ (by simpa using fits), List.append_assoc]
    by_cases first : limit < frames.length + 1 + depth v
    · exact deep_tokens v (.entry [] (keyName k).joined :: frames) (.inl rfl) _ fits first
    · have done := @run_tokens (some limit) v (.entry [] (keyName k).joined :: frames) _ _ (.inl rfl) rfl
        (by simpa using Nat.le_of_not_lt first)
      rw [run_append _ done]
      exact deep_moreEntries others _ rest fits (by omega)

theorem deep_moreEntries (entries done : List (Value × Value)) {frames : List Frame} (rest : List Token)
    (fits : frames.length + 1 ≤ limit) (deep : limit < frames.length + 1 + entryDepth entries) :
    (moreEntryTokens entries ++ rest).foldlM (stepWithin (some limit)) ⟨.map done :: frames, .separator, none⟩ =
      .error .tooDeep := by
  cases entries with
  | nil =>
    rw [entryDepth] at deep
    omega
  | cons e others =>
    obtain ⟨k, v⟩ := e
    rw [entryDepth] at deep
    rw [moreEntryTokens, List.cons_append, List.cons_append, List.cons_append, run_key _ (by simpa using fits),
      List.append_assoc]
    by_cases first : limit < frames.length + 1 + depth v
    · exact deep_tokens v (.entry done (keyName k).joined :: frames) (.inl rfl) _ fits first
    · have next := @run_tokens (some limit) v (.entry done (keyName k).joined :: frames) _ _ (.inl rfl) rfl
        (by simpa using Nat.le_of_not_lt first)
      rw [run_append _ next]
      exact deep_moreEntries others _ rest fits (by omega)

end

end Deep

end ValueState

theorem scan_text {room : Option Nat} {v : Value} {cs : List Char} (h : write room v = .ok cs) :
    scan (String.ofList cs) = (tokens v, true) := by
  have scanned := @scan_write v room cs h [] [] (by simp [Follows])
  rw [List.append_nil, List.append_nil] at scanned
  rw [scan, Text.points, String.toList_ofList]
  refine scanned.trans ?_
  simp [scanChars, scanFrom, TokenState.finish?]

/-- A text that a value was written as is read as what writing keeps of the value. -/
theorem read_write {room : Option Nat} {v : Value} {cs : List Char} (h : write room v = .ok cs)
    (fits : nesting.all (depth v ≤ ·) = true) : read nesting (String.ofList cs) = .ok (normal v) := by
  have ran : (tokens v).foldlM (ValueState.stepWithin nesting) {} = .ok ⟨[], .separator, some (normal v)⟩ :=
    ValueState.run_tokens v [] (.inl rfl) rfl (fits_of_le fits (by simp))
  rw [read, scan_text h]
  dsimp only
  rw [ran]
  rfl

/-- A text that a value was written as is read as what writing keeps of the value, or refused where the value is deeper
than a text may nest. -/
theorem read_written {room : Option Nat} {v : Value} {cs : List Char} (h : write room v = .ok cs) (nesting : Option Nat) :
    read nesting (String.ofList cs) =
      if nesting.all (depth v ≤ ·) then .ok (normal v) else .error .tooDeep := by
  split
  · rename_i fits
    exact read_write h fits
  · rename_i deep
    cases nesting with
    | none => exact absurd rfl deep
    | some limit =>
      have deeper : limit < 0 + depth v := by simpa using deep
      have ran := ValueState.deep_tokens v [] (.inl rfl) [] (Nat.zero_le limit) deeper
      rw [List.append_nil] at ran
      rw [read, scan_text h]
      dsimp only
      rw [show ({} : ValueState) = ⟨[], .value, none⟩ from rfl, ran]
      rfl

end RecordStore.Json
