import Tca.KeyedTables

/-!
# Tables of encoded values

A repository keeps under each key the text of a value.  It encodes the value
before it runs a statement and decodes the row that the statement returns.  The
file compares the table with the dictionary of the values: as long as decoding
undoes encoding, nobody can tell them apart.
-/

namespace Tca.EncodedTables

variable {Key Value Text Problem : Type}

/-- How values become texts, and what is raised for a key that is taken. -/
structure Codec (Key Value Text Problem : Type) where
  encode (key : Key) (value : Value) : Except Problem Text
  decode (key : Key) (text : Text) : Except Problem Value
  alreadyExists (key : Key) : Problem

inductive Operation (Key Value : Type) where
  | create (key : Key) (value : Value)
  | getByKey (key : Key)
  | update (key : Key) (value : Value)
  | upsert (key : Key) (value : Value)
  | deleteIfValueMatches (key : Key) (value : Value)
  | delete (key : Key)

/-- What an operation returns or raises. -/
inductive Outcome (Key Value Problem : Type) where
  | record (key : Key) (value : Value)
  | missing
  | matched (deleted : Bool)
  | done
  | raised (problem : Problem)

/-- The values that an operation is given. -/
def Operation.Carries (Valid : Value → Prop) : Operation Key Value → Prop
  | .create _ value => Valid value
  | .update _ value => Valid value
  | .upsert _ value => Valid value
  | .deleteIfValueMatches _ value => Valid value
  | .getByKey _ => True
  | .delete _ => True

abbrev Table (Key Text : Type) : Type :=
  KeyedTable (Key × Text) Prod.fst

section Repository

variable [DecidableEq Key] [DecidableEq Text]
  (codec : Codec Key Value Text Problem)

/-- The record of a row. -/
def decodeRow (row : Key × Text) : Outcome Key Value Problem :=
  match codec.decode row.1 row.2 with
  | .ok value => .record row.1 value
  | .error problem => .raised problem

/-- The record of the row that a statement returned, if there is one. -/
def decodeOptional : Option (Key × Text) → Outcome Key Value Problem
  | some row => decodeRow codec row
  | none => .missing

/-- `UPDATE ... SET value = :value WHERE key = :key`. -/
def writeText (table : Table Key Text) (key : Key) (text : Text) :
    Table Key Text :=
  table.updateWhere (fun row => row.1 = key) (fun row => (row.1, text))
    fun _ => rfl

/-- The operations of the repository. -/
def perform : Operation Key Value → Table Key Text →
    Outcome Key Value Problem × Table Key Text
  | .create key value, table =>
      match codec.encode key value with
      | .error problem => (.raised problem, table)
      | .ok text =>
          if unused : key ∉ table.keys then
            (decodeRow codec (key, text), table.insert (key, text) unused)
          else (.raised (codec.alreadyExists key), table)
  | .getByKey key, table => (decodeOptional codec (table.find? key), table)
  | .update key value, table =>
      match codec.encode key value with
      | .error problem => (.raised problem, table)
      | .ok text =>
          let later := writeText table key text
          (decodeOptional codec (later.find? key), later)
  | .upsert key value, table =>
      match codec.encode key value with
      | .error problem => (.raised problem, table)
      | .ok text =>
          (decodeRow codec (key, text),
            table.upsert (key, text) (fun row => (row.1, text)) fun _ => rfl)
  | .deleteIfValueMatches key value, table =>
      match codec.encode key value with
      | .error problem => (.raised problem, table)
      | .ok text =>
          (.matched (table.rows.any fun row => row.1 = key ∧ row.2 = text),
            table.deleteWhere fun row => row.1 = key ∧ row.2 = text)
  | .delete key, table => (.done, table.deleteWhere fun row => row.1 = key)

end Repository

/-- What the table stands for. -/
abbrev Dictionary (Key Value : Type) : Type :=
  Key → Option Value

section Dictionaries

open Classical

variable [DecidableEq Key] (codec : Codec Key Value Text Problem)

/-- What the operations mean: a value that can be encoded is stored as it is. -/
noncomputable def specify : Operation Key Value → Dictionary Key Value →
    Outcome Key Value Problem × Dictionary Key Value
  | .create key value, dictionary =>
      match codec.encode key value, dictionary key with
      | .error problem, _ => (.raised problem, dictionary)
      | .ok _, some _ => (.raised (codec.alreadyExists key), dictionary)
      | .ok _, none =>
          (.record key value, Function.update dictionary key (some value))
  | .getByKey key, dictionary =>
      match dictionary key with
      | some value => (.record key value, dictionary)
      | none => (.missing, dictionary)
  | .update key value, dictionary =>
      match codec.encode key value, dictionary key with
      | .error problem, _ => (.raised problem, dictionary)
      | .ok _, some _ =>
          (.record key value, Function.update dictionary key (some value))
      | .ok _, none => (.missing, dictionary)
  | .upsert key value, dictionary =>
      match codec.encode key value with
      | .error problem => (.raised problem, dictionary)
      | .ok _ =>
          (.record key value, Function.update dictionary key (some value))
  | .deleteIfValueMatches key value, dictionary =>
      match codec.encode key value with
      | .error problem => (.raised problem, dictionary)
      | .ok _ =>
          if dictionary key = some value then
            (.matched true, Function.update dictionary key none)
          else (.matched false, dictionary)
  | .delete key, dictionary => (.done, Function.update dictionary key none)

end Dictionaries

section Runs

variable {Operation Outcome State Other : Type}

/-- The outcomes of operations one after the other, and the last state. -/
def outcomes (step : Operation → State → Outcome × State) :
    List Operation → State → List Outcome × State
  | [], state => ([], state)
  | operation :: operations, state =>
      let (outcome, later) := step operation state
      let (others, last) := outcomes step operations later
      (outcome :: others, last)

/-- Two machines whose steps agree on related states cannot be told apart. -/
theorem outcomes_agree {step : Operation → State → Outcome × State}
    {other : Operation → Other → Outcome × Other}
    {related : State → Other → Prop} {allowed : Operation → Prop}
    (agree : ∀ operation state second, allowed operation →
      related state second →
        (step operation state).1 = (other operation second).1 ∧
          related (step operation state).2 (other operation second).2)
    {operations : List Operation}
    (areAllowed : ∀ operation ∈ operations, allowed operation)
    {state : State} {second : Other} (initially : related state second) :
    (outcomes step operations state).1 =
        (outcomes other operations second).1 ∧
      related (outcomes step operations state).2
        (outcomes other operations second).2 := by
  induction operations generalizing state second with
  | nil => exact ⟨rfl, initially⟩
  | cons operation operations ih =>
      obtain ⟨isAllowed, othersAllowed⟩ := List.forall_mem_cons.mp areAllowed
      obtain ⟨sameOutcome, relatedLater⟩ :=
        agree operation state second isAllowed initially
      obtain ⟨sameOutcomes, relatedLast⟩ := ih othersAllowed relatedLater
      refine ⟨?_, relatedLast⟩
      simp only [outcomes]
      rw [sameOutcome, sameOutcomes]

end Runs

section Representation

variable [DecidableEq Key] (codec : Codec Key Value Text Problem)
  (Valid : Value → Prop)

/-- Decoding undoes the encoding of valid values. -/
def Codec.Recovers : Prop :=
  ∀ key value text, Valid value → codec.encode key value = .ok text →
    codec.decode key text = .ok value

/-- The row has the text of the value. -/
structure Encodes (row : Key × Text) (value : Value) : Prop where
  valid : Valid value
  encoded : codec.encode row.1 value = .ok row.2

/-- Under each key stands the text of its value. -/
def Represents (table : Table Key Text) (dictionary : Dictionary Key Value) :
    Prop :=
  ∀ key, Option.Rel (Encodes codec Valid) (table.find? key) (dictionary key)

variable {codec Valid} {table : Table Key Text}
  {dictionary : Dictionary Key Value} {key : Key} {value : Value} {text : Text}

theorem Represents.empty :
    Represents codec Valid ⟨[], List.nodup_nil⟩ fun _ => none :=
  fun _ => .none

theorem Represents.cases (represents : Represents codec Valid table dictionary)
    (key : Key) :
    (table.find? key = none ∧ dictionary key = none) ∨
      ∃ text value, table.find? key = some (key, text) ∧
        dictionary key = some value ∧ Encodes codec Valid (key, text) value := by
  have related := represents key
  cases found : table.find? key with
  | none =>
      cases known : dictionary key with
      | none => exact .inl ⟨rfl, rfl⟩
      | some value =>
          rw [found, known] at related
          cases related
  | some row =>
      cases known : dictionary key with
      | none =>
          rw [found, known] at related
          cases related
      | some value =>
          rw [found, known] at related
          obtain ⟨encodes⟩ := related
          obtain ⟨rowKey, text⟩ := row
          obtain rfl := (KeyedTable.find?_eq_some_iff.mp found).2
          exact .inr ⟨text, value, rfl, rfl, encodes⟩

/-- A table that finds one row instead, and otherwise what it did. -/
theorem Represents.put (represents : Represents codec Valid table dictionary)
    {later : Table Key Text} (encodes : Encodes codec Valid (key, text) value)
    (finds : ∀ other, later.find? other =
      if other = key then some (key, text) else table.find? other) :
    Represents codec Valid later
      (Function.update dictionary key (some value)) := by
  intro other
  rw [finds]
  by_cases same : other = key
  · rw [if_pos same, same, Function.update_self]
    exact .some encodes
  · rw [if_neg same, Function.update_of_ne same]
    exact represents other

/-- A table that finds one row no more. -/
theorem Represents.drop (represents : Represents codec Valid table dictionary)
    {later : Table Key Text}
    (finds : ∀ other, later.find? other =
      if other = key then none else table.find? other) :
    Represents codec Valid later (Function.update dictionary key none) := by
  intro other
  rw [finds]
  by_cases same : other = key
  · rw [if_pos same, same, Function.update_self]
    exact .none
  · rw [if_neg same, Function.update_of_ne same]
    exact represents other

section Agreement

variable [DecidableEq Text]

/-- An operation has the same outcome for the table and for the dictionary, and
leaves the one representing the other. -/
def Agrees (codec : Codec Key Value Text Problem) (Valid : Value → Prop)
    (operation : Operation Key Value) (table : Table Key Text)
    (dictionary : Dictionary Key Value) : Prop :=
  (perform codec operation table).1 = (specify codec operation dictionary).1 ∧
    Represents codec Valid (perform codec operation table).2
      (specify codec operation dictionary).2

end Agreement

variable (recovers : codec.Recovers Valid)

include recovers

omit [DecidableEq Key] in
theorem decodeRow_of_encodes (encodes : Encodes codec Valid (key, text) value) :
    decodeRow codec (key, text) = .record key value := by
  rw [decodeRow, recovers key value text encodes.valid encodes.encoded]

omit [DecidableEq Key] in
/-- Valid values with one text are one value. -/
theorem Encodes.unique {other : Value}
    (encodes : Encodes codec Valid (key, text) value)
    (encodesOther : Encodes codec Valid (key, text) other) : value = other := by
  have decoded := recovers key value text encodes.valid encodes.encoded
  rw [recovers key other text encodesOther.valid encodesOther.encoded]
    at decoded
  exact (Except.ok.inj decoded).symm

variable [DecidableEq Text]

theorem perform_create (represents : Represents codec Valid table dictionary)
    (valid : Valid value) :
    Agrees codec Valid (.create key value) table dictionary := by
  unfold Agrees perform specify
  dsimp only
  cases encoded : codec.encode key value with
  | error problem => exact ⟨rfl, represents⟩
  | ok text =>
      dsimp only
      have encodes : Encodes codec Valid (key, text) value := ⟨valid, encoded⟩
      rcases represents.cases key with ⟨absent, unknown⟩ |
        ⟨stored, known, found, isKnown, -⟩
      · have unused := KeyedTable.find?_eq_none_iff.mp absent
        rw [unknown]
        dsimp only
        rw [dif_pos unused]
        refine ⟨decodeRow_of_encodes recovers encodes, represents.put encodes ?_⟩
        exact fun other => @KeyedTable.find?_insert _ _ _ table _ other
          (key, text) unused
      · have used : ¬ key ∉ table.keys :=
          not_not.mpr (KeyedTable.mem_keys_of_find? found)
        rw [isKnown]
        dsimp only
        rw [dif_neg used]
        exact ⟨rfl, represents⟩

omit recovers [DecidableEq Text] in
theorem find?_writeText (other : Key) :
    (writeText table key text).find? other =
      if other = key then (table.find? key).map fun _ => (key, text)
      else table.find? other := by
  rw [writeText, KeyedTable.find?_updateWhere]
  cases found : table.find? other with
  | none =>
      split
      · rename_i same
        rw [← same, found]
        rfl
      · rfl
  | some row =>
      have isOther := (KeyedTable.find?_eq_some_iff.mp found).2
      split
      · rename_i same
        subst same
        simp [found, isOther]
      · rename_i different
        simp [isOther, different]

omit recovers [DecidableEq Text] in
/-- Deleting the row that a key finds. -/
theorem find?_deleteWhere_key {condition : Key × Text → Bool}
    (onlyKey : ∀ row, condition row = true → row.1 = key)
    (meets : ∀ row, table.find? key = some row → condition row = true)
    (other : Key) :
    (table.deleteWhere condition).find? other =
      if other = key then none else table.find? other := by
  rw [KeyedTable.find?_deleteWhere]
  cases found : table.find? other with
  | none => simp
  | some row =>
      have isOther := (KeyedTable.find?_eq_some_iff.mp found).2
      split
      · rename_i same
        subst same
        simp [meets row found]
      · rename_i different
        have unmet : condition row = false := by
          rw [Bool.eq_false_iff]
          exact fun met => different (isOther.symm.trans (onlyKey row met))
        simp [unmet]

theorem perform_update (represents : Represents codec Valid table dictionary)
    (valid : Valid value) :
    Agrees codec Valid (.update key value) table dictionary := by
  unfold Agrees perform specify
  dsimp only
  cases encoded : codec.encode key value with
  | error problem => exact ⟨rfl, represents⟩
  | ok text =>
      dsimp only
      have encodes : Encodes codec Valid (key, text) value := ⟨valid, encoded⟩
      rcases represents.cases key with ⟨absent, unknown⟩ |
        ⟨stored, known, found, isKnown, -⟩
      · have unchanged : ∀ other, (writeText table key text).find? other =
            table.find? other := by
          intro other
          rw [find?_writeText, absent]
          split
          · rename_i same
            rw [same, absent]
            rfl
          · rfl
        rw [unknown]
        dsimp only
        rw [unchanged, absent]
        refine ⟨rfl, fun other => ?_⟩
        rw [unchanged]
        exact represents other
      · have finds : ∀ other, (writeText table key text).find? other =
            if other = key then some (key, text) else table.find? other := by
          intro other
          rw [find?_writeText, found]
          rfl
        rw [isKnown]
        dsimp only
        rw [finds key, if_pos rfl]
        exact ⟨decodeRow_of_encodes recovers encodes,
          represents.put encodes finds⟩

theorem perform_upsert (represents : Represents codec Valid table dictionary)
    (valid : Valid value) :
    Agrees codec Valid (.upsert key value) table dictionary := by
  unfold Agrees perform specify
  dsimp only
  cases encoded : codec.encode key value with
  | error problem => exact ⟨rfl, represents⟩
  | ok text =>
      dsimp only
      have encodes : Encodes codec Valid (key, text) value := ⟨valid, encoded⟩
      refine ⟨decodeRow_of_encodes recovers encodes, represents.put encodes ?_⟩
      intro other
      rw [KeyedTable.find?_upsert]
      split
      · cases found : table.find? key with
        | none => rfl
        | some row =>
            have isKey := (KeyedTable.find?_eq_some_iff.mp found).2
            simp [isKey]
      · rfl

theorem perform_deleteIfValueMatches
    (represents : Represents codec Valid table dictionary)
    (valid : Valid value) :
    Agrees codec Valid (.deleteIfValueMatches key value) table dictionary := by
  unfold Agrees perform specify
  dsimp only
  cases encoded : codec.encode key value with
  | error problem => exact ⟨rfl, represents⟩
  | ok text =>
      dsimp only
      have encodes : Encodes codec Valid (key, text) value := ⟨valid, encoded⟩
      -- the statement finds the row under the key, if that has the text
      have matches_iff : (table.rows.any fun row =>
          decide (row.1 = key ∧ row.2 = text)) = true ↔
            dictionary key = some value := by
        rw [List.any_eq_true]
        constructor
        · rintro ⟨⟨rowKey, rowText⟩, stored, isRow⟩
          obtain ⟨rfl, rfl⟩ := of_decide_eq_true isRow
          have found := KeyedTable.find?_eq_some_iff.mpr
            (show (rowKey, rowText) ∈ table.rows ∧ _ from ⟨stored, rfl⟩)
          rcases represents.cases rowKey with ⟨absent, -⟩ |
            ⟨other, known, foundOther, isKnown, encodesKnown⟩
          · rw [absent] at found
            cases found
          · obtain rfl : rowText = other := by
              rw [foundOther] at found
              exact (Prod.mk.inj (Option.some.inj found)).2.symm
            rw [isKnown, encodesKnown.unique recovers encodes]
        · intro isKnown
          rcases represents.cases key with ⟨-, unknown⟩ |
            ⟨stored, known, found, isStored, encodesStored⟩
          · rw [unknown] at isKnown
            cases isKnown
          · obtain rfl := Option.some.inj (isStored.symm.trans isKnown)
            have sameText := encodesStored.encoded.symm.trans encoded
            obtain rfl : stored = text := Except.ok.inj sameText
            exact ⟨(key, stored), (KeyedTable.find?_eq_some_iff.mp found).1,
              decide_eq_true ⟨rfl, rfl⟩⟩
      by_cases isKnown : dictionary key = some value
      · rw [if_pos isKnown]
        refine ⟨by rw [matches_iff.mpr isKnown], represents.drop ?_⟩
        rcases represents.cases key with ⟨-, unknown⟩ |
          ⟨stored, known, found, isStored, encodesStored⟩
        · rw [unknown] at isKnown
          cases isKnown
        · obtain rfl := Option.some.inj (isStored.symm.trans isKnown)
          have sameText := encodesStored.encoded.symm.trans encoded
          obtain rfl : stored = text := Except.ok.inj sameText
          apply find?_deleteWhere_key
          · exact fun row met => (of_decide_eq_true met).1
          · intro row isRow
            obtain rfl := Option.some.inj (found.symm.trans isRow)
            exact decide_eq_true ⟨rfl, rfl⟩
      · have noMatch : (table.rows.any fun row =>
            decide (row.1 = key ∧ row.2 = text)) = false := by
          rw [Bool.eq_false_iff]
          exact fun matched => isKnown (matches_iff.mp matched)
        have unchanged : table.deleteWhere
            (fun row => decide (row.1 = key ∧ row.2 = text)) = table := by
          obtain ⟨rows, uniqueKeys⟩ := table
          simp only [KeyedTable.deleteWhere, KeyedTable.mk.injEq]
          apply List.filter_eq_self.mpr
          intro row stored
          have differs := List.any_eq_false.mp noMatch row stored
          rw [Bool.not_eq_true] at differs
          rw [differs]
          rfl
        rw [if_neg isKnown, noMatch, unchanged]
        exact ⟨rfl, represents⟩

/-- The table does what its dictionary says. -/
theorem perform_specify (represents : Represents codec Valid table dictionary)
    (operation : Operation Key Value) (carries : operation.Carries Valid) :
    Agrees codec Valid operation table dictionary := by
  cases operation with
  | create key value => exact perform_create recovers represents carries
  | update key value => exact perform_update recovers represents carries
  | upsert key value => exact perform_upsert recovers represents carries
  | deleteIfValueMatches key value =>
      exact perform_deleteIfValueMatches recovers represents carries
  | getByKey key =>
      unfold Agrees perform specify
      dsimp only
      rcases represents.cases key with ⟨absent, unknown⟩ |
        ⟨stored, known, found, isKnown, encodes⟩
      · rw [absent, unknown]
        exact ⟨rfl, represents⟩
      · rw [found, isKnown]
        exact ⟨decodeRow_of_encodes recovers encodes, represents⟩
  | delete key =>
      refine ⟨rfl, represents.drop ?_⟩
      apply find?_deleteWhere_key
      · exact fun row met => of_decide_eq_true met
      · intro row isRow
        exact decide_eq_true (KeyedTable.find?_eq_some_iff.mp isRow).2

end Representation

end Tca.EncodedTables
