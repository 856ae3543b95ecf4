import Tca.StorageSchema

/-!
# Storing normalized items

`upsert_item` inserts an item for a channel message or, if the message has one,
updates it.  The statement is split into the row that it writes, with the
constraints that SQLite checks on it, and the write itself.
-/

namespace Tca

open TableRows Transaction

/-- The arguments of `upsert_item`. -/
structure ItemValues where
  channelId : Int
  messageId : Int
  rawMessageId : Option Int
  publishedAt : Option Timestamp
  title : Option String
  body : Option String
  canonicalUrl : Option String
  canonicalUrlHash : Option String
  contentHash : Option String
  deriving DecidableEq

namespace ItemValues

variable (values : ItemValues)

/-- The conflict target of the statement. -/
def conflictsWith (row : ItemRow) : Bool :=
  row.channelId = values.channelId ∧ row.messageId = values.messageId

/-- The row that `INSERT` adds. -/
def insertedRow (id : Int) (createdAt : String) : ItemRow where
  id := id
  channelId := values.channelId
  messageId := values.messageId
  rawMessageId := values.rawMessageId
  publishedAt := values.publishedAt
  title := values.title
  body := values.body
  canonicalUrl := values.canonicalUrl
  canonicalUrlHash := values.canonicalUrlHash
  contentHash := values.contentHash
  createdAt := createdAt

/-- The row that `DO UPDATE` makes of a stored one. -/
def updatedRow (row : ItemRow) : ItemRow :=
  { row with
    rawMessageId := row.rawMessageId.or values.rawMessageId
    publishedAt := values.publishedAt
    title := values.title
    body := values.body
    canonicalUrl := values.canonicalUrl
    canonicalUrlHash := values.canonicalUrlHash
    contentHash := values.contentHash }

end ItemValues

/-- How an item is written. -/
inductive ItemWrite where
  | insert (row : ItemRow)
  | replace (old row : ItemRow)
  deriving DecidableEq

/-- The row that is written. -/
def ItemWrite.row : ItemWrite → ItemRow
  | .insert row | .replace _ row => row

namespace Database

variable (db : Database)

/-- Another item refers to the same raw message. -/
def RawMessageTaken (row : ItemRow) : Prop :=
  ∃ other ∈ db.items, other.id ≠ row.id ∧ row.rawMessageId ≠ none ∧
    other.rawMessageId = row.rawMessageId

instance (row : ItemRow) : Decidable (db.RawMessageTaken row) :=
  inferInstanceAs (Decidable (∃ other ∈ db.items, _))

/-- The write that the statement comes down to, at the time
`CURRENT_TIMESTAMP`. -/
def upsertWrite (values : ItemValues) (now : String) : ItemWrite :=
  match db.items.find? values.conflictsWith with
  | some row => .replace row (values.updatedRow row)
  | none => .insert (values.insertedRow (nextRowid db.itemIds) now)

/-- The constraints of the written row: the unique raw message and the foreign
keys. -/
def checkItem (row : ItemRow) : Except PyError Unit :=
  if db.RawMessageTaken row then
    .error (.integrityError "UNIQUE constraint failed: items.raw_message_id")
  else if row.channelId ∈ db.channelIds ∧
      ResolvesIn db.rawMessageIds row.rawMessageId then .ok ()
  else .error (.integrityError "FOREIGN KEY constraint failed")

def writeItem : ItemWrite → Database
  | .insert row => { db with items := db.items ++ [row] }
  | .replace old row =>
      { db with
        items := db.items.map fun stored =>
          if stored.id = old.id then row else stored }

end Database

/-- Insert or update a normalized item for a channel message id. -/
def upsertItem (values : ItemValues) (now : String) :
    StorageTransaction ItemRow := do
  bindIntegers
    ([values.channelId, values.messageId] ++ values.rawMessageId.toList)
  let db ← query fun db => db
  let write := db.upsertWrite values now
  match db.checkItem write.row with
  | .error problem => raise problem
  | .ok _ =>
      update fun db => db.writeItem write
      commit
      return write.row

namespace Database

variable {db : Database} {values : ItemValues} {now : String}

/-- What the statement writes keeps the row ids apart. -/
theorem itemIds_writeItem_nodup (nodup : db.itemIds.Nodup) :
    (db.writeItem (db.upsertWrite values now)).itemIds.Nodup := by
  unfold upsertWrite
  split
  · rename_i row found
    have sameIds : (db.writeItem (.replace row (values.updatedRow row))).itemIds =
        db.itemIds := by
      simp only [itemIds, writeItem, List.map_map]
      refine List.map_congr_left fun stored _ => ?_
      by_cases isRow : stored.id = row.id
      · simp [isRow, ItemValues.updatedRow]
      · simp [isRow]
    rw [sameIds]
    exact nodup
  · have added : (db.writeItem (.insert (values.insertedRow
        (nextRowid db.itemIds) now))).itemIds =
        db.itemIds ++ [nextRowid db.itemIds] := by
      simp [itemIds, writeItem, ItemValues.insertedRow]
    rw [added]
    exact nodup_append_fresh nodup (nextRowid_notMem _)

end Database

end Tca
