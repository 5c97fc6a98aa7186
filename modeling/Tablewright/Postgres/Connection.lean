import Tablewright.Postgres.Message
import Tablewright.Store.Connection

/-!
# The connection to a PostgreSQL server

A connection with the replies that its server is going to give, in order, and the messages that were
sent. A server without replies left gives an empty one.
-/

namespace Tablewright

open Postgres

/-- The state of a connection to a server. -/
structure PostgresConnection where
  inTransaction : Bool := false
  replies : List Reply := []
  sent : List Message := []

namespace PostgresConnection

/-- Sends a message. -/
def send (message : Message) : StateM PostgresConnection Unit :=
  modify fun c => { c with sent := c.sent ++ [message] }

/-- Takes the next reply. -/
def takeReply : StateM PostgresConnection Reply := do
  let c ← get
  match c.replies with
  | [] => return []
  | reply :: replies =>
    set { c with replies }
    return reply

/-- A connection that has begun a transaction. -/
def begin (replies : List Reply) : PostgresConnection where
  inTransaction := true
  replies := replies
  sent := [.script "BEGIN"]

/-- Sends a command and answers the reply to it, with the form of its cells. Parameters are bound only
to a statement that the server accepts, and only the first part of a reply to it counts. -/
def submit (command : Command) : StateM PostgresConnection (CellFormat × Reply) := do
  if command.isScript then
    send (.script command.sql)
    return (.text, ← takeReply)
  else
    send (prepareMessage command)
    let reply ← takeReply
    if let some (.error _) := reply.head? then return (.binary, reply.take 1)
    send (bindMessage command)
    return (.binary, reply.take 1)

/-- The statement that loads rows. -/
def copyStatement (load : BulkLoad) : String :=
  "COPY " ++ load.table ++ " (" ++
    String.intercalate ", " (load.columns.map Dialect.postgres.quote) ++ ") FROM STDIN (FORMAT csv)"

/-- Loads rows into a table. -/
def bulkLoad (load : BulkLoad) : Operation PostgresConnection Nat := do
  let reply ← takeReply
  match reply.head? with
  | some (.error text) =>
    send (.copy (copyStatement load) none)
    throw (.database text)
  | _ =>
    send (.copy (copyStatement load) (some (rowChunks load.rows)))
    MonadExcept.ofExcept (replyCount (reply.take 1))

/-- The connection. -/
def connection : Connection PostgresConnection where
  dialect _ := .postgres
  inTransaction c := c.inTransaction
  isCancelled _ _ := false
  execute command := do
    let (_, reply) ← submit command
    MonadExcept.ofExcept (replyCount reply)
  fetch command := do
    let (format, reply) ← submit command
    return replyRows format reply
  bulkLoad := bulkLoad

end PostgresConnection

end Tablewright
