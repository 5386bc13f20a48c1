import RuleFixtures.Act
import RuleFixtures.Files

/-!
What a run sees and changes: the files of its working directory, a backend, the text printed so
far and the notes on the error stream.

* `Note` is a log event or a text; `Session.errorText` is the error stream as one text.
* `Session.print`, `Session.tell` and `Session.changeFiles` are steps that write to the output, to
  the error stream and to the files. Log events are noted from a threshold on.
-/

namespace RuleFixtures

/-- An item on the error stream. -/
inductive Note where
  | logged (event : Log.Event)
  | told (text : String)
  deriving DecidableEq

/-- The text of a note; a log event takes a line, with a time stamp. -/
def Note.display (stamp : String) : Note → String
  | .logged event => event.line stamp ++ "\n"
  | .told text => text

/-- The state of a run against a backend. -/
structure Session (β : Type) where
  files : Files
  backend : β
  printed : String := ""
  notes : List Note := []
  /-- The rank of the least events that are noted. -/
  threshold : Nat := Log.Level.warning.rank

namespace Session

variable {β : Type}

/-- A log event is noted when its level reaches the threshold. -/
instance : Log.Journal (Session β) where
  record event session :=
    if session.threshold ≤ event.level.rank then
      { session with notes := session.notes ++ [.logged event] }
    else session

/-- The error stream as one text. -/
def errorText (session : Session β) (stamp : String) : String :=
  String.join (session.notes.map (Note.display stamp))

/-- Prints a text. -/
def print (text : String) : Act (Session β) Unit := fun session =>
  (.ok (), { session with printed := session.printed ++ text })

/-- Writes a text to the error stream. -/
def tell (text : String) : Act (Session β) Unit := fun session =>
  (.ok (), { session with notes := session.notes ++ [.told text] })

/-- Writes a message to the error stream, unless its markup is at fault. -/
def tellMessage (message : Except MarkupFault String) : Act (Session β) Unit := do
  tell (← Act.ofExcept (message.mapError .markup))

/-- Logs events from a threshold on. -/
def setThreshold (threshold : Nat) : Act (Session β) Unit := fun session =>
  (.ok (), { session with threshold })

/-- Changes the files, or ends with the fault of the change. -/
def changeFiles (change : Files → Except FileFault Files) : Act (Session β) Unit := fun session =>
  match change session.files with
  | .ok files => (.ok (), { session with files })
  | .error fault => (.error (.file fault), session)

/-- The files as they are. -/
def currentFiles : Act (Session β) Files := fun session => (.ok session.files, session)

end Session

end RuleFixtures
