import Copybook.Text.Case

/-!
Log records: their levels, the channels on which parts of the library write them, and how a console
shows those that pass a threshold. -/
namespace Copybook
namespace Log

inductive Level
  | debug | info | warning | error | critical
  deriving DecidableEq, Repr

def Level.weight : Level → Nat
  | .debug => 10
  | .info => 20
  | .warning => 30
  | .error => 40
  | .critical => 50

def Level.word : Level → Text
  | .debug => "DEBUG"
  | .info => "INFO"
  | .warning => "WARNING"
  | .error => "ERROR"
  | .critical => "CRITICAL"

def Level.all : List Level := [.debug, .info, .warning, .error, .critical]

def Level.ofWord? (t : Text) : Option Level := Level.all.find? fun l => l.word == t.upper

def Level.methods : List (Text × Level) :=
  [("debug", .debug), ("info", .info), ("warning", .warning), ("warn", .warning),
   ("error", .error), ("exception", .error), ("critical", .critical), ("fatal", .critical)]

namespace Channel

def classifier : Text := "classifier"

def declarations : Text := "declarations"

def rules : Text := "rules"

def status : Text := "status"

def readers : Text := "readers"

def copybooks : Text := "readers.cobol"

def runs : Text := "main"

/-- The name under which a channel's records appear; the channel without a name is above all. -/
def fullName (channel : Text) : Text :=
  if channel.isEmpty then "cobol_dataimport" else "cobol_dataimport." ++ channel

end Channel

structure Record where
  level : Level
  channel : Text
  message : Text
  deriving DecidableEq, Repr

/-- The record that a word writes; the word for exceptions adds that there was none. -/
def Record.ofMethod? (method channel message : Text) : Option Record :=
  let ending : Text :=
    if method != ("exception" : Text) then []
    else if message.getLast? = some '\n' then "NoneType: None"
    else "\nNoneType: None"
  (Level.methods.lookup method).map fun level => ⟨level, channel, message ++ ending⟩

/-- What a level name stands for: a weight, or something else of that name that is none. -/
inductive Named
  | weight (n : Nat)
  | otherText (t : Text)
  | otherValue
  deriving DecidableEq, Repr

def levelNames : List (Text × Named) :=
  [("CRITICAL", .weight 50), ("FATAL", .weight 50), ("ERROR", .weight 40), ("WARN", .weight 30),
   ("WARNING", .weight 30), ("INFO", .weight 20), ("DEBUG", .weight 10), ("NOTSET", .weight 0),
   ("BASIC_FORMAT", .otherText "%(levelname)s:%(name)s:%(message)s"), ("_STYLES", .otherValue)]

/-- What a level name in any case stands for; an unknown one counts as INFO. -/
def named (name : Text) : Named := (levelNames.lookup name.upper).getD (.weight 20)

/-- The least weight that is shown at a level; no level means warnings and above. -/
def threshold (weight : Nat) : Nat := if weight = 0 then 30 else weight

/-- The level name that two switches choose; with neither it is the default in capitals. -/
def levelFor (verbose quiet : Bool) (default : Text) : Text :=
  if verbose then "DEBUG" else if quiet then "ERROR" else default.upper

def simpleLine (r : Record) : Text := r.level.word ++ ": " ++ r.message ++ ['\n']

def detailedLine (time : Text) (r : Record) : Text :=
  Text.join " - " [time, Channel.fullName r.channel, r.level.word, r.message] ++ ['\n']

def console (weight : Nat) (detailed : Bool) (time : Text) (records : List Record) : Text :=
  (records.filter fun r => threshold weight ≤ r.level.weight).flatMap
    (if detailed then detailedLine time else simpleLine)

end Log
end Copybook
