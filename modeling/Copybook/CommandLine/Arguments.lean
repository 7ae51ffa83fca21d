import Copybook.CommandLine.Token
import Copybook.Log
import Copybook.Settings

/-!
What a command line asks for. Switches take effect in the order in which they are written, and words
that belong to none of them are refused at the end. -/
namespace Copybook
namespace CommandLine

inductive Stop
  | help
  | version
  | refused (r : Refusal)
  deriving DecidableEq, Repr

structure Arguments where
  settings : Settings := .default
  config : Option Path := none

/-- Switches of one word: those without a value, then perhaps one with its value in the same word or
in the next. -/
structure Bundle where
  flags : List Switch := []
  valued : Option (Switch × Option Text) := none
  deriving DecidableEq, Repr

namespace Bundle

def single (s : Switch) : Bundle :=
  if s.takesValue then { valued := some (s, none) } else { flags := [s] }

def behind (s : Switch) (b : Bundle) : Bundle := { b with flags := s :: b.flags }

/-- Short switches that are written together: `s`, with the given text attached. -/
def together (s : Switch) : Text → Except Refusal Bundle
  | [] => if s.takesValue then .ok { valued := some (s, some []) } else .error (.unwantedValue s [])
  | c :: rest =>
    if s.takesValue then .ok { valued := some (s, some (c :: rest)) }
    else match Switch.ofName? ['-', c] with
      | none => .error (.unwantedValue s (c :: rest))
      | some next =>
        if rest.isEmpty then .ok ((single next).behind s) else (together next rest).map (behind s)

def ofSwitch (s : Switch) (short : Bool) : Option Text → Except Refusal Bundle
  | none => .ok (single s)
  | some attached =>
    if short then together s attached
    else if s.takesValue then .ok { valued := some (s, some attached) }
    else .error (.unwantedValue s attached)

end Bundle

namespace Arguments

def set (key : Settings.Key) (setting : Setting) (a : Arguments) : Arguments :=
  { a with settings := a.settings.set key setting }

def takeFlag (s : Switch) (a : Arguments) : Except Stop Arguments :=
  match s with
  | .help => .error .help
  | .version => .error .version
  | s => match s.key? with
    | some key => .ok (a.set key (.value (.bool true)))
    | none => .ok a

def takeFlags : List Switch → Arguments → Except Stop Arguments
  | [], a => .ok a
  | s :: rest, a => do takeFlags rest (← takeFlag s a)

/-- The value that a word stands for; the mark behind which there are no switches stands for an empty
list. -/
def valueOf (word : Text) : Json.Value := if word = Token.separator then .list [] else .text word

/-- The setting that a value makes under a key, where `before` is what has been set there. -/
def settingOf (form : Settings.Form) (before : Setting) (v : Json.Value) : Setting :=
  match form, v with
  | .path, .text t => .path (Path.ofText t)
  | .paths, .text t => .several (before.list?.getD [] ++ [.path (Path.ofText t)])
  | .paths, v => .several (before.list?.getD [] ++ [.value v])
  | _, v => .value v

def caseWords : List Text := CaseMode.all.map CaseMode.word

def refusal? (s : Switch) (word : Text) : Option Refusal :=
  if s = .case && word != Token.separator && !caseWords.contains word then
    some (.badChoice s word caseWords)
  else none

def takeValue (s : Switch) (word : Text) (a : Arguments) : Except Stop Arguments :=
  match refusal? s word with
  | some refusal => .error (.refused refusal)
  | none =>
    match s.key? with
    | some key => .ok (a.set key (settingOf key.form (a.settings.get key) (valueOf word)))
    | none => .ok { a with config := if word = Token.separator then none else some (Path.ofText word) }

/-- Takes up tokens; words that belong to no switch pile up. -/
def take (a : Arguments) (stray : List Text) : List Token → Except Stop Arguments
  | [] => if stray.isEmpty then .ok a else .error (.refused (.unrecognized stray))
  | .plain word :: rest | .unknown word :: rest => take a (stray ++ [word]) rest
  | .switch s short attached :: rest =>
    match Bundle.ofSwitch s short attached with
    | .error refusal => .error (.refused refusal)
    | .ok b =>
      match b.valued, rest with
      | none, rest => do take (← takeFlags b.flags a) stray rest
      | some (s, some word), rest => do
        take (← takeValue s word (← takeFlags b.flags a)) stray rest
      | some (s, none), .plain word :: rest => do
        take (← takeValue s word (← takeFlags b.flags a)) stray rest
      | some (s, none), _ => .error (.refused (.noValue s))

def read (words : List Text) : Except Stop Arguments :=
  match Token.readAll words with
  | .error refusal => .error (.refused refusal)
  | .ok tokens => take {} [] tokens

/-- The settings that the command line itself gives; two switches decide the log level. -/
def given (a : Arguments) : Settings :=
  a.settings.set .logLevel (.value (.text
    (Log.levelFor a.settings.verbose.isTruthy a.settings.quiet.isTruthy "INFO")))

/-- The settings of the command line, laid over those of the configuration file if there is one. -/
def effective (depth : Json.Depth) (a : Arguments) (files : Files.Tree) : Except Fault Settings :=
  match a.config with
  | none => .ok a.given
  | some path => do
    match ← (files.look path).mapError .files with
    | none => return a.given
    | some _ => (← Settings.load depth files path).merge a.given

end Arguments
end CommandLine
end Copybook
