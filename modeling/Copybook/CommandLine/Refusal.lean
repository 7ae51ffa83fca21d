import Copybook.CommandLine.Switch
import Copybook.Text.Case

/-!
What can be wrong with a command line. -/
namespace Copybook
namespace CommandLine

inductive Refusal
  /-- A shortened name fits several switches. -/
  | ambiguous (word : Text) (names : List Text)
  | noValue (s : Switch)
  /-- A value is attached to a switch that takes none. -/
  | unwantedValue (s : Switch) (value : Text)
  /-- A value is none of those that the switch admits. -/
  | badChoice (s : Switch) (value : Text) (choices : List Text)
  | unrecognized (words : List Text)
  deriving DecidableEq, Repr

def Refusal.about (s : Switch) (complaint : Text) : Text := "argument " ++ s.label ++ ": " ++ complaint

def Refusal.message : Refusal → Text
  | .ambiguous word names =>
    "ambiguous option: " ++ word ++ " could match " ++ Text.join ", " names
  | .noValue s => about s "expected one argument"
  | .unwantedValue s value => about s ("ignored explicit argument " ++ value.quoted)
  | .badChoice s value choices =>
    about s ("invalid choice: " ++ value.quoted ++ " (choose from " ++
      Text.join ", " (choices.map Text.quoted) ++ ")")
  | .unrecognized words => "unrecognized arguments: " ++ Text.join [' '] words

end CommandLine
end Copybook
