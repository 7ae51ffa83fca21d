import Copybook.Text.Basic

/-!
The errors that a harvest reports about its subject matter: configuration, sources, rules, copybooks
and the reading of them. -/
namespace Copybook

inductive ProblemKind
  | configuration | source | grammar | malformed | io
  deriving DecidableEq, Repr

def ProblemKind.word : ProblemKind → Text
  | .configuration => "configuration"
  | .source => "source"
  | .grammar => "grammar"
  | .malformed => "syntax"
  | .io => "io"

inductive Problem
  | general (text : Text)
  | configuration (text : Text)
  | missingParameter (parameter : Text)
  | invalidParameter (parameter : Text)
  | emptyParameter (parameter : Text)
  | notConfigured (reader : Text)
  | typeMode (text : Text)
  | source (text : Text)
  | noCopybook (path : Text)
  | notAFile (path : Text)
  | noDirectory (path : Text)
  | notADirectory (path : Text)
  | rule (text : Text) (rule expression : Option Text)
  | malformed (text : Text) (file : Option Text) (line : Nat)
  | read (text : Text)
  deriving DecidableEq, Repr

namespace Problem

def kind : Problem → ProblemKind
  | .source _ | .noCopybook _ | .notAFile _ | .noDirectory _ | .notADirectory _ => .source
  | .rule _ _ _ => .grammar
  | .malformed _ _ _ => .malformed
  | .read _ => .io
  | _ => .configuration

def initialization (text : Text) : Text := "Initialization error: " ++ text

/-- A copybook that is known is named in front with the line. -/
def message : Problem → Text
  | .general text | .configuration text | .typeMode text | .source text | .read text => text
  | .missingParameter p => initialization ("parameter [" ++ p ++ "] missing")
  | .invalidParameter p => initialization ("invalid value for parameter [" ++ p ++ "]")
  | .emptyParameter p => initialization ("parameter [" ++ p ++ "] empty")
  | .notConfigured reader => "Reader " ++ reader ++ " is not configured"
  | .noCopybook path => initialization ("copybook " ++ path ++ " does not exist")
  | .notAFile path => initialization ("copybook " ++ path ++ " does not denote a file")
  | .noDirectory path => initialization ("directory " ++ path ++ " does not exist")
  | .notADirectory path => initialization ("directory " ++ path ++ " does not denote a directory")
  | .rule text _ _ => text
  | .malformed text none _ => text
  | .malformed text (some file) line =>
    if file.isEmpty then text else file ++ ":" ++ Text.ofNat line ++ ": " ++ text

end Problem
end Copybook
