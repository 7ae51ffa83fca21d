import Copybook.Text.Case

/-!
The words of a data description entry. Every comparison ignores the case of letters. -/
namespace Copybook
namespace Word

def isOneOf (words : List Text) (word : Text) : Bool := words.contains word.upper

/-- Words that stand for storage formats also without the word USAGE. -/
def usageWords : List Text :=
  ["BINARY", "COMP", "COMP-1", "COMP-2", "COMP-3", "COMP-4", "COMP-5", "COMPUTATIONAL",
   "COMPUTATIONAL-1", "COMPUTATIONAL-2", "COMPUTATIONAL-3", "COMPUTATIONAL-4", "COMPUTATIONAL-5"]

/-- Words that begin a clause, so that an entry with one of them in second place has no name. -/
def clauseWords : List Text :=
  ["FILLER", "RENAMES", "REDEFINES", "BLANK", "EXTERNAL", "GLOBAL", "GROUP-USAGE", "JUSTIFIED",
   "JUST", "OCCURS", "PICTURE", "PIC", "SIGN", "SYNCHRONIZED", "SYNC", "USAGE", "VALUE", "VALUES"]

def pictureWords : List Text := ["PIC", "PICTURE"]

def valueWords : List Text := ["VALUE", "VALUES"]

def isUsageWord (word : Text) : Bool := isOneOf usageWords word

def isNameless (word : Text) : Bool := isOneOf clauseWords word || isUsageWord word

end Word
end Copybook
