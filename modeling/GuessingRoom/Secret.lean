import GuessingRoom.Text.LowerCase
import GuessingRoom.Text.WordChar
import GuessingRoom.Model

/-!
# Keeping a word secret

The secret word is shown with its letters and digits covered up, and a message that spells it out
is shown to nobody but its author.
-/

namespace GuessingRoom.Secret

/-- What stands in place of a message that spells out the secret. -/
def redacted : String := "***"

def maskChar (c : Char) : Char := if Text.isWordChar c then '*' else c

/-- The shape of a word: its spaces and punctuation, with a star for each other character. -/
def mask (word : String) : String := String.ofList (word.toList.map maskChar)

/-- Whether two texts are the same but for the case of their letters. -/
def sameWord (content secret : String) : Bool :=
  content == secret || Text.lower content.toList == Text.lower secret.toList

/-- What the viewer sees of the author's message. -/
def visibleContent (content secret : String) (viewer author : Id) : String :=
  if viewer ≠ author ∧ sameWord content secret then redacted else content

theorem visibleContent_self (content secret : String) (author : Id) :
    visibleContent content secret author author = content := by
  simp [visibleContent]

end GuessingRoom.Secret
