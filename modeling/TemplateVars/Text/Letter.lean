import TemplateVars.Text.Blank
import TemplateVars.Text.Letter.Table

/-!
# Letters

Which characters count as letters and which as letters or numbers, in all
scripts.
-/

namespace TemplateVars.Text

/-- Whether a character is a letter. -/
def isLetter (c : Char) : Bool := inRanges alphabeticRanges c

/-- Whether a character is a letter or a number. -/
def isLetterOrNumber (c : Char) : Bool := isLetter c || inRanges numberRanges c

end TemplateVars.Text
