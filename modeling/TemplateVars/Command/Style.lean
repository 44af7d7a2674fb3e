/-!
# Text styles

Pieces of text can be set off by colour or weight where the reader can see it.
A piece starts with the control sequence of its style and ends with the one that
resets all styles. A reset within a piece ends that piece's style too early, so
the style is taken up again behind it.
-/

namespace TemplateVars

/-- A way to set off a piece of text. -/
inductive Style where
  /-- Heavy type. -/
  | bold
  /-- Faint type. -/
  | dimmed
  | red
  | green
  | yellow
  | cyan
  deriving DecidableEq

namespace Style

/-- The number of a style in its control sequence. -/
def code : Style → List Char
  | bold => ['1']
  | dimmed => ['2']
  | red => ['3', '1']
  | green => ['3', '2']
  | yellow => ['3', '3']
  | cyan => ['3', '6']

/-- The control sequence that starts a style. -/
def opening (s : Style) : List Char := '\x1b' :: '[' :: s.code ++ ['m']

/-- The control sequence that resets all styles. -/
def reset : List Char := ['\x1b', '[', '0', 'm']

/-- Take up a style again behind every reset. -/
def resume (s : Style) : List Char → List Char
  | '\x1b' :: '[' :: '0' :: 'm' :: rest => reset ++ s.opening ++ s.resume rest
  | c :: rest => c :: s.resume rest
  | [] => []

/-- Set off a text, or leave it as it is where styles are not seen. -/
def paint (colored : Bool) (s : Style) (text : String) : String :=
  if colored then String.ofList (s.opening ++ s.resume text.toList ++ reset) else text

end Style

end TemplateVars
