/-!
# Fields between separators
-/

namespace LandingGuidance.Text

/-- The parts of a text between the occurrences of a separator. There is one more part than there
are separators, so even an empty text has one. -/
def fields (separator : Char) : List Char → List (List Char)
  | [] => [[]]
  | c :: cs =>
    if c = separator then [] :: fields separator cs
    else
      match fields separator cs with
      | [] => [[c]]
      | part :: parts => (c :: part) :: parts

end LandingGuidance.Text
