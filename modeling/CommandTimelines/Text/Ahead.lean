/-!
# Characters ahead

A reader takes the characters ahead and gives what it has read together with the characters that
follow, or nothing if they do not begin with such a thing. A reader of texts that goes through
them character by character puts each one before what it reads next.
-/

namespace CommandTimelines.Text

/-- What has been read with a character before it. -/
def withChar (c : Char) (rest : Option (List Char × List Char)) :
    Option (List Char × List Char) :=
  rest.map fun (s, r) => (c :: s, r)

end CommandTimelines.Text
