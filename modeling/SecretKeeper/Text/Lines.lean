/-!
The lines of a text that ends with a line feed of its own. A carriage return right before a line
feed belongs to the end of the line.
-/
namespace SecretKeeper.Text

def withoutReturn (s : List Char) : List Char :=
  if s.getLast? = some '\r' then s.dropLast else s

def lines (s : String) : List String :=
  (s.toList.splitOn '\n').map fun line => String.ofList (withoutReturn line)

end SecretKeeper.Text
