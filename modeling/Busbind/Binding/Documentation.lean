import Busbind.Text.Blank

/-! Documentation lines of generated code for the description of a declaration. -/
namespace Busbind.Documentation
open Text (isBlank trim lines)

def tag : List Char := "@description:".toList

def withoutTag (cs : List Char) : List Char := if tag.isPrefixOf cs then cs.drop tag.length else cs

def isBlankLine (cs : List Char) : Bool := cs.all isBlank

def withoutBlankEdges (ls : List (List Char)) : List (List Char) :=
  ((ls.dropWhile isBlankLine).reverse.dropWhile isBlankLine).reverse

/-- One line for each line of a description, each without white space at its ends and after one
space. -/
def ofDescription (description : String) : List String :=
  (withoutBlankEdges ((lines (withoutTag (trim description.toList))).map trim)).map fun l =>
    String.ofList (' ' :: l)

end Busbind.Documentation
