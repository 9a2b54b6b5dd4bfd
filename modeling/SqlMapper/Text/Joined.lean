/-!
# Joined items

Items written one after the other, with a separator after each one that wrote something.
-/

namespace SqlMapper.Text

/-- The items in order; a separator stands before an item only if the item before it is not empty. -/
def joinedBy (separator : String) : List String → String
  | [] => ""
  | [item] => item
  | item :: rest => item ++ (if item.isEmpty then "" else separator) ++ joinedBy separator rest

/-- The items in order with a separator between any two. -/
def commaSeparated (items : List String) : String := String.intercalate ", " items

end SqlMapper.Text
