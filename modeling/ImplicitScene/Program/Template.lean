import ImplicitScene.Text.Replace

/-!
# Templates

A template is a text with slots.  A slot is a name in braces after a dollar sign.
Slots are filled one name after the other, so a value may bring in slots that a
later name fills.
-/

namespace ImplicitScene.Template

/-- The slot of a name. -/
def slot (name : String) : String := "$" ++ Text.braced name

/-- Fill slots.  Slots of other names stay. -/
def fill (template : String) (values : List (String × String)) : String :=
  values.foldl (fun text (name, value) => Text.replaceAll text (slot name) value) template

/-- The names of slots.  Inside a slot, `name` holds the characters so far in reverse. -/
def slotsFrom : (name : Option (List Char)) → List Char → List (List Char)
  | _, [] => []
  | none, '$' :: '\x7b' :: cs => slotsFrom (some []) cs
  | none, _ :: cs => slotsFrom none cs
  | some name, '\x7d' :: cs => name.reverse :: slotsFrom none cs
  | some name, c :: cs => slotsFrom (some (c :: name)) cs

/-- The names of the slots in a text, in order. -/
def slots (text : String) : List String := (slotsFrom none text.toList).map String.ofList

end ImplicitScene.Template
